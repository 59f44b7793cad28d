import KernelTyping.Proofs.Stripping
import KernelTyping.Proofs.TyperAnswers

set_option autoImplicit false

/-! # Atomic updates

An atomic update takes an array, an index and a value. The array decides whether it is typed,
and the value is not looked at (`LooksAtArray`), so the typer is run on the stripped arguments
just if the array itself is a literal (`LooksAtArray.retrying_eq`); a literal index or value
alone leads to no other answer. From this follow the exact answers of the four atomics
(`resolveCall_atomic_eq`).
-/

namespace KernelTyping.Cuda

/-! ## What is updated -/

/-- The index that is seen by the run which is answered: it is stripped along with the array. -/
def seenIndex (array index : Ty) : Ty := if array.isLiteral then index.unliteral else index

/-- Whether a signature is that of an update of an element of type `elem`: the array behaves as
one with dimensions, one of one dimension is indexed by `intp`, and all others by the index that
is seen. -/
def Updates (intp elem : Ty) (args : List Ty) (sig : Signature) : Prop :=
  ∃ array index value ndim, args = [array, index, value] ∧ array.unliteral = .array elem ndim
    ∧ ndim ≠ 0
    ∧ sig = ⟨[.array elem ndim, if ndim = 1 then intp else seenIndex array index, elem], elem⟩

/-- Whether a signature is that of a compare-and-swap: the array behaves as one of `int32` with
one dimension, whatever the other two arguments are. -/
def Swaps (args : List Ty) (sig : Signature) : Prop :=
  (∃ array old value, args = [array, old, value]
      ∧ array.unliteral = .array (.scalar .int32) 1)
    ∧ sig = ⟨[.array (.scalar .int32) 1, .scalar .int32, .scalar .int32], .scalar .int32⟩

/-! ## Typers that look at the array -/

/-- A typer of three arguments whose first one has to be an array, no literal, and decides
whether there is an answer; the last one is not looked at. -/
structure LooksAtArray (typer : Typer) : Prop where
  length : ∀ args sig, typer args = .ok (some sig) → args.length = 3
  literal : ∀ base value rest, typer (.literal base value :: rest) = .ok none
  index : ∀ array index index' value, typer [array, index, value] = .ok none →
    typer [array, index', value] = .ok none
  value : ∀ array index value value', typer [array, index, value] = typer [array, index, value']

namespace LooksAtArray

variable {typer : Typer}

/-- A literal around the array is what sends a call to the second run. -/
theorem retrying_eq (h : LooksAtArray typer) (array index value : Ty) :
    typer.retrying [array, index, value]
      = typer [array.unliteral, seenIndex array index, value] := by
  have hdecided : typer.retrying [array, index, value]
      = typer (if array.isLiteral then stripLiterals [array, index, value]
          else [array, index, value]) := by
    refine Typer.retrying_eq_ite ?_ ?_
    · intro hliteral
      obtain ⟨base, value', rfl⟩ := array.isLiteral_iff.1 hliteral
      exact h.literal base value' _
    · intro hplain hnone
      show typer [array.unliteral, index.unliteral, value.unliteral] = .ok none
      rw [Ty.unliteral_of_not_isLiteral hplain, h.value _ _ _ value]
      exact h.index array index _ value hnone
  rw [hdecided, seenIndex]
  cases hplain : array.isLiteral with
  | true => exact h.value _ _ _ value
  | false =>
      rw [Ty.unliteral_of_not_isLiteral hplain]
      rfl

theorem retrying_eq_some_iff (h : LooksAtArray typer) (args : List Ty) (sig : Signature) :
    typer.retrying args = .ok (some sig) ↔
      ∃ array index value, args = [array, index, value]
        ∧ typer [array.unliteral, seenIndex array index, value] = .ok (some sig) := by
  constructor
  · intro hsig
    have hlength : args.length = 3 := Typer.length_of_retrying h.length hsig
    match args, hlength with
    | [array, index, value], _ =>
      rw [h.retrying_eq] at hsig
      exact ⟨array, index, value, rfl, hsig⟩
  · rintro ⟨array, index, value, rfl, hsig⟩
    rw [h.retrying_eq, hsig]

/-- The value does not matter for the second run either. -/
theorem retrying_value (h : LooksAtArray typer) (array index value value' : Ty) :
    typer.retrying [array, index, value] = typer.retrying [array, index, value'] := by
  rw [h.retrying_eq, h.retrying_eq, h.value _ _ _ value']

end LooksAtArray

/-! ## The typers of the atomics -/

theorem atomicUpdate_eq_none_iff (intp elem : Ty) (ndim : UInt32) (index : Ty) :
    atomicUpdate intp elem ndim index = none ↔ ndim = 0 := by
  unfold atomicUpdate
  by_cases h0 : ndim = 0
  · simp [h0]
  · by_cases h1 : ndim = 1 <;> simp [h0, h1]

theorem looksAtArray_atomicAdd (intp : Ty) : LooksAtArray (atomicAdd intp) where
  length := by
    intro args sig h
    obtain ⟨elem, ndim, index, value, rfl, -, -⟩ := (atomicAdd_eq_some_iff intp args sig).1 h
    rfl
  literal _ _ _ := rfl
  index array index index' value h := by
    cases array with
    | array elem ndim =>
        have hndim : ndim = 0 := (atomicUpdate_eq_none_iff intp elem ndim index).1 (Except.ok.inj h)
        exact congrArg Except.ok ((atomicUpdate_eq_none_iff intp elem ndim index').2 hndim)
    | _ => rfl
  value array index value value' := by cases array <;> rfl

theorem looksAtArray_atomicMaxMin (intp : Ty) : LooksAtArray (atomicMaxMin intp) where
  length := by
    intro args sig h
    obtain ⟨elem, -, ndim, index, value, rfl, -, -⟩ :=
      (atomicMaxMin_eq_some_iff intp args sig).1 h
    rfl
  literal _ _ _ := rfl
  index array index index' value h := by
    cases array with
    | array elem ndim =>
        simp only [atomicMaxMin, Except.ok.injEq, ite_eq_right_iff, atomicUpdate_eq_none_iff] at h ⊢
        exact h
    | _ => rfl
  value array index value value' := by cases array <;> rfl

theorem looksAtArray_compareAndSwap : LooksAtArray compareAndSwap where
  length := by
    intro args sig h
    obtain ⟨⟨index, value, rfl⟩, -⟩ := (compareAndSwap_eq_some_iff args sig).1 h
    rfl
  literal _ _ _ := rfl
  index array index index' value h := by cases array <;> exact h
  value array index value value' := by cases array <;> rfl

/-- The arguments of the run that is answered, put back together with those of the call. -/
theorem updates_iff (intp elem : Ty) (args : List Ty) (sig : Signature) :
    Updates intp elem args sig ↔
      ∃ array index value, args = [array, index, value]
        ∧ IsUpdate intp elem [array.unliteral, seenIndex array index, value] sig := by
  constructor
  · rintro ⟨array, index, value, ndim, rfl, harray, hndim, rfl⟩
    refine ⟨array, index, value, rfl, ndim, seenIndex array index, value, ?_, hndim, rfl⟩
    rw [harray]
  · rintro ⟨array, index, value, rfl, ndim, index', value', hargs, hndim, rfl⟩
    obtain ⟨harray, hrest⟩ := List.cons.inj hargs
    obtain ⟨rfl, -⟩ := List.cons.inj hrest
    exact ⟨array, index, value, ndim, rfl, harray, hndim, rfl⟩

theorem retrying_atomicAdd_eq_some_iff (intp : Ty) (args : List Ty) (sig : Signature) :
    (atomicAdd intp).retrying args = .ok (some sig) ↔ ∃ elem, Updates intp elem args sig := by
  rw [(looksAtArray_atomicAdd intp).retrying_eq_some_iff]
  simp only [atomicAdd_eq_some_iff, updates_iff]
  constructor
  · rintro ⟨array, index, value, hargs, elem, h⟩
    exact ⟨elem, array, index, value, hargs, h⟩
  · rintro ⟨elem, array, index, value, hargs, h⟩
    exact ⟨array, index, value, hargs, elem, h⟩

theorem retrying_atomicMaxMin_eq_some_iff (intp : Ty) (args : List Ty) (sig : Signature) :
    (atomicMaxMin intp).retrying args = .ok (some sig) ↔
      ∃ elem ∈ orderedElemTypes, Updates intp elem args sig := by
  rw [(looksAtArray_atomicMaxMin intp).retrying_eq_some_iff]
  simp only [atomicMaxMin_eq_some_iff, updates_iff]
  constructor
  · rintro ⟨array, index, value, hargs, elem, hmem, h⟩
    exact ⟨elem, hmem, array, index, value, hargs, h⟩
  · rintro ⟨elem, hmem, array, index, value, hargs, h⟩
    exact ⟨array, index, value, hargs, elem, hmem, h⟩

theorem retrying_compareAndSwap_eq_some_iff (args : List Ty) (sig : Signature) :
    compareAndSwap.retrying args = .ok (some sig) ↔ Swaps args sig := by
  rw [looksAtArray_compareAndSwap.retrying_eq_some_iff]
  simp only [compareAndSwap_eq_some_iff, Swaps]
  constructor
  · rintro ⟨array, index, value, hargs, ⟨index', value', harray⟩, hsig⟩
    exact ⟨⟨array, index, value, hargs, (List.cons.inj harray).1⟩, hsig⟩
  · rintro ⟨⟨array, index, value, hargs, harray⟩, hsig⟩
    exact ⟨array, index, value, hargs, ⟨_, _, by rw [harray]⟩, hsig⟩

/-- The result of an update is the element type. -/
theorem Updates.ret_eq {intp elem : Ty} {args : List Ty} {sig : Signature}
    (h : Updates intp elem args sig) : sig.ret = elem := by
  obtain ⟨array, index, value, ndim, -, -, -, rfl⟩ := h
  rfl

/-! ## Through the registry -/

/-- The atomics are rules of the surface, and each of them looks at its array. -/
theorem surfaceRule_of_mem_atomicRules {config : EngineConfig} (parser : ArraySpecParser)
    {name : String} {rule : Rule} (h : (name, rule) ∈ atomicRules config) :
    SurfaceRule config parser (atomic.member name) rule
      ∧ ∃ typer, rule = .predicate typer ∧ LooksAtArray typer := by
  simp only [atomicRules, List.mem_cons, Prod.mk.injEq, List.not_mem_nil, or_false] at h
  rcases h with ⟨rfl, rfl⟩ | ⟨rfl, rfl⟩ | ⟨rfl, rfl⟩ | ⟨rfl, rfl⟩
  · exact ⟨.atomicAdd, _, rfl, looksAtArray_atomicAdd config.intp⟩
  · exact ⟨.atomicMaxMin (.inl rfl), _, rfl, looksAtArray_atomicMaxMin config.intp⟩
  · exact ⟨.atomicMaxMin (.inr rfl), _, rfl, looksAtArray_atomicMaxMin config.intp⟩
  · exact ⟨.compareAndSwap, _, rfl, looksAtArray_compareAndSwap⟩

/-- **Atomics are typed exactly.** Whatever the configuration and the parser, no atomic without
keyword arguments is an error. An addition has a signature just if its first argument behaves as
an array with dimensions. Maximum and minimum are typed alike: as the addition, if the elements
can be ordered, and not at all otherwise. A compare-and-swap has its one signature just for an
`int32` array of one dimension. The type of the value never matters. -/
theorem resolveCall_atomic_eq (config : EngineConfig) (parser : ArraySpecParser) :
    ∃ r, registry config parser = .ok r
      ∧ (∀ args, ∃ added ordered swapped,
        r.resolveCall (atomic.member "add") args .empty = .ok added
        ∧ r.resolveCall (atomic.member "max") args .empty = .ok ordered
        ∧ r.resolveCall (atomic.member "min") args .empty = .ok ordered
        ∧ r.resolveCall (atomic.member "compare_and_swap") args .empty = .ok swapped
        ∧ (∀ sig, added = some sig ↔ ∃ elem, Updates config.intp elem args sig)
        ∧ (∀ sig, ordered = some sig ↔
          ∃ elem ∈ orderedElemTypes, Updates config.intp elem args sig)
        ∧ (∀ sig, ordered = some sig ↔ added = some sig ∧ sig.ret ∈ orderedElemTypes)
        ∧ ∀ sig, swapped = some sig ↔ Swaps args sig)
      ∧ ∀ entry ∈ atomicRules config, ∀ array index value value',
        r.resolveCall (atomic.member entry.1) [array, index, value] .empty
          = r.resolveCall (atomic.member entry.1) [array, index, value'] .empty := by
  obtain ⟨r, hr⟩ := exists_registry config parser
  refine ⟨r, hr, ?_, ?_⟩
  · intro args
    obtain ⟨added, hadd⟩ := (total_atomicAdd config.intp).retrying args
    obtain ⟨ordered, horder⟩ := (total_atomicMaxMin config.intp).retrying args
    obtain ⟨swapped, hswap⟩ := total_compareAndSwap.retrying args
    have hadded : ∀ sig, added = some sig ↔ ∃ elem, Updates config.intp elem args sig := by
      intro sig
      rw [← retrying_atomicAdd_eq_some_iff, hadd, Except.ok.injEq]
    have hordered : ∀ sig, ordered = some sig ↔
        ∃ elem ∈ orderedElemTypes, Updates config.intp elem args sig := by
      intro sig
      rw [← retrying_atomicMaxMin_eq_some_iff, horder, Except.ok.injEq]
    refine ⟨added, ordered, swapped, ?_, ?_, ?_, ?_, hadded, hordered, ?_, ?_⟩
    · rw [resolveCall_of_surfaceRule hr .atomicAdd, Rule.outcome, hadd, mapError_ok]
    · rw [resolveCall_of_surfaceRule hr (.atomicMaxMin (.inl rfl)), Rule.outcome, horder,
        mapError_ok]
    · rw [resolveCall_of_surfaceRule hr (.atomicMaxMin (.inr rfl)), Rule.outcome, horder,
        mapError_ok]
    · rw [resolveCall_of_surfaceRule hr .compareAndSwap, Rule.outcome, hswap, mapError_ok]
    · intro sig
      rw [hordered, hadded]
      constructor
      · rintro ⟨elem, hmem, h⟩
        exact ⟨⟨elem, h⟩, h.ret_eq ▸ hmem⟩
      · rintro ⟨⟨elem, h⟩, hmem⟩
        exact ⟨elem, h.ret_eq ▸ hmem, h⟩
    · intro sig
      rw [← retrying_compareAndSwap_eq_some_iff, hswap, Except.ok.injEq]
  · rintro ⟨name, rule⟩ hentry array index value value'
    obtain ⟨hrule, typer, rfl, htyper⟩ := surfaceRule_of_mem_atomicRules parser hentry
    rw [resolveCall_of_surfaceRule hr hrule, resolveCall_of_surfaceRule hr hrule, Rule.outcome,
      htyper.retrying_value array index value value']

-- The index loses its literal with the array, and keeps it where only the value is a literal.
example :
    let array : Ty := .array (.scalar .float32) 2
    let index : Ty := .tuple [.intLiteral 0, .intLiteral 1]
    let typed (array index value : Ty) :=
      (atomicAdd (.scalar .int64)).retrying [array, .literal index (.bool true), value]
    typed array index (.intLiteral 1)
        = .ok (some ⟨[array, .literal index (.bool true), .scalar .float32], .scalar .float32⟩)
      ∧ typed (.literal array (.int 0)) index .unit
        = .ok (some ⟨[array, index, .scalar .float32], .scalar .float32⟩) := by
  exact ⟨rfl, rfl⟩

end KernelTyping.Cuda
