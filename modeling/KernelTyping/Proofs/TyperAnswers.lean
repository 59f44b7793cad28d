import KernelTyping.Cuda.Typers

set_option autoImplicit false

/-! # What the typers of the built-in intrinsics answer

For each typer the arguments that it answers, with the signature that it answers them with
(`gridDims_eq_some_iff` and its neighbours). The atomic updates share one shape, `IsUpdate`.
-/

namespace KernelTyping.Cuda

/-! ## Grid queries -/

/-- Whether the arguments ask for so many dimensions: there is one, and its outermost literal is
this number, whatever the base of the literal. -/
def AsksFor (n : Int64) (args : List Ty) : Prop :=
  ∃ ndim : Ty, args = [ndim] ∧ ndim.literalInt? = some n

/-- The numbers of dimensions that a grid can have. -/
def gridRanks : List Int64 := [1, 2, 3]

/-- The result of a query for so many dimensions. -/
inductive GridResult : Int64 → Ty → Prop
  | line : GridResult 1 (.scalar .int32)
  | plane : GridResult 2 (.tuple [.scalar .int32, .scalar .int32])
  | space : GridResult 3 (.tuple [.scalar .int32, .scalar .int32, .scalar .int32])

/-- The refusal of a number of dimensions. -/
def refusedRank (n : Int64) : LiteralDomainError := ⟨.int n, "1, 2, or 3"⟩

theorem exists_gridResult_iff (n : Int64) : (∃ ret, GridResult n ret) ↔ n ∈ gridRanks := by
  constructor
  · rintro ⟨ret, h⟩
    cases h <;> decide
  · intro h
    simp only [gridRanks, List.mem_cons, List.not_mem_nil, or_false] at h
    rcases h with rfl | rfl | rfl
    · exact ⟨_, .line⟩
    · exact ⟨_, .plane⟩
    · exact ⟨_, .space⟩

theorem gridDims_of_gridResult {n : Int64} {args : List Ty} {ret : Ty} (hargs : AsksFor n args)
    (hret : GridResult n ret) : gridDims args = .ok (some ⟨[.scalar .int32], ret⟩) := by
  obtain ⟨ndim, rfl, hn⟩ := hargs
  simp only [gridDims, hn]
  cases hret <;> rfl

theorem gridDims_of_not_mem_gridRanks {n : Int64} {args : List Ty} (hargs : AsksFor n args)
    (hn : n ∉ gridRanks) : gridDims args = .error (refusedRank n) := by
  obtain ⟨ndim, rfl, hndim⟩ := hargs
  simp only [gridRanks, List.mem_cons, List.not_mem_nil, or_false, not_or] at hn
  obtain ⟨h1, h2, h3⟩ := hn
  simp only [gridDims, hndim, h1, h2, h3, if_false, refusedRank]

theorem gridDims_of_not_asksFor {args : List Ty} (h : ∀ n, ¬ AsksFor n args) :
    gridDims args = .ok none := by
  unfold gridDims
  split
  case h_1 ndim =>
    split
    case h_1 => rfl
    case h_2 n hn => exact absurd ⟨ndim, rfl, hn⟩ (h n)
  case h_2 => rfl

/-- Arguments ask for a number of dimensions that a grid can have, or for another number, or for
none. -/
theorem gridDims_cases (args : List Ty) :
    (∃ n ret, AsksFor n args ∧ GridResult n ret
        ∧ gridDims args = .ok (some ⟨[.scalar .int32], ret⟩))
      ∨ (∃ n, AsksFor n args ∧ n ∉ gridRanks ∧ gridDims args = .error (refusedRank n))
      ∨ (∀ n, ¬ AsksFor n args) ∧ gridDims args = .ok none := by
  by_cases hasks : ∃ n, AsksFor n args
  · obtain ⟨n, hn⟩ := hasks
    by_cases hmem : n ∈ gridRanks
    · obtain ⟨ret, hret⟩ := (exists_gridResult_iff n).2 hmem
      exact .inl ⟨n, ret, hn, hret, gridDims_of_gridResult hn hret⟩
    · exact .inr (.inl ⟨n, hn, hmem, gridDims_of_not_mem_gridRanks hn hmem⟩)
  · have hnone : ∀ n, ¬ AsksFor n args := not_exists.1 hasks
    exact .inr (.inr ⟨hnone, gridDims_of_not_asksFor hnone⟩)

/-- A grid query is answered for one, two or three dimensions. -/
theorem gridDims_eq_some_iff (args : List Ty) (sig : Signature) :
    gridDims args = .ok (some sig) ↔
      ∃ n ret, AsksFor n args ∧ GridResult n ret ∧ sig = ⟨[.scalar .int32], ret⟩ := by
  constructor
  · intro h
    rcases gridDims_cases args with ⟨n, ret, hn, hret, heq⟩ | ⟨n, -, -, heq⟩ | ⟨-, heq⟩
    · rw [heq] at h
      exact ⟨n, ret, hn, hret, (Option.some.inj (Except.ok.inj h)).symm⟩
    · rw [heq] at h
      cases h
    · rw [heq] at h
      cases h
  · rintro ⟨n, ret, hn, hret, rfl⟩
    exact gridDims_of_gridResult hn hret

/-! ## Selection -/

/-- A selection is answered if both operands have one type that can be selected from. -/
theorem select_eq_some_iff (args : List Ty) (sig : Signature) :
    select args = .ok (some sig) ↔
      ∃ test a, args = [test, a, a] ∧ a ∈ selectTypes ∧ sig = ⟨[test, a, a], a⟩ := by
  constructor
  · intro h
    unfold select at h
    split at h
    case h_2 => cases h
    case h_1 test a b =>
      obtain ⟨⟨rfl, hmem⟩, hsig⟩ := Option.ite_none_right_eq_some.1 (Except.ok.inj h)
      exact ⟨test, a, rfl, hmem, (Option.some.inj hsig).symm⟩
  · rintro ⟨test, a, rfl, hmem, rfl⟩
    show Except.ok (if a = a ∧ a ∈ selectTypes then _ else _) = _
    rw [if_pos ⟨rfl, hmem⟩]

/-! ## Atomic updates -/

/-- Whether a signature is that of an update of an element of type `elem`: the array has
dimensions, one of one dimension is indexed by `intp`, and all others by what they are
indexed with. -/
def IsUpdate (intp elem : Ty) (args : List Ty) (sig : Signature) : Prop :=
  ∃ ndim index value, args = [.array elem ndim, index, value] ∧ ndim ≠ 0
    ∧ sig = ⟨[.array elem ndim, if ndim = 1 then intp else index, elem], elem⟩

theorem atomicUpdate_eq_some_iff (intp elem : Ty) (ndim : UInt32) (index : Ty)
    (sig : Signature) :
    atomicUpdate intp elem ndim index = some sig ↔
      ndim ≠ 0
        ∧ sig = ⟨[.array elem ndim, if ndim = 1 then intp else index, elem], elem⟩ := by
  unfold atomicUpdate
  by_cases h0 : ndim = 0
  · simp [h0]
  · by_cases h1 : ndim = 1 <;> simp [h0, h1, eq_comm]

theorem atomicAdd_eq_some_iff (intp : Ty) (args : List Ty) (sig : Signature) :
    atomicAdd intp args = .ok (some sig) ↔ ∃ elem, IsUpdate intp elem args sig := by
  constructor
  · intro h
    unfold atomicAdd at h
    split at h
    case h_2 => cases h
    case h_1 elem ndim index value =>
      have hupdate := (atomicUpdate_eq_some_iff intp elem ndim index sig).1 (Except.ok.inj h)
      exact ⟨elem, ndim, index, value, rfl, hupdate⟩
  · rintro ⟨elem, ndim, index, value, rfl, hupdate⟩
    exact congrArg Except.ok ((atomicUpdate_eq_some_iff intp elem ndim index sig).2 hupdate)

theorem atomicMaxMin_eq_some_iff (intp : Ty) (args : List Ty) (sig : Signature) :
    atomicMaxMin intp args = .ok (some sig) ↔
      ∃ elem ∈ orderedElemTypes, IsUpdate intp elem args sig := by
  constructor
  · intro h
    unfold atomicMaxMin at h
    split at h
    case h_2 => cases h
    case h_1 elem ndim index value =>
      obtain ⟨hmem, hsig⟩ := Option.ite_none_right_eq_some.1 (Except.ok.inj h)
      have hupdate := (atomicUpdate_eq_some_iff intp elem ndim index sig).1 hsig
      exact ⟨elem, hmem, ndim, index, value, rfl, hupdate⟩
  · rintro ⟨elem, hmem, ndim, index, value, rfl, hupdate⟩
    show Except.ok (if elem ∈ orderedElemTypes then _ else _) = _
    rw [if_pos hmem, (atomicUpdate_eq_some_iff intp elem ndim index sig).2 hupdate]

/-- A compare-and-swap is answered for an `int32` array of one dimension, whatever the other
arguments are. -/
theorem compareAndSwap_eq_some_iff (args : List Ty) (sig : Signature) :
    compareAndSwap args = .ok (some sig) ↔
      (∃ index value, args = [.array (.scalar .int32) 1, index, value])
        ∧ sig = ⟨[.array (.scalar .int32) 1, .scalar .int32, .scalar .int32],
          .scalar .int32⟩ := by
  constructor
  · intro h
    unfold compareAndSwap at h
    split at h
    case h_2 => cases h
    case h_1 elem ndim index value =>
      obtain ⟨⟨rfl, rfl⟩, hsig⟩ := Option.ite_none_right_eq_some.1 (Except.ok.inj h)
      exact ⟨⟨index, value, rfl⟩, (Option.some.inj hsig).symm⟩
  · rintro ⟨⟨index, value, rfl⟩, rfl⟩
    rfl

/-! ## Arrays -/

/-- An allocation is answered if the shape is static and the parser reads both arguments. -/
theorem allocate_eq_some_iff (parser : ArraySpecParser) (args : List Ty) (sig : Signature) :
    allocate parser args = .ok (some sig) ↔
      ∃ shape dtype ndim elem, args = [shape, dtype] ∧ shape.isStaticShape = true
        ∧ parser.rank shape = some ndim ∧ parser.elem dtype = some elem
        ∧ sig = ⟨[shape, dtype], .array elem ndim⟩ := by
  constructor
  · intro h
    unfold allocate at h
    split at h
    case h_2 => cases h
    case h_1 shape dtype =>
      obtain ⟨hstatic, hsig⟩ := Option.ite_none_right_eq_some.1 (Except.ok.inj h)
      split at hsig
      case h_2 => cases hsig
      case h_1 ndim elem hrank helem =>
        exact ⟨shape, dtype, ndim, elem, rfl, hstatic, hrank, helem,
          (Option.some.inj hsig).symm⟩
  · rintro ⟨shape, dtype, ndim, elem, rfl, hstatic, hrank, helem, rfl⟩
    simp only [allocate, hstatic, hrank, helem, if_true]

theorem arrayLike_eq_some_iff (args : List Ty) (sig : Signature) :
    arrayLike args = .ok (some sig) ↔
      ∃ elem ndim, args = [.array elem ndim]
        ∧ sig = ⟨[.array elem ndim], .array elem ndim⟩ := by
  constructor
  · intro h
    unfold arrayLike at h
    split at h
    case h_2 => cases h
    case h_1 elem ndim =>
      exact ⟨elem, ndim, rfl, (Option.some.inj (Except.ok.inj h)).symm⟩
  · rintro ⟨elem, ndim, rfl, rfl⟩
    rfl

end KernelTyping.Cuda
