import KernelTyping.Proofs.StaticShapes
import KernelTyping.Proofs.Stripping
import KernelTyping.Proofs.TyperAnswers

set_option autoImplicit false

/-! # Array allocations

An allocation is typed if the shape is static and the parser reads both arguments, as they are
or, where that fails, with the literals stripped (`Allocates`). The parser belongs to the host
and may read anything, but it is asked only about static shapes. A shape that is an integer
literal has lost its extent once it is stripped, so the second attempt never types such an
allocation (`isStaticShape_unliteral_of_isInteger`).
-/

namespace KernelTyping

/-! ## What a parser makes of an allocation -/

/-- Whether a shape is static, and a parser finds so many dimensions in it and this element
type in the other argument. -/
structure ArraySpecParser.Reads (parser : ArraySpecParser) (shape dtype : Ty) (ndim : UInt32)
    (elem : Ty) : Prop where
  static : shape.isStaticShape = true
  rank : parser.rank shape = some ndim
  elem : parser.elem dtype = some elem

/-- The allocations that are typed, with their signatures. The stripped arguments count only if
the arguments as they are cannot be read, and if there is a literal to strip. -/
inductive Allocates (parser : ArraySpecParser) : List Ty → Signature → Prop
  | plain {shape dtype elem : Ty} {ndim : UInt32}
      (hreads : parser.Reads shape dtype ndim elem) :
      Allocates parser [shape, dtype] ⟨[shape, dtype], .array elem ndim⟩
  | stripped {shape dtype elem : Ty} {ndim : UInt32}
      (hplain : ∀ ndim' elem', ¬ parser.Reads shape dtype ndim' elem')
      (hliteral : shape.isLiteral = true ∨ dtype.isLiteral = true)
      (hreads : parser.Reads shape.unliteral dtype.unliteral ndim elem) :
      Allocates parser [shape, dtype] ⟨[shape.unliteral, dtype.unliteral], .array elem ndim⟩

/-- What behaves as an integer is no static shape once the literals are stripped. -/
theorem Ty.isStaticShape_unliteral_of_isInteger {shape : Ty} (h : shape.isInteger = true) :
    shape.unliteral.isStaticShape = false := by
  obtain ⟨width, sign, hshape⟩ := isInteger_iff.1 h
  rw [hshape]
  rfl

theorem Allocates.exists_static {parser : ArraySpecParser} {args : List Ty} {sig : Signature}
    (h : Allocates parser args sig) :
    ∃ shape dtype, sig.params = [shape, dtype] ∧ shape.isStaticShape = true := by
  cases h with
  | plain hreads => exact ⟨_, _, rfl, hreads.static⟩
  | stripped _ _ hreads => exact ⟨_, _, rfl, hreads.static⟩

/-- An allocation with an integer for its shape is typed as it is or not at all. -/
theorem Allocates.reads_of_isInteger {parser : ArraySpecParser} {shape dtype : Ty}
    {sig : Signature} (h : Allocates parser [shape, dtype] sig)
    (hshape : shape.isInteger = true) :
    ∃ ndim elem, parser.Reads shape dtype ndim elem
      ∧ sig = ⟨[shape, dtype], .array elem ndim⟩ := by
  cases h with
  | plain hreads => exact ⟨_, _, hreads, rfl⟩
  | stripped _ _ hreads =>
      have hstatic := hreads.static
      rw [Ty.isStaticShape_unliteral_of_isInteger hshape] at hstatic
      cases hstatic

namespace Cuda

variable {config : EngineConfig} {parser : ArraySpecParser}

/-! ## The typer and its second run -/

theorem allocate_eq_some_iff_reads (args : List Ty) (sig : Signature) :
    allocate parser args = .ok (some sig) ↔
      ∃ shape dtype ndim elem, args = [shape, dtype] ∧ parser.Reads shape dtype ndim elem
        ∧ sig = ⟨[shape, dtype], .array elem ndim⟩ := by
  rw [allocate_eq_some_iff]
  constructor
  · rintro ⟨shape, dtype, ndim, elem, hargs, hstatic, hrank, helem, hsig⟩
    exact ⟨shape, dtype, ndim, elem, hargs, ⟨hstatic, hrank, helem⟩, hsig⟩
  · rintro ⟨shape, dtype, ndim, elem, hargs, hreads, hsig⟩
    exact ⟨shape, dtype, ndim, elem, hargs, hreads.static, hreads.rank, hreads.elem, hsig⟩

theorem allocate_eq_none_iff (shape dtype : Ty) :
    allocate parser [shape, dtype] = .ok none ↔
      ∀ ndim elem, ¬ parser.Reads shape dtype ndim elem := by
  constructor
  · intro hnone ndim elem hreads
    have hsome : allocate parser [shape, dtype] = .ok (some ⟨[shape, dtype], .array elem ndim⟩) :=
      (allocate_eq_some_iff_reads _ _).2 ⟨shape, dtype, ndim, elem, rfl, hreads, rfl⟩
    rw [hnone] at hsome
    cases hsome
  · intro hreads
    obtain ⟨_ | sig, hfound⟩ := total_allocate parser [shape, dtype]
    · exact hfound
    · obtain ⟨shape', dtype', ndim, elem, hargs, hreads', -⟩ :=
        (allocate_eq_some_iff_reads _ _).1 hfound
      cases hargs
      exact absurd hreads' (hreads ndim elem)

/-- An allocation is answered in one of the two ways, and in no other. -/
theorem retrying_allocate_eq_some_iff (args : List Ty) (sig : Signature) :
    (allocate parser).retrying args = .ok (some sig) ↔ Allocates parser args sig := by
  rw [Typer.retrying_eq_some_iff, allocate_eq_some_iff_reads, allocate_eq_some_iff_reads]
  constructor
  · rintro (⟨shape, dtype, ndim, elem, rfl, hreads, rfl⟩
      | ⟨hnone, hliteral, shape, dtype, ndim, elem, hargs, hreads, rfl⟩)
    · exact .plain hreads
    · -- Stripping keeps the number of the arguments.
      match args, hargs with
      | [shape', dtype'], hargs =>
        cases hargs
        exact .stripped ((allocate_eq_none_iff shape' dtype').1 hnone)
          (by simpa using hliteral) hreads
  · intro h
    cases h with
    | @plain shape dtype elem ndim hreads =>
        exact .inl ⟨shape, dtype, ndim, elem, rfl, hreads, rfl⟩
    | @stripped shape dtype elem ndim hplain hliteral hreads =>
        refine .inr ⟨(allocate_eq_none_iff shape dtype).2 hplain, by simpa using hliteral, ?_⟩
        exact ⟨shape.unliteral, dtype.unliteral, ndim, elem, rfl, hreads, rfl⟩

/-! ## Through the registry -/

theorem resolveCall_allocate {r : Registry} (hr : registry config parser = .ok r)
    {ns : NamespaceId} (hns : ns = sharedMemory ∨ ns = localMemory) (args : List Ty) :
    r.resolveCall (ns.member "array") args .empty
      = ((allocate parser).retrying args).mapError (.invalidLiteral (ns.member "array")) := by
  exact resolveCall_of_surfaceRule hr (.allocate hns) args

/-- **Array allocations are typed exactly.** Whatever the configuration and the parser, shared
and local arrays are typed alike and no call is an error. A call has a signature just if the
shape is static and the parser reads both arguments as they are, or else there is a literal to
strip and this holds of the stripped arguments; then the signature is that of the arguments that
were read. All other calls, also those with another number of arguments, have no answer. The
first parameter is always a static shape, and a shape that behaves as an integer, be it a
literal or not, is typed as it is or not at all. -/
theorem resolveCall_array_eq (config : EngineConfig) (parser : ArraySpecParser) :
    ∃ r, registry config parser = .ok r ∧ ∀ args, ∃ found,
      (∀ ns, ns = sharedMemory ∨ ns = localMemory →
        r.resolveCall (ns.member "array") args .empty = .ok found)
      ∧ (∀ sig, found = some sig ↔ Allocates parser args sig)
      ∧ (found = none ↔ ∀ sig, ¬ Allocates parser args sig)
      ∧ (∀ sig, found = some sig →
        ∃ shape dtype, sig.params = [shape, dtype] ∧ shape.isStaticShape = true)
      ∧ ∀ shape dtype sig, args = [shape, dtype] → shape.isInteger = true → found = some sig →
        ∃ ndim elem, parser.Reads shape dtype ndim elem
          ∧ sig = ⟨[shape, dtype], .array elem ndim⟩ := by
  obtain ⟨r, hr⟩ := exists_registry config parser
  refine ⟨r, hr, ?_⟩
  intro args
  obtain ⟨found, hfound⟩ := (total_allocate parser).retrying args
  have hallocates : ∀ sig, found = some sig ↔ Allocates parser args sig := by
    intro sig
    rw [← retrying_allocate_eq_some_iff, hfound, Except.ok.injEq]
  refine ⟨found, ?_, hallocates, ?_, ?_, ?_⟩
  · intro ns hns
    rw [resolveCall_allocate hr hns, hfound, mapError_ok]
  · rw [Option.eq_none_iff_forall_ne_some]
    exact forall_congr' fun sig => not_congr (hallocates sig)
  · intro sig hsig
    exact ((hallocates sig).1 hsig).exists_static
  · rintro shape dtype sig rfl hshape hsig
    exact ((hallocates sig).1 hsig).reads_of_isInteger hshape

-- A literal around a static tuple is no integer, and only the tuple inside it can be read.
example :
    let shape : Ty := .tuple [.intLiteral 4, .intLiteral 8]
    (allocate .standard).retrying [.literal shape (.int 4), .numberClass (.scalar .float32)]
      = .ok (some ⟨[shape, .numberClass (.scalar .float32)], .array (.scalar .float32) 2⟩) := by
  rfl

end Cuda

end KernelTyping
