import KernelTyping.Proofs.Stripping
import KernelTyping.Proofs.TyperAnswers

set_option autoImplicit false

/-! # Parameters as arguments

The parameters of the signature that a call is answered with are the types that its arguments
are converted to. On the built-in surface they are settled: a call with the parameters for
arguments is answered with the same signature (`Typer.Settles`), for a table, for each typer,
and for a typer that is run again on the stripped arguments. Only the grid queries, whose
parameter is no literal, answer nothing then (`Cuda.resolveCall_params`).
-/

namespace KernelTyping

/-- Whether each signature that is answered has as many parameters as there are arguments, and
is answered again for its parameters. -/
def Typer.Settles (typer : Typer) : Prop :=
  ∀ args sig, typer args = .ok (some sig) →
    sig.params.length = args.length ∧ typer sig.params = .ok (some sig)

/-! ## Tables and second runs -/

theorem Rule.settles_fixedTable (cases : List Signature) :
    (Rule.fixedTable cases).outcome.Settles := by
  intro args sig h
  have hmatch : firstMatch cases args = some sig := Except.ok.inj h
  have hparams : sig.params = stripLiterals args := params_of_firstMatch hmatch
  refine ⟨by rw [hparams, stripLiterals, List.length_map], ?_⟩
  show Except.ok (firstMatch cases sig.params) = _
  rw [hparams, firstMatch_stripLiterals, hmatch]

/-- What is answered in the second run is answered in the first run for the parameters. -/
theorem Typer.Settles.retrying {typer : Typer} (h : typer.Settles) : typer.retrying.Settles := by
  intro args sig hsig
  have hfirst : ∀ args', args'.length = args.length → typer args' = .ok (some sig) →
      sig.params.length = args.length ∧ typer.retrying sig.params = .ok (some sig) := by
    intro args' hlength hanswer
    obtain ⟨hparams, hagain⟩ := h args' sig hanswer
    exact ⟨hparams.trans hlength, (typer.retrying_eq_some_iff sig.params sig).2 (.inl hagain)⟩
  rcases (typer.retrying_eq_some_iff args sig).1 hsig with hanswer | ⟨-, -, hanswer⟩
  · exact hfirst args rfl hanswer
  · exact hfirst (stripLiterals args) (List.length_map _) hanswer

namespace Cuda

/-! ## The typers -/

theorem settles_select : select.Settles := by
  intro args sig h
  obtain ⟨test, a, rfl, hmem, rfl⟩ := (select_eq_some_iff args sig).1 h
  exact ⟨rfl, h⟩

/-- The index of an update is the pointer type already, or else was not changed. -/
theorem IsUpdate.params {intp elem : Ty} {args : List Ty} {sig : Signature}
    (h : IsUpdate intp elem args sig) :
    sig.params.length = args.length ∧ IsUpdate intp elem sig.params sig := by
  obtain ⟨ndim, index, value, rfl, hndim, rfl⟩ := h
  refine ⟨rfl, ndim, if ndim = 1 then intp else index, elem, rfl, hndim, ?_⟩
  by_cases h1 : ndim = 1
  · simp only [if_pos h1]
  · simp only [if_neg h1]

theorem settles_atomicAdd (intp : Ty) : (atomicAdd intp).Settles := by
  intro args sig h
  obtain ⟨elem, hupdate⟩ := (atomicAdd_eq_some_iff intp args sig).1 h
  obtain ⟨hlength, hparams⟩ := hupdate.params
  exact ⟨hlength, (atomicAdd_eq_some_iff intp sig.params sig).2 ⟨elem, hparams⟩⟩

theorem settles_atomicMaxMin (intp : Ty) : (atomicMaxMin intp).Settles := by
  intro args sig h
  obtain ⟨elem, hmem, hupdate⟩ := (atomicMaxMin_eq_some_iff intp args sig).1 h
  obtain ⟨hlength, hparams⟩ := hupdate.params
  exact ⟨hlength, (atomicMaxMin_eq_some_iff intp sig.params sig).2 ⟨elem, hmem, hparams⟩⟩

theorem settles_compareAndSwap : compareAndSwap.Settles := by
  intro args sig h
  obtain ⟨⟨index, value, rfl⟩, rfl⟩ := (compareAndSwap_eq_some_iff args sig).1 h
  exact ⟨rfl, rfl⟩

/-- An allocation passes its arguments on, so whatever the parser reads it reads again. -/
theorem settles_allocate (parser : ArraySpecParser) : (allocate parser).Settles := by
  intro args sig h
  obtain ⟨shape, dtype, ndim, elem, rfl, -, -, -, rfl⟩ :=
    (allocate_eq_some_iff parser args sig).1 h
  exact ⟨rfl, h⟩

theorem settles_arrayLike : arrayLike.Settles := by
  intro args sig h
  obtain ⟨elem, ndim, rfl, rfl⟩ := (arrayLike_eq_some_iff args sig).1 h
  exact ⟨rfl, rfl⟩

/-! ## The surface -/

/-- All rules of the surface but those of the grid queries are settled. -/
theorem SurfaceRule.settles_or_gridDims {config : EngineConfig} {parser : ArraySpecParser}
    {id : IntrinsicId} {rule : Rule} (h : SurfaceRule config parser id rule) :
    rule.outcome.Settles
      ∨ (id = intrinsic "grid" ∨ id = intrinsic "gridsize")
        ∧ rule = .closureFactory fun _ => gridDims := by
  cases h with
  | table h =>
      obtain ⟨cases, rfl⟩ := exists_fixedTable_of_mem_tableRules h
      exact .inl (Rule.settles_fixedTable cases)
  | grid h => exact .inr ⟨h.imp (congrArg intrinsic) (congrArg intrinsic), rfl⟩
  | select => exact .inl settles_select.retrying
  | allocate h => exact .inl (settles_allocate parser).retrying
  | arrayLike => exact .inl settles_arrayLike.retrying
  | atomicAdd => exact .inl (settles_atomicAdd config.intp).retrying
  | atomicMaxMin h => exact .inl (settles_atomicMaxMin config.intp).retrying
  | compareAndSwap => exact .inl settles_compareAndSwap.retrying

/-- The parameter of a grid query is not one that it answers. -/
theorem gridDims_params {args : List Ty} {sig : Signature}
    (h : gridDims.retrying args = .ok (some sig)) :
    sig.params.length = args.length ∧ gridDims.retrying sig.params = .ok none := by
  rw [retrying_gridDims] at h ⊢
  obtain ⟨n, ret, ⟨ndim, rfl, -⟩, -, rfl⟩ := (gridDims_eq_some_iff args sig).1 h
  exact ⟨rfl, rfl⟩

/-- **Resolution is stable under its own conversion.** On the surface, whatever the
configuration and the parser, a signature has as many parameters as the call has arguments,
and a call with the parameters for arguments gets the same signature, unless it is a grid
query: that gets none. -/
theorem resolveCall_params (config : EngineConfig) (parser : ArraySpecParser) :
    ∃ r, registry config parser = .ok r
      ∧ ∀ id args sig, r.resolveCall id args .empty = .ok (some sig) →
        sig.params.length = args.length
          ∧ (id ≠ intrinsic "grid" ∧ id ≠ intrinsic "gridsize" →
            r.resolveCall id sig.params .empty = .ok (some sig))
          ∧ (id = intrinsic "grid" ∨ id = intrinsic "gridsize" →
            r.resolveCall id sig.params .empty = .ok none) := by
  obtain ⟨r, hr⟩ := exists_registry config parser
  refine ⟨r, hr, ?_⟩
  intro id args sig h
  simp only [Registry.resolveCall_empty, mapError_eq_ok_iff] at h ⊢
  cases hrule : r.rule? id with
  | none =>
      rw [Registry.typing_of_unregistered hrule] at h
      cases h
  | some rule =>
      have hsurface := (rule?_registry_iff hr id rule).1 hrule
      rw [Registry.typing_of_rule? hrule] at h ⊢
      by_cases hgrid : id = intrinsic "grid" ∨ id = intrinsic "gridsize"
      · obtain rfl := hsurface.unique (surfaceRule_grid config parser hgrid)
        obtain ⟨hlength, hparams⟩ := gridDims_params h
        refine ⟨hlength, ?_, fun _ => hparams⟩
        rintro ⟨hne, hne'⟩
        exact absurd hgrid (by simp [hne, hne'])
      · rcases hsurface.settles_or_gridDims with hsettles | ⟨hid, -⟩
        · obtain ⟨hlength, hparams⟩ := hsettles args sig h
          exact ⟨hlength, fun _ => hparams, fun hid => absurd hid hgrid⟩
        · exact absurd hid hgrid

end Cuda

end KernelTyping
