import KernelTyping.Proofs.Stripping
import KernelTyping.Proofs.TyperAnswers

set_option autoImplicit false

/-! # Grid queries

A grid query asks for a number of dimensions by an integer literal (`AsksFor`). It is typed for
one, two or three dimensions and refused for any other number; what does not ask for a number
has no answer. On the built-in surface nothing else is ever refused
(`resolveCall_eq_error_iff_refused`): the other typers refuse nothing in either run, and the
second run of a grid query, whose arguments are stripped, neither answers nor refuses anything.
-/

namespace KernelTyping.Cuda

/-! ## Refusals and missing answers -/

/-- A literal that is no integer asks for nothing, also if there is an integer literal in it. -/
theorem not_asksFor_literal {value : LiteralValue} (hvalue : ∀ n, value ≠ .int n) (base : Ty)
    (n : Int64) : ¬ AsksFor n [.literal base value] := by
  rintro ⟨ndim, hargs, hn⟩
  obtain rfl := List.singleton_inj.1 hargs
  cases value with
  | int m => exact hvalue m rfl
  | bool _ => cases hn
  | str _ => cases hn

theorem gridDims_eq_error_iff (args : List Ty) (e : LiteralDomainError) :
    gridDims args = .error e ↔ ∃ n, AsksFor n args ∧ n ∉ gridRanks ∧ e = refusedRank n := by
  constructor
  · intro h
    rcases gridDims_cases args with ⟨n, ret, -, -, heq⟩ | ⟨n, hn, hmem, heq⟩ | ⟨-, heq⟩
    · rw [heq] at h
      cases h
    · rw [heq] at h
      exact ⟨n, hn, hmem, (Except.error.inj h).symm⟩
    · rw [heq] at h
      cases h
  · rintro ⟨n, hn, hmem, rfl⟩
    exact gridDims_of_not_mem_gridRanks hn hmem

theorem gridDims_eq_none_iff (args : List Ty) :
    gridDims args = .ok none ↔ ∀ n, ¬ AsksFor n args := by
  constructor
  · intro h
    rcases gridDims_cases args with ⟨n, ret, -, -, heq⟩ | ⟨n, -, -, heq⟩ | ⟨hnone, -⟩
    · rw [heq] at h
      cases h
    · rw [heq] at h
      cases h
    · exact hnone
  · exact gridDims_of_not_asksFor

/-! ## Through the registry -/

variable {config : EngineConfig} {parser : ArraySpecParser}

theorem typing_gridQuery {r : Registry} (hr : registry config parser = .ok r)
    {id : IntrinsicId} (hid : id = intrinsic "grid" ∨ id = intrinsic "gridsize") :
    r.typing id = gridDims := by
  have hrule := (rule?_registry_iff hr id _).2 (surfaceRule_grid config parser hid)
  rw [Registry.typing_of_rule? hrule, Rule.outcome, retrying_gridDims]

/-- Nothing else is refused. -/
theorem exists_typing_of_not_gridQuery {r : Registry} (hr : registry config parser = .ok r)
    {id : IntrinsicId} (hid : ¬ (id = intrinsic "grid" ∨ id = intrinsic "gridsize"))
    (args : List Ty) : ∃ found, r.typing id args = .ok found := by
  cases hrule : r.rule? id with
  | none => exact ⟨none, Registry.typing_of_unregistered hrule args⟩
  | some rule =>
      rw [Registry.typing_of_rule? hrule]
      rcases ((rule?_registry_iff hr id rule).1 hrule).total_or_gridDims with htotal | ⟨hgrid, -⟩
      · exact htotal args
      · exact absurd hgrid hid

/-- **Only grid queries are refused, and only for their numbers.** Whatever the configuration and
the parser, a call on the surface without keyword arguments is an error just if it is a grid query
for a number of dimensions other than one, two and three; the error names the query and the number.
A grid query has a signature just if it asks for one, two or three dimensions: from an `int32` to
an `int32` or to a tuple of as many. All other arguments, among them literals of another kind around
an integer literal, have no answer. -/
theorem resolveCall_eq_error_iff_refused (config : EngineConfig) (parser : ArraySpecParser) :
    ∃ r, registry config parser = .ok r
      ∧ (∀ id args e, r.resolveCall id args .empty = .error e ↔
        (id = intrinsic "grid" ∨ id = intrinsic "gridsize")
          ∧ ∃ n, AsksFor n args ∧ n ∉ gridRanks ∧ e = .invalidLiteral id (refusedRank n))
      ∧ ∀ id, id = intrinsic "grid" ∨ id = intrinsic "gridsize" → ∀ args,
        (∀ sig, r.resolveCall id args .empty = .ok (some sig) ↔
          ∃ n ret, AsksFor n args ∧ GridResult n ret ∧ sig = ⟨[.scalar .int32], ret⟩)
        ∧ (r.resolveCall id args .empty = .ok none ↔ ∀ n, ¬ AsksFor n args)
        ∧ ∀ base value, args = [.literal base value] → (∀ n, value ≠ .int n) →
          r.resolveCall id args .empty = .ok none := by
  obtain ⟨r, hr⟩ := exists_registry config parser
  refine ⟨r, hr, ?_, ?_⟩
  · intro id args e
    rw [Registry.resolveCall_empty, mapError_eq_error_iff]
    by_cases hid : id = intrinsic "grid" ∨ id = intrinsic "gridsize"
    · rw [typing_gridQuery hr hid]
      simp only [gridDims_eq_error_iff]
      constructor
      · rintro ⟨_, ⟨n, hn, hmem, rfl⟩, rfl⟩
        exact ⟨hid, n, hn, hmem, rfl⟩
      · rintro ⟨-, n, hn, hmem, rfl⟩
        exact ⟨refusedRank n, ⟨n, hn, hmem, rfl⟩, rfl⟩
    · obtain ⟨found, hfound⟩ := exists_typing_of_not_gridQuery hr hid args
      simp [hfound, hid]
  · intro id hid args
    have hnone : r.resolveCall id args .empty = .ok none ↔ ∀ n, ¬ AsksFor n args := by
      rw [Registry.resolveCall_empty, mapError_eq_ok_iff, typing_gridQuery hr hid,
        gridDims_eq_none_iff]
    refine ⟨?_, hnone, ?_⟩
    · intro sig
      rw [Registry.resolveCall_empty, mapError_eq_ok_iff, typing_gridQuery hr hid,
        gridDims_eq_some_iff]
    · rintro base value rfl hvalue
      exact hnone.2 (not_asksFor_literal hvalue base)

-- The number is that of the outermost literal, and its base may be anything.
example :
    gridDims.retrying [.literal .str (.int (-1))] = .error (refusedRank (-1))
      ∧ gridDims.retrying [.literal (.intLiteral 2) (.bool true)] = .ok none := by
  exact ⟨rfl, rfl⟩

end KernelTyping.Cuda
