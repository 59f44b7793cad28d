import KernelTyping.Proofs.Outcome
import KernelTyping.Proofs.Surface

set_option autoImplicit false

/-! # Calls on stripped arguments

A literal carries more than the type that it behaves as, and no rule gets worse by knowing it:
what is answered for the stripped arguments is answered for the arguments too, unless a typer
refuses one of the literals (`Rule.outcome_ne_none_of_stripped`). A table does not see the
literals at all (`firstMatch_stripLiterals`). On the built-in surface only the grid queries
refuse literals (`SurfaceRule.total_or_gridDims`), and these answer no stripped arguments.
-/

namespace KernelTyping

/-! ## Stripped arguments -/

theorem any_isLiteral_stripLiterals (args : List Ty) :
    (stripLiterals args).any Ty.isLiteral = false := by
  rw [List.any_eq_false]
  intro ty hty
  obtain ⟨arg, -, rfl⟩ := List.mem_map.1 hty
  simp [arg.isLiteral_unliteral]

theorem stripLiterals_of_not_any {args : List Ty} (h : args.any Ty.isLiteral = false) :
    stripLiterals args = args := by
  rw [List.any_eq_false] at h
  calc stripLiterals args
      = args.map id := by
        refine List.map_congr_left fun arg harg => ?_
        exact Ty.unliteral_of_not_isLiteral (Bool.eq_false_iff.2 (h arg harg))
    _ = args := List.map_id args

/-- Stripping changes the arguments just if there is a literal among them. -/
theorem stripLiterals_eq_self_iff (args : List Ty) :
    stripLiterals args = args ↔ args.any Ty.isLiteral = false := by
  constructor
  · intro h
    have hany := any_isLiteral_stripLiterals args
    rwa [h] at hany
  · exact stripLiterals_of_not_any

theorem Signature.accepts_stripLiterals (sig : Signature) (args : List Ty) :
    sig.accepts (stripLiterals args) = sig.accepts args := by
  rw [Bool.eq_iff_iff, sig.accepts_iff, sig.accepts_iff, stripLiterals_stripLiterals]

/-- A table does not see literals. -/
theorem firstMatch_stripLiterals (cases : List Signature) (args : List Ty) :
    firstMatch cases (stripLiterals args) = firstMatch cases args := by
  simp only [firstMatch, Signature.accepts_stripLiterals]

/-- The parameters that a table answers are the stripped arguments. -/
theorem params_of_firstMatch {cases : List Signature} {args : List Ty} {sig : Signature}
    (h : firstMatch cases args = some sig) : sig.params = stripLiterals args := by
  have haccepts : sig.accepts args = true := by
    unfold firstMatch at h
    simpa using List.find?_some h
  exact (sig.accepts_iff args).1 haccepts

/-! ## Rules on stripped arguments -/

namespace Typer

/-- Stripped arguments are never stripped again. -/
theorem retrying_stripLiterals (typer : Typer) (args : List Ty) :
    typer.retrying (stripLiterals args) = typer (stripLiterals args) := by
  by_cases h : typer (stripLiterals args) = .ok none
  · rw [retrying_of_none h, any_isLiteral_stripLiterals, h]
    rfl
  · exact retrying_of_ne_none h

/-- If a test of the arguments tells that the first run finds nothing, or else that the second
one finds no more than the first, then the test decides which arguments are typed. -/
theorem retrying_eq_ite {typer : Typer} {args : List Ty} {stripped : Bool}
    (hblocked : stripped = true → typer args = .ok none)
    (hpassed : stripped = false → typer args = .ok none →
      typer (stripLiterals args) = .ok none) :
    typer.retrying args = typer (if stripped then stripLiterals args else args) := by
  cases hany : args.any Ty.isLiteral with
  | false =>
      -- Without a literal both runs are one and the same.
      have hself : stripLiterals args = args := stripLiterals_of_not_any hany
      rw [hself, ite_self, ← hself, retrying_stripLiterals]
  | true =>
      by_cases hnone : typer args = .ok none
      · rw [retrying_of_none hnone, hany, if_pos rfl]
        cases stripped with
        | true => rfl
        | false => exact (hpassed rfl hnone).trans hnone.symm
      · have hfirst : stripped = false := by
          rw [Bool.eq_false_iff]
          intro hstripped
          exact hnone (hblocked hstripped)
        rw [retrying_of_ne_none hnone, hfirst, if_neg Bool.false_ne_true]

/-- Stripping keeps the number of the arguments, so the second run answers no other number. -/
theorem length_of_retrying {typer : Typer} {count : Nat}
    (h : ∀ args sig, typer args = .ok (some sig) → args.length = count) {args : List Ty}
    {sig : Signature} (hsig : typer.retrying args = .ok (some sig)) : args.length = count := by
  rcases (typer.retrying_eq_some_iff args sig).1 hsig with hfirst | ⟨-, -, hsecond⟩
  · exact h args sig hfirst
  · rw [← h (stripLiterals args) sig hsecond, stripLiterals, List.length_map]

theorem retrying_ne_none_of_stripped {typer : Typer} {args : List Ty} {sig : Signature}
    (h : typer.retrying (stripLiterals args) = .ok (some sig)) :
    typer.retrying args ≠ .ok none := by
  intro hnone
  obtain ⟨hfirst, hsecond⟩ := (typer.retrying_eq_none_iff args).1 hnone
  rw [retrying_stripLiterals] at h
  cases hany : args.any Ty.isLiteral with
  | true =>
      rw [hsecond hany] at h
      cases h
  | false =>
      -- Without a literal both runs are one and the same.
      rw [stripLiterals_of_not_any hany, hfirst] at h
      cases h

/-- A typer that refuses nothing. -/
def Total (typer : Typer) : Prop := ∀ args, ∃ found, typer args = .ok found

theorem Total.retrying {typer : Typer} (h : typer.Total) : typer.retrying.Total := by
  intro args
  by_cases hnone : typer args = .ok none
  · rw [retrying_of_none hnone]
    split
    · exact h (stripLiterals args)
    · exact ⟨none, rfl⟩
  · rw [retrying_of_ne_none hnone]
    exact h args

end Typer

namespace Rule

theorem outcome_stripLiterals_fixedTable (cases : List Signature) (args : List Ty) :
    (Rule.fixedTable cases).outcome (stripLiterals args)
      = (Rule.fixedTable cases).outcome args := by
  simp only [outcome, firstMatch_stripLiterals]

/-- What a rule answers for the stripped arguments it does not miss for the arguments. -/
theorem outcome_ne_none_of_stripped {rule : Rule} {args : List Ty} {sig : Signature}
    (h : rule.outcome (stripLiterals args) = .ok (some sig)) : rule.outcome args ≠ .ok none := by
  cases htyper : rule.typer? with
  | none =>
      obtain ⟨cases, rfl⟩ := rule.typer?_eq_none_iff.1 htyper
      rw [outcome_stripLiterals_fixedTable] at h
      simp [h]
  | some typer =>
      rw [outcome_of_typer? htyper] at h ⊢
      exact Typer.retrying_ne_none_of_stripped h

end Rule

namespace Registry

theorem resolveCall_empty (r : Registry) (id : IntrinsicId) (args : List Ty) :
    r.resolveCall id args .empty = (r.typing id args).mapError (.invalidLiteral id) :=
  r.resolveCall_of_isEmpty id args rfl

theorem typing_ne_none_of_stripped {r : Registry} {id : IntrinsicId} {args : List Ty}
    {sig : Signature} (h : r.typing id (stripLiterals args) = .ok (some sig)) :
    r.typing id args ≠ .ok none := by
  cases hrule : r.rule? id with
  | none =>
      rw [typing_of_unregistered hrule] at h
      cases h
  | some rule =>
      rw [typing_of_rule? hrule] at h ⊢
      exact Rule.outcome_ne_none_of_stripped h

end Registry

/-! ## The built-in surface -/

namespace Cuda

theorem total_select : select.Total := by
  intro args
  unfold select
  split <;> exact ⟨_, rfl⟩

theorem total_atomicAdd (intp : Ty) : (atomicAdd intp).Total := by
  intro args
  unfold atomicAdd
  split <;> exact ⟨_, rfl⟩

theorem total_atomicMaxMin (intp : Ty) : (atomicMaxMin intp).Total := by
  intro args
  unfold atomicMaxMin
  split <;> exact ⟨_, rfl⟩

theorem total_compareAndSwap : compareAndSwap.Total := by
  intro args
  unfold compareAndSwap
  split <;> exact ⟨_, rfl⟩

theorem total_allocate (parser : ArraySpecParser) : (allocate parser).Total := by
  intro args
  unfold allocate
  split <;> exact ⟨_, rfl⟩

theorem total_arrayLike : arrayLike.Total := by
  intro args
  unfold arrayLike
  split <;> exact ⟨_, rfl⟩

/-- Every entry of the list of tables is a table. -/
theorem exists_fixedTable_of_mem_tableRules {name : String} {rule : Rule}
    (h : (name, rule) ∈ tableRules) : ∃ cases, rule = .fixedTable cases := by
  have hnone : ∀ entry ∈ tableRules, entry.2.typer?.isNone = true := by decide
  exact rule.typer?_eq_none_iff.1 (Option.isNone_iff_eq_none.1 (hnone (name, rule) h))

/-- A call on the surface without keyword arguments is what the rule of its intrinsic makes of
the arguments. -/
theorem resolveCall_of_surfaceRule {config : EngineConfig} {parser : ArraySpecParser}
    {r : Registry} (hr : registry config parser = .ok r) {id : IntrinsicId} {rule : Rule}
    (h : SurfaceRule config parser id rule) (args : List Ty) :
    r.resolveCall id args .empty = (rule.outcome args).mapError (.invalidLiteral id) := by
  have hrule : r.rule? id = some rule := (rule?_registry_iff hr id rule).2 h
  rw [Registry.resolveCall_empty, Registry.typing_of_rule? hrule]

/-- Only the grid queries refuse anything. -/
theorem SurfaceRule.total_or_gridDims {config : EngineConfig} {parser : ArraySpecParser}
    {id : IntrinsicId} {rule : Rule} (h : SurfaceRule config parser id rule) :
    rule.outcome.Total
      ∨ (id = intrinsic "grid" ∨ id = intrinsic "gridsize")
        ∧ rule = .closureFactory fun _ => gridDims := by
  cases h with
  | table h =>
      obtain ⟨cases, rfl⟩ := exists_fixedTable_of_mem_tableRules h
      exact .inl fun args => ⟨firstMatch cases args, rfl⟩
  | grid h => exact .inr ⟨h.imp (congrArg intrinsic) (congrArg intrinsic), rfl⟩
  | select => exact .inl total_select.retrying
  | allocate h => exact .inl (total_allocate parser).retrying
  | arrayLike => exact .inl total_arrayLike.retrying
  | atomicAdd => exact .inl (total_atomicAdd config.intp).retrying
  | atomicMaxMin h => exact .inl (total_atomicMaxMin config.intp).retrying
  | compareAndSwap => exact .inl total_compareAndSwap.retrying

/-- A grid query wants a literal, and stripped arguments have none. -/
theorem gridDims_stripLiterals (args : List Ty) : gridDims (stripLiterals args) = .ok none := by
  unfold gridDims
  split
  case h_1 ndim heq =>
    have hliteral : ndim.isLiteral = false := by
      have hany := any_isLiteral_stripLiterals args
      simpa [heq] using hany
    cases ndim with
    | literal base value => simp [Ty.isLiteral, Ty.literalValue?] at hliteral
    | _ => rfl
  case h_2 => rfl

/-- The second run of a grid query finds nothing, so the first one decides. -/
theorem retrying_gridDims : gridDims.retrying = gridDims := by
  funext args
  have hdecided : gridDims.retrying args
      = gridDims (if false = true then stripLiterals args else args) :=
    Typer.retrying_eq_ite nofun fun _ _ => gridDims_stripLiterals args
  rwa [if_neg Bool.false_ne_true] at hdecided

/-- On the surface an answer for the stripped arguments comes with one for the arguments. -/
theorem SurfaceRule.exists_outcome_of_stripped {config : EngineConfig}
    {parser : ArraySpecParser} {id : IntrinsicId} {rule : Rule} {args : List Ty}
    {sig : Signature} (hrule : SurfaceRule config parser id rule)
    (h : rule.outcome (stripLiterals args) = .ok (some sig)) :
    ∃ sig', rule.outcome args = .ok (some sig') := by
  have hne := Rule.outcome_ne_none_of_stripped h
  rcases hrule.total_or_gridDims with htotal | ⟨-, rfl⟩
  · obtain ⟨_ | sig', hfound⟩ := htotal args
    · exact absurd hfound hne
    · exact ⟨sig', hfound⟩
  · rw [Rule.outcome, Typer.retrying_stripLiterals, gridDims_stripLiterals] at h
    cases h

end Cuda

/-- **Literals never lose an overload.** If the stripped arguments have an answer, then so have
the arguments, unless one of the literals is refused. A table answers both alike, and the
registry of the built-in surface refuses none of these literals, whatever the configuration and
the parser. -/
theorem Registry.resolveCall_of_stripped (id : IntrinsicId) (args : List Ty) :
    (∀ (r : Registry) (sig : Signature),
        r.resolveCall id (stripLiterals args) .empty = .ok (some sig) →
        (∃ sig', r.resolveCall id args .empty = .ok (some sig'))
          ∨ ∃ e, r.resolveCall id args .empty = .error (.invalidLiteral id e))
      ∧ (∀ (r : Registry) (cases : List Signature), r.rule? id = some (.fixedTable cases) →
        r.resolveCall id args .empty = r.resolveCall id (stripLiterals args) .empty)
      ∧ ∀ (config : EngineConfig) (parser : ArraySpecParser),
        ∃ r, Cuda.registry config parser = .ok r
          ∧ ∀ sig, r.resolveCall id (stripLiterals args) .empty = .ok (some sig) →
            ∃ sig', r.resolveCall id args .empty = .ok (some sig') := by
  simp only [resolveCall_empty, mapError_eq_ok_iff]
  refine ⟨?_, ?_, ?_⟩
  · intro r sig h
    have hne := typing_ne_none_of_stripped h
    cases htyping : r.typing id args with
    | error e => exact .inr ⟨e, rfl⟩
    | ok found =>
        cases found with
        | none => exact absurd htyping hne
        | some sig' => exact .inl ⟨sig', rfl⟩
  · intro r cases hcases
    rw [typing_of_fixedTable hcases, typing_of_fixedTable hcases, firstMatch_stripLiterals]
  · intro config parser
    obtain ⟨r, hr⟩ := Cuda.exists_registry config parser
    refine ⟨r, hr, ?_⟩
    intro sig h
    cases hrule : r.rule? id with
    | none =>
        rw [typing_of_unregistered hrule] at h
        cases h
    | some rule =>
        rw [typing_of_rule? hrule] at h ⊢
        exact ((Cuda.rule?_registry_iff hr id rule).1 hrule).exists_outcome_of_stripped h

end KernelTyping
