import KernelTyping.Resolution

set_option autoImplicit false

/-! # The outcome of a call

What becomes of a call is decided in three places: by its keyword arguments, by a first run of
the rule, and, where a typer finds nothing for arguments with a literal among them, by a
second run on the stripped arguments. `Rule.outcome` puts the two runs together, so that a
call without keyword arguments is the outcome of its rule (`resolveCall_of_isEmpty`).
`resolveCall_outcome_iff` says exactly when each error and the empty answer arise.
-/

namespace KernelTyping

/-! ## A typer and its second run -/

/-- The typer that goes on to the stripped arguments if the given one finds nothing and there
is a literal to strip. An error is final. -/
def Typer.retrying (typer : Typer) : Typer := fun args =>
  match typer args with
  | .ok none => if args.any Ty.isLiteral then typer (stripLiterals args) else .ok none
  | outcome => outcome

theorem Ty.isLiteral_iff (ty : Ty) : ty.isLiteral = true ↔ ∃ base value, ty = .literal base value := by
  cases ty with
  | literal base value => simp [Ty.isLiteral, Ty.literalValue?]
  | _ => simp [Ty.isLiteral, Ty.literalValue?]

theorem any_isLiteral_iff (args : List Ty) :
    args.any Ty.isLiteral = true ↔ ∃ base value, Ty.literal base value ∈ args := by
  rw [List.any_eq_true]
  constructor
  · rintro ⟨arg, hmem, harg⟩
    obtain ⟨base, value, rfl⟩ := arg.isLiteral_iff.1 harg
    exact ⟨base, value, hmem⟩
  · rintro ⟨base, value, hmem⟩
    exact ⟨.literal base value, hmem, rfl⟩

namespace Typer

theorem retrying_of_none {typer : Typer} {args : List Ty} (h : typer args = .ok none) :
    typer.retrying args =
      if args.any Ty.isLiteral then typer (stripLiterals args) else .ok none := by
  simp only [retrying, h]

theorem retrying_of_ne_none {typer : Typer} {args : List Ty} (h : typer args ≠ .ok none) :
    typer.retrying args = typer args := by
  unfold retrying
  split
  · contradiction
  · rfl

theorem retrying_of_error {typer : Typer} {args : List Ty} {e : LiteralDomainError}
    (h : typer args = .error e) : typer.retrying args = .error e := by
  have hne : typer args ≠ .ok none := by simp [h]
  rw [retrying_of_ne_none hne, h]

/-- The second run is refused only if the first one finds nothing. -/
theorem retrying_eq_error_iff (typer : Typer) (args : List Ty) (e : LiteralDomainError) :
    typer.retrying args = .error e ↔
      typer args = .error e
        ∨ typer args = .ok none ∧ args.any Ty.isLiteral = true
          ∧ typer (stripLiterals args) = .error e := by
  by_cases h : typer args = .ok none
  · rw [retrying_of_none h]
    cases args.any Ty.isLiteral <;> simp [h]
  · rw [retrying_of_ne_none h]
    simp [h]

/-- A signature is that of the first run, or of a second one after a first that finds
nothing. -/
theorem retrying_eq_some_iff (typer : Typer) (args : List Ty) (sig : Signature) :
    typer.retrying args = .ok (some sig) ↔
      typer args = .ok (some sig)
        ∨ typer args = .ok none ∧ args.any Ty.isLiteral = true
          ∧ typer (stripLiterals args) = .ok (some sig) := by
  by_cases h : typer args = .ok none
  · rw [retrying_of_none h]
    cases args.any Ty.isLiteral <;> simp [h]
  · rw [retrying_of_ne_none h]
    simp [h]

/-- Nothing is found if no run that is made finds anything. -/
theorem retrying_eq_none_iff (typer : Typer) (args : List Ty) :
    typer.retrying args = .ok none ↔
      typer args = .ok none
        ∧ (args.any Ty.isLiteral = true → typer (stripLiterals args) = .ok none) := by
  by_cases h : typer args = .ok none
  · rw [retrying_of_none h]
    cases args.any Ty.isLiteral <;> simp [h]
  · rw [retrying_of_ne_none h]
    simp [h]

end Typer

/-! ## The outcome of a rule -/

namespace Rule

/-- The typer of a rule that computes its signatures. -/
def typer? : Rule → Option Typer
  | .fixedTable _ => none
  | .predicate typer => some typer
  | .closureFactory makeTyper => some (makeTyper ())

/-- What a rule makes of arguments in the end. -/
def outcome : Rule → Typer
  | .fixedTable cases => fun args => .ok (firstMatch cases args)
  | .predicate typer => typer.retrying
  | .closureFactory makeTyper => (makeTyper ()).retrying

theorem outcome_of_typer? {rule : Rule} {typer : Typer} (h : rule.typer? = some typer) :
    rule.outcome = typer.retrying := by
  cases rule with
  | fixedTable cases => cases h
  | predicate typer' => rw [outcome, Option.some.inj h]
  | closureFactory makeTyper => rw [outcome, Option.some.inj h]

/-- A rule is a table, or else it has a typer. -/
theorem typer?_eq_none_iff (rule : Rule) :
    rule.typer? = none ↔ ∃ cases, rule = .fixedTable cases := by
  cases rule <;> simp [typer?]

end Rule

namespace Resolution

theorem value_applyTyper_retrying (tracing : Bool) (id : IntrinsicId) (typer : Typer)
    (args : List Ty) :
    (applyTyper tracing id typer args).value
      = (typer.retrying args).mapError (.invalidLiteral id) := by
  rw [value_applyTyper]
  unfold Typer.retrying
  cases typer args with
  | error e => rfl
  | ok found =>
      cases found with
      | some sig => rfl
      | none => cases args.any Ty.isLiteral <;> rfl

/-- A refusal of the first run is final. -/
theorem actions_applyTyper_of_error {typer : Typer} {args : List Ty} {e : LiteralDomainError}
    (h : typer args = .error e) (id : IntrinsicId) :
    (applyTyper true id typer args).actions = [.invalidLiteral] := by
  simp only [applyTyper, runTyper, h]
  rfl

theorem value_applyRule (tracing : Bool) (id : IntrinsicId) (args : List Ty) (rule : Rule) :
    (applyRule tracing id args rule).value
      = (rule.outcome args).mapError (.invalidLiteral id) := by
  cases rule with
  | fixedTable cases =>
      rw [applyRule, Noted.value_bind, value_matchTable]
      rfl
  | predicate typer =>
      rw [applyRule, Noted.value_bind, value_applyTyper_retrying]
      rfl
  | closureFactory makeTyper =>
      rw [applyRule, Noted.value_bind, value_applyTyper_retrying]
      rfl

end Resolution

/-! ## The outcome of a call -/

theorem mapError_eq_ok_iff {ε ε' α : Type} (f : ε → ε') (x : Except ε α) (value : α) :
    x.mapError f = .ok value ↔ x = .ok value := by
  cases x <;> simp

theorem mapError_eq_error_iff {ε ε' α : Type} (f : ε → ε') (x : Except ε α) (e' : ε') :
    x.mapError f = .error e' ↔ ∃ e, x = .error e ∧ f e = e' := by
  cases x <;> simp

namespace Registry

/-- The typer of an intrinsic, if it has a rule that computes its signatures. -/
def typer? (r : Registry) (id : IntrinsicId) : Option Typer := (r.rule? id).bind Rule.typer?

/-- What a registry makes of the arguments of an intrinsic; it finds nothing for one without
a rule. -/
def typing (r : Registry) (id : IntrinsicId) : Typer :=
  match r.rule? id with
  | none => fun _ => .ok none
  | some rule => rule.outcome

theorem typing_of_rule? {r : Registry} {id : IntrinsicId} {rule : Rule}
    (h : r.rule? id = some rule) : r.typing id = rule.outcome := by
  simp only [typing, h]

theorem typing_of_unregistered {r : Registry} {id : IntrinsicId} (h : r.rule? id = none)
    (args : List Ty) : r.typing id args = .ok none := by
  simp only [typing, h]

theorem typing_of_fixedTable {r : Registry} {id : IntrinsicId} {cases : List Signature}
    (h : r.rule? id = some (.fixedTable cases)) (args : List Ty) :
    r.typing id args = .ok (firstMatch cases args) := by
  rw [typing_of_rule? h, Rule.outcome]

theorem typing_of_typer? {r : Registry} {id : IntrinsicId} {typer : Typer}
    (h : r.typer? id = some typer) : r.typing id = typer.retrying := by
  obtain ⟨rule, hrule, htyper⟩ := Option.bind_eq_some_iff.1 h
  rw [typing_of_rule? hrule, Rule.outcome_of_typer? htyper]

/-- A call without keyword arguments is what the registry makes of its arguments. -/
theorem resolveCall_of_isEmpty (r : Registry) (id : IntrinsicId) (args : List Ty)
    {named : Table Ty} (h : named.isEmpty = true) :
    r.resolveCall id args named = (r.typing id args).mapError (.invalidLiteral id) := by
  rw [resolveCall, answerCall, if_pos h]
  cases hrule : r.rule? id with
  | none => rw [typing_of_unregistered hrule]; rfl
  | some rule =>
      rw [typing_of_rule? hrule, ← Resolution.value_applyRule false]
      simp

/-- A call with keyword arguments is an error that names them. -/
theorem resolveCall_of_keywords (r : Registry) (id : IntrinsicId) (args : List Ty)
    {named : Table Ty} (h : named.isEmpty = false) :
    r.resolveCall id args named = .error (.malformedRequest id named.keys) := by
  rw [resolveCall, answerCall, if_neg (by simp [h])]
  rfl

/-- An intrinsic has no rule, or a table, or a typer. -/
theorem rule?_cases (r : Registry) (id : IntrinsicId) :
    r.rule? id = none ∨ (∃ cases, r.rule? id = some (.fixedTable cases))
      ∨ ∃ typer, r.typer? id = some typer := by
  cases hrule : r.rule? id with
  | none => exact .inl rfl
  | some rule =>
      refine .inr ?_
      cases htyper : rule.typer? with
      | none =>
          obtain ⟨cases, rfl⟩ := rule.typer?_eq_none_iff.1 htyper
          exact .inl ⟨cases, rfl⟩
      | some typer => exact .inr ⟨typer, by rw [typer?, hrule, Option.bind_some, htyper]⟩

/-- Only a typer is ever refused a literal. -/
theorem typing_eq_error_iff (r : Registry) (id : IntrinsicId) (args : List Ty)
    (e : LiteralDomainError) :
    r.typing id args = .error e ↔
      ∃ typer, r.typer? id = some typer ∧ typer.retrying args = .error e := by
  constructor
  · intro h
    rcases r.rule?_cases id with hnone | ⟨cases, hcases⟩ | ⟨typer, htyper⟩
    · rw [typing_of_unregistered hnone] at h
      cases h
    · rw [typing_of_fixedTable hcases] at h
      cases h
    · exact ⟨typer, htyper, by rw [← typing_of_typer? htyper, h]⟩
  · rintro ⟨typer, htyper, h⟩
    rw [typing_of_typer? htyper, h]

theorem typing_eq_none_iff (r : Registry) (id : IntrinsicId) (args : List Ty) :
    r.typing id args = .ok none ↔
      r.rule? id = none
        ∨ (∃ cases, r.rule? id = some (.fixedTable cases) ∧ firstMatch cases args = none)
        ∨ ∃ typer, r.typer? id = some typer ∧ typer.retrying args = .ok none := by
  constructor
  · intro h
    rcases r.rule?_cases id with hnone | ⟨cases, hcases⟩ | ⟨typer, htyper⟩
    · exact .inl hnone
    · rw [typing_of_fixedTable hcases] at h
      exact .inr (.inl ⟨cases, hcases, Except.ok.inj h⟩)
    · rw [typing_of_typer? htyper] at h
      exact .inr (.inr ⟨typer, htyper, h⟩)
  · rintro (hnone | ⟨cases, hcases, h⟩ | ⟨typer, htyper, h⟩)
    · exact typing_of_unregistered hnone args
    · rw [typing_of_fixedTable hcases, h]
    · rw [typing_of_typer? htyper, h]

/-! ## Which outcome arises when -/

/-- The names in the error are the keywords of the call. -/
theorem resolveCall_eq_malformedRequest_iff (r : Registry) (id : IntrinsicId) (args : List Ty)
    (named : Table Ty) (id' : IntrinsicId) (names : List String) :
    r.resolveCall id args named = .error (.malformedRequest id' names) ↔
      named.isEmpty = false ∧ id' = id ∧ names = named.keys := by
  cases hnamed : named.isEmpty with
  | false =>
      rw [r.resolveCall_of_keywords id args hnamed]
      simp [eq_comm]
  | true =>
      rw [r.resolveCall_of_isEmpty id args hnamed, mapError_eq_error_iff]
      simp

theorem resolveCall_eq_invalidLiteral_iff (r : Registry) (id : IntrinsicId) (args : List Ty)
    (named : Table Ty) (id' : IntrinsicId) (e : LiteralDomainError) :
    r.resolveCall id args named = .error (.invalidLiteral id' e) ↔
      named.isEmpty = true ∧ id' = id
        ∧ ∃ typer, r.typer? id = some typer ∧ typer.retrying args = .error e := by
  rw [← typing_eq_error_iff]
  cases hnamed : named.isEmpty with
  | false =>
      rw [r.resolveCall_of_keywords id args hnamed]
      simp
  | true =>
      rw [r.resolveCall_of_isEmpty id args hnamed, mapError_eq_error_iff]
      simp only [ResolveError.invalidLiteral.injEq, true_and]
      constructor
      · rintro ⟨e', he', rfl, rfl⟩
        exact ⟨rfl, he'⟩
      · rintro ⟨rfl, he⟩
        exact ⟨e, he, rfl, rfl⟩

theorem resolveCall_eq_none_iff (r : Registry) (id : IntrinsicId) (args : List Ty)
    (named : Table Ty) :
    r.resolveCall id args named = .ok none ↔
      named.isEmpty = true ∧ r.typing id args = .ok none := by
  cases hnamed : named.isEmpty with
  | false =>
      rw [r.resolveCall_of_keywords id args hnamed]
      simp
  | true =>
      rw [r.resolveCall_of_isEmpty id args hnamed, mapError_eq_ok_iff]
      simp

/-- If the first run is refused, the notes tell of a look-up, of one run and of the refusal. -/
theorem actions_answerCall_of_refused {r : Registry} {id : IntrinsicId} {args : List Ty}
    {named : Table Ty} {typer : Typer} {e : LiteralDomainError} (hnamed : named.isEmpty = true)
    (htyper : r.typer? id = some typer) (he : typer args = .error e) :
    ∃ run, (run = .applyPredicate ∨ run = .applyClosure)
      ∧ (r.answerCall true id args named).actions = [.lookup, run, .invalidLiteral] := by
  obtain ⟨rule, hrule, hkind⟩ := Option.bind_eq_some_iff.1 htyper
  have hrun := Resolution.actions_applyTyper_of_error he id
  have hvalue := Resolution.value_applyRule true id args rule
  rw [Rule.outcome_of_typer? hkind, Typer.retrying_of_error he] at hvalue
  simp only [answerCall, if_pos hnamed, hrule, Noted.actions_bind, hvalue]
  cases rule with
  | fixedTable cases => cases hkind
  | predicate typer' =>
      obtain rfl := Option.some.inj hkind
      refine ⟨.applyPredicate, .inl rfl, ?_⟩
      simp [Resolution.applyRule, hrun, Resolution.conclude]
  | closureFactory makeTyper =>
      obtain rfl := Option.some.inj hkind
      refine ⟨.applyClosure, .inr rfl, ?_⟩
      simp [Resolution.applyRule, hrun, Resolution.conclude]

/-- **When a call is an error, and when it has no answer.** A call is malformed just if it has
keyword arguments, and the error names them in ascending order. Of the other calls, one is
refused a literal just if its intrinsic has a typer which refuses the arguments, or which
finds nothing for arguments with a literal among them and refuses the stripped ones; the
refusal is passed on as it is. A call has no answer if its intrinsic has no rule, no signature
of its table fits, or no run of its typer that is made finds anything. A refusal of the first
run is never followed by a second one, and without a typer nothing is refused. -/
theorem resolveCall_outcome_iff (r : Registry) (id : IntrinsicId) (args : List Ty)
    (named : Table Ty) :
    (∀ id' names, r.resolveCall id args named = .error (.malformedRequest id' names) ↔
        named.isEmpty = false ∧ id' = id ∧ names = named.keys)
      ∧ (named.keys.Pairwise (fun a b => a < b)
        ∧ ∀ name, name ∈ named.keys ↔ named.contains name = true)
      ∧ (∀ id' e, r.resolveCall id args named = .error (.invalidLiteral id' e) ↔
        named.isEmpty = true ∧ id' = id ∧ ∃ typer, r.typer? id = some typer
          ∧ (typer args = .error e
            ∨ typer args = .ok none ∧ (∃ base value, Ty.literal base value ∈ args)
              ∧ typer (stripLiterals args) = .error e))
      ∧ (r.resolveCall id args named = .ok none ↔
        named.isEmpty = true
          ∧ (r.rule? id = none
            ∨ (∃ cases, r.rule? id = some (.fixedTable cases)
              ∧ ∀ sig ∈ cases, sig.accepts args = false)
            ∨ ∃ typer, r.typer? id = some typer ∧ typer args = .ok none
              ∧ ((∃ base value, Ty.literal base value ∈ args) →
                typer (stripLiterals args) = .ok none)))
      ∧ (∀ typer e, named.isEmpty = true → r.typer? id = some typer → typer args = .error e →
        r.resolveCall id args named = .error (.invalidLiteral id e)
          ∧ Action.literalFallback ∉ (r.answerCall true id args named).actions)
      ∧ (named.isEmpty = true →
        (r.rule? id = none ∨ ∃ cases, r.rule? id = some (.fixedTable cases)) →
        ∃ found, r.resolveCall id args named = .ok found) := by
  have hrefused := r.resolveCall_eq_invalidLiteral_iff id args named
  refine ⟨r.resolveCall_eq_malformedRequest_iff id args named,
    ⟨named.pairwise_keys, named.mem_keys_iff⟩, ?_, ?_, ?_, ?_⟩
  · intro id' e
    rw [hrefused]
    simp only [Typer.retrying_eq_error_iff, any_isLiteral_iff]
  · rw [resolveCall_eq_none_iff, typing_eq_none_iff]
    simp only [Typer.retrying_eq_none_iff, any_isLiteral_iff, firstMatch, List.find?_eq_none,
      Bool.not_eq_true]
  · intro typer e hnamed htyper he
    have hretrying : typer.retrying args = .error e := Typer.retrying_of_error he
    refine ⟨(hrefused id e).2 ⟨hnamed, rfl, typer, htyper, hretrying⟩, ?_⟩
    obtain ⟨run, hrun, hactions⟩ := actions_answerCall_of_refused hnamed htyper he
    rw [hactions]
    rcases hrun with rfl | rfl <;> simp
  · intro hnamed hrule
    rw [r.resolveCall_of_isEmpty id args hnamed]
    rcases hrule with hnone | ⟨cases, hcases⟩
    · exact ⟨none, by rw [typing_of_unregistered hnone]; rfl⟩
    · exact ⟨firstMatch cases args, by rw [typing_of_fixedTable hcases]; rfl⟩

end Registry

end KernelTyping
