import KernelTyping.Proofs.Overloads
import KernelTyping.Report

set_option autoImplicit false

/-! # Calls that have to succeed

A call that has to succeed gives the signature to which it resolves, or it fails with one
diagnostic. The category of the diagnostic tells which of four faults the call has
(`Registry.CallFault`), and a call has just one of them (`CallFault.unique`). Where the table of
an intrinsic has no signature for the arguments, the help lists all that it has, and a call on the
parameters of any of them succeeds, unless there is a literal among these
(`requireCall_classifies`).
-/

namespace KernelTyping

namespace Registry

/-! ## Faults of a call -/

/-- The fault of a call that resolves to no signature, by the category under which it is reported.
Keyword arguments are looked for first, then a missing rule, then a literal that is refused. -/
inductive CallFault (r : Registry) (id : IntrinsicId) (args : List Ty) (named : Table Ty) :
    Category → Prop
  | malformed (hnamed : named.isEmpty = false) : CallFault r id args named .malformedRequest
  | unregistered (hnamed : named.isEmpty = true) (hrule : r.rule? id = none) :
      CallFault r id args named .unknownIntrinsic
  | refused {rule : Rule} {e : ResolveError} (hnamed : named.isEmpty = true)
      (hrule : r.rule? id = some rule) (hcall : r.resolveCall id args named = .error e) :
      CallFault r id args named .invalidLiteral
  | unmatched {rule : Rule} (hnamed : named.isEmpty = true) (hrule : r.rule? id = some rule)
      (hcall : r.resolveCall id args named = .ok none) :
      CallFault r id args named .noMatchingOverload

section

variable {r : Registry} {id : IntrinsicId} {args : List Ty} {named : Table Ty}

/-- A call has one fault at most. -/
theorem CallFault.unique {category category' : Category}
    (h : r.CallFault id args named category) (h' : r.CallFault id args named category') :
    category = category' := by
  cases h <;> cases h' <;> simp_all

/-- Only an intrinsic with a rule refuses a literal. -/
theorem callFault_of_invalidLiteral {id' : IntrinsicId} {e : LiteralDomainError}
    (h : r.resolveCall id args named = .error (.invalidLiteral id' e)) :
    r.CallFault id args named .invalidLiteral := by
  obtain ⟨hnamed, -, typer, htyper, -⟩ :=
    (r.resolveCall_eq_invalidLiteral_iff id args named id' e).1 h
  obtain ⟨rule, hrule, -⟩ := Option.bind_eq_some_iff.1 htyper
  exact .refused hnamed hrule h

/-- The report of a call that found nothing is of its fault. -/
theorem callFault_unresolvedCall (h : r.resolveCall id args named = .ok none) :
    r.CallFault id args named (r.unresolvedCall id args).category := by
  have hnamed : named.isEmpty = true := ((r.resolveCall_eq_none_iff id args named).1 h).1
  unfold unresolvedCall
  cases hrule : r.rule? id with
  | none => exact .unregistered hnamed hrule
  | some rule => exact .unmatched hnamed hrule h

end

/-! ## Help -/

/-- There is help just for a table that is not empty, and it lists the signatures in order. -/
theorem help_unresolvedCall_iff (r : Registry) (id : IntrinsicId) (args : List Ty)
    (help : String) :
    (r.unresolvedCall id args).help = some help ↔
      ∃ cases, r.rule? id = some (.fixedTable cases) ∧ cases ≠ []
        ∧ help = "accepted signatures: " ++ ", ".intercalate (cases.map Signature.text) := by
  unfold unresolvedCall
  cases hrule : r.rule? id with
  | none => simp
  | some rule =>
      cases rule with
      | fixedTable cases =>
          cases cases with
          | nil => simp [Rule.cases?, acceptedHelp]
          | cons sig rest => simp [Rule.cases?, acceptedHelp, eq_comm]
      | predicate typer => simp [Rule.cases?]
      | closureFactory makeTyper => simp [Rule.cases?]

/-! ## What a required call gives -/

theorem requireCall_eq (r : Registry) (id : IntrinsicId) (args : List Ty) (named : Table Ty) :
    r.requireCall id args named =
      match r.resolveCall id args named with
      | .ok (some sig) => .ok sig
      | .ok none => .error (.single (r.unresolvedCall id args))
      | .error e => .error (.single e.diagnostic) := by
  rw [requireCall, answerRequiredCall, Noted.value_bind]
  show Noted.value (match r.resolveCall id args named with
    | .ok (some sig) => _ | .ok none => _ | .error e => _) = _
  rcases r.resolveCall id args named with e | _ | sig <;> rfl

theorem requireCall_eq_ok_iff (r : Registry) (id : IntrinsicId) (args : List Ty)
    (named : Table Ty) (sig : Signature) :
    r.requireCall id args named = .ok sig ↔ r.resolveCall id args named = .ok (some sig) := by
  rw [requireCall_eq]
  rcases r.resolveCall id args named with e | _ | found <;> simp

/-- A call that fails does so with one diagnostic, and this is of its fault. -/
theorem exists_callFault_of_error {r : Registry} {id : IntrinsicId} {args : List Ty}
    {named : Table Ty} {e : DiagnosticError} (h : r.requireCall id args named = .error e) :
    ∃ d, e.diagnostics = [d] ∧ r.CallFault id args named d.category
      ∧ (d.category = .noMatchingOverload → d = r.unresolvedCall id args) := by
  rw [requireCall_eq] at h
  rcases hcall : r.resolveCall id args named with err | _ | sig
  · rw [hcall] at h
    obtain rfl := Except.error.inj h
    cases err with
    | invalidLiteral id' source => exact ⟨_, rfl, callFault_of_invalidLiteral hcall, nofun⟩
    | malformedRequest id' names =>
        have hnamed : named.isEmpty = false :=
          ((r.resolveCall_eq_malformedRequest_iff id args named id' names).1 hcall).1
        exact ⟨_, rfl, .malformed hnamed, nofun⟩
  · rw [hcall] at h
    obtain rfl := Except.error.inj h
    exact ⟨_, rfl, callFault_unresolvedCall hcall, fun _ => rfl⟩
  · rw [hcall] at h
    cases h

/-- A call on the parameters of a listed signature succeeds, unless one of them is a literal. -/
theorem exists_requireCall_of_listed {r : Registry} {id : IntrinsicId} {cases : List Signature}
    (hrule : r.rule? id = some (.fixedTable cases)) {sig : Signature} (hsig : sig ∈ cases)
    (hliteral : ∀ base value, Ty.literal base value ∉ sig.params) :
    ∃ taken ∈ cases, taken.params = sig.params
      ∧ r.requireCall id sig.params .empty = .ok taken := by
  obtain ⟨taken, hmem, htaken, hparams⟩ := exists_firstMatch_of_mem hsig hliteral
  refine ⟨taken, hmem, hparams, ?_⟩
  rw [requireCall_eq_ok_iff, resolveCall_empty, typing_of_fixedTable hrule, htaken]
  rfl

/-- **A required call that fails is told why, and the advice can be followed.** The call gives a
signature just if it resolves to it. Otherwise it fails with one diagnostic, whose category is
that of the fault of the call. If the fault is that nothing fits the arguments, there is help just
if the rule is a table that is not empty. The help is then the texts of all signatures of the
table in order, and with the parameters of any of them, if no literal is among these, the call
gives a signature of the table with just these parameters. -/
theorem requireCall_classifies (r : Registry) (id : IntrinsicId) (args : List Ty)
    (named : Table Ty) :
    (∀ sig, r.requireCall id args named = .ok sig ↔
        r.resolveCall id args named = .ok (some sig))
      ∧ ∀ e, r.requireCall id args named = .error e →
        ∃ d, e.diagnostics = [d]
          ∧ (∀ category, d.category = category ↔ r.CallFault id args named category)
          ∧ (d.category = .noMatchingOverload →
            (∀ help, d.help = some help ↔
              ∃ cases, r.rule? id = some (.fixedTable cases) ∧ cases ≠ []
                ∧ help = "accepted signatures: " ++
                    ", ".intercalate (cases.map Signature.text))
            ∧ ∀ cases, r.rule? id = some (.fixedTable cases) →
              ∀ sig ∈ cases, (∀ base value, Ty.literal base value ∉ sig.params) →
                ∃ taken ∈ cases, taken.params = sig.params
                  ∧ r.requireCall id sig.params .empty = .ok taken) := by
  refine ⟨r.requireCall_eq_ok_iff id args named, ?_⟩
  intro e he
  obtain ⟨d, hdiagnostics, hfault, hunmatched⟩ := exists_callFault_of_error he
  refine ⟨d, hdiagnostics, ?_, ?_⟩
  · intro category
    constructor
    · rintro rfl
      exact hfault
    · exact hfault.unique
  · intro hcategory
    obtain rfl := hunmatched hcategory
    refine ⟨r.help_unresolvedCall_iff id args, ?_⟩
    intro cases hrule sig hsig hliteral
    exact exists_requireCall_of_listed hrule hsig hliteral

end Registry

end KernelTyping
