import KernelTyping.Proofs.Stripping
import KernelTyping.Proofs.TyperAnswers

set_option autoImplicit false

/-! # Selections

A selection is typed just if both operands behave as one type that can be selected from
(`Selects`). Its condition may be of any type, but is not always passed on as it is: a literal
operand is not accepted in the first run, and the second run strips the condition along with the
operands (`retrying_select`).
-/

namespace KernelTyping.Cuda

/-! ## What is selected -/

/-- The type of the condition in the signature of a selection. -/
def conditionParam (condition first second : Ty) : Ty :=
  if first.isLiteral || second.isLiteral then condition.unliteral else condition

/-- The selections that are typed, with their signatures. -/
inductive Selects : List Ty → Signature → Prop
  | intro {condition first second ty : Ty} (hfirst : first.unliteral = ty)
      (hsecond : second.unliteral = ty) (hmem : ty ∈ selectTypes) :
      Selects [condition, first, second]
        ⟨[conditionParam condition first second, ty, ty], ty⟩

theorem isLiteral_of_mem_selectTypes {ty : Ty} (h : ty ∈ selectTypes) : ty.isLiteral = false := by
  have hall : ∀ ty ∈ selectTypes, ty.isLiteral = false := by decide
  exact hall ty h

/-! ## The typer and its second run -/

theorem select_eq_none_iff (condition first second : Ty) :
    select [condition, first, second] = .ok none ↔ ¬ (first = second ∧ first ∈ selectTypes) := by
  simp [select]

theorem length_of_select (args : List Ty) (sig : Signature) (h : select args = .ok (some sig)) :
    args.length = 3 := by
  obtain ⟨condition, ty, rfl, -, -⟩ := (select_eq_some_iff args sig).1 h
  rfl

/-- The operands decide which run answers; the condition only goes with them. -/
theorem retrying_select (condition first second : Ty) :
    select.retrying [condition, first, second]
      = select [conditionParam condition first second, first.unliteral, second.unliteral] := by
  have hdecided : select.retrying [condition, first, second]
      = select (if first.isLiteral || second.isLiteral then
          stripLiterals [condition, first, second] else [condition, first, second]) := by
    refine Typer.retrying_eq_ite ?_ ?_
    · intro hliteral
      rw [select_eq_none_iff]
      rintro ⟨rfl, hmem⟩
      simp [isLiteral_of_mem_selectTypes hmem] at hliteral
    · intro hplain hnone
      obtain ⟨hfirst, hsecond⟩ := Bool.or_eq_false_iff.1 hplain
      show select [condition.unliteral, first.unliteral, second.unliteral] = .ok none
      rw [Ty.unliteral_of_not_isLiteral hfirst, Ty.unliteral_of_not_isLiteral hsecond]
      exact (select_eq_none_iff _ first second).2 ((select_eq_none_iff _ first second).1 hnone)
  rw [hdecided]
  cases hplain : first.isLiteral || second.isLiteral with
  | true =>
      rw [conditionParam, hplain]
      rfl
  | false =>
      obtain ⟨hfirst, hsecond⟩ := Bool.or_eq_false_iff.1 hplain
      rw [conditionParam, hplain, Ty.unliteral_of_not_isLiteral hfirst,
        Ty.unliteral_of_not_isLiteral hsecond]
      rfl

theorem retrying_select_eq_some_iff (args : List Ty) (sig : Signature) :
    select.retrying args = .ok (some sig) ↔ Selects args sig := by
  constructor
  · intro h
    have hlength : args.length = 3 := Typer.length_of_retrying length_of_select h
    match args, hlength with
    | [condition, first, second], _ =>
      rw [retrying_select, select_eq_some_iff] at h
      obtain ⟨condition', ty, hargs, hmem, rfl⟩ := h
      simp only [List.cons.injEq, and_true] at hargs
      obtain ⟨rfl, hfirst, hsecond⟩ := hargs
      exact .intro hfirst hsecond hmem
  · intro h
    cases h with
    | @intro condition first second ty hfirst hsecond hmem =>
        rw [retrying_select, hfirst, hsecond]
        exact (select_eq_some_iff _ _).2 ⟨_, ty, rfl, hmem, rfl⟩

/-! ## Through the registry -/

/-- **Selections are typed exactly.** Whatever the configuration and the parser, no selection
without keyword arguments is an error, and one has a signature just if both operands behave as the
same type and this type can be selected from. The result and the operands are of this type; the
condition is passed on as it is if no operand is a literal, and stripped otherwise. -/
theorem resolveCall_selp_eq (config : EngineConfig) (parser : ArraySpecParser) :
    ∃ r, registry config parser = .ok r ∧ ∀ args, ∃ found,
      r.resolveCall (intrinsic "selp") args .empty = .ok found
        ∧ ∀ sig, found = some sig ↔ Selects args sig := by
  obtain ⟨r, hr⟩ := exists_registry config parser
  refine ⟨r, hr, ?_⟩
  intro args
  obtain ⟨found, hfound⟩ := total_select.retrying args
  refine ⟨found, ?_, ?_⟩
  · rw [intrinsic, resolveCall_of_surfaceRule hr .select, Rule.outcome, hfound, mapError_ok]
  · intro sig
    rw [← retrying_select_eq_some_iff, hfound, Except.ok.injEq]

-- Equal literals are no exception: neither run of the typer passes a literal operand on.
example :
    select.retrying [.boolLiteral true, .intLiteral 1, .intLiteral 1]
      = .ok (some ⟨[.scalar .bool, .scalar .int64, .scalar .int64], .scalar .int64⟩) := by
  rfl

end KernelTyping.Cuda
