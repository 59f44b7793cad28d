import KernelTyping.Signature

set_option autoImplicit false

/-! # Typing rules

A rule says how calls of one intrinsic are typed. A fixed table lists the accepted signatures,
and the first one that fits the arguments is taken. The other two kinds compute the signature
from the argument types by a `Typer`, which may also refuse a literal for its value. -/

namespace KernelTyping

/-- A literal argument whose value an intrinsic does not accept, with the values that it does. -/
structure LiteralDomainError where
  value : LiteralValue
  domain : String
  deriving DecidableEq

/-- The text of a refused literal. -/
def LiteralDomainError.message (e : LiteralDomainError) : String :=
  "argument can only be " ++ e.domain ++ ", got " ++ e.value.text

/-- A computed typing: a signature, nothing if the argument types do not suit the intrinsic,
or an error if a literal does not. -/
abbrev Typer := List Ty → Except LiteralDomainError (Option Signature)

/-- The typer that looks its arguments up in a list of answers and takes the first one given
for just these arguments. -/
def Typer.ofAnswers
    (answers : List (List Ty × Except LiteralDomainError (Option Signature))) : Typer :=
  fun args =>
    match answers.find? fun answer => answer.1 = args with
    | some answer => answer.2
    | none => .ok none

/-- How calls of one intrinsic are typed. A closure factory makes a typer anew for each call. -/
inductive Rule where
  | fixedTable (cases : List Signature)
  | predicate (typer : Typer)
  | closureFactory (makeTyper : Unit → Typer)

/-- The ways in which a request is resolved. -/
inductive Strategy where
  | fixedTable
  | predicate
  | closureFactory
  | attributeMap
  deriving DecidableEq

/-- The name of a strategy. -/
def Strategy.text : Strategy → String
  | .fixedTable => "fixed_table"
  | .predicate => "predicate"
  | .closureFactory => "closure_factory"
  | .attributeMap => "attribute_map"

namespace Rule

/-- The strategy of a rule. -/
def strategy : Rule → Strategy
  | .fixedTable _ => .fixedTable
  | .predicate _ => .predicate
  | .closureFactory _ => .closureFactory

/-- The signatures that a rule lists, if it is a table. -/
def cases? : Rule → Option (List Signature)
  | .fixedTable cases => some cases
  | _ => none

/-- The outline of a rule; typers are not shown. -/
def outline : Rule → String
  | .fixedTable cases => "FixedTable(" ++ outlineOfList (cases.map Signature.outline) ++ ")"
  | .predicate _ => "Predicate(..)"
  | .closureFactory _ => "ClosureFactory(..)"

end Rule

/-! ## Fixed tables -/

/-- The arguments with every literal replaced by the type that it behaves as. -/
def stripLiterals (args : List Ty) : List Ty := args.map Ty.unliteral

@[simp] theorem stripLiterals_stripLiterals (args : List Ty) :
    stripLiterals (stripLiterals args) = stripLiterals args := by
  simp [stripLiterals]

/-- Whether a signature accepts the arguments: as many as it has parameters, each behaving as
just the type of its parameter. -/
def Signature.accepts (sig : Signature) (args : List Ty) : Bool :=
  sig.params.length = args.length &&
    (sig.params.zip args).all fun pair => pair.2.unliteral = pair.1

theorem all_zip_unliteral_iff (params args : List Ty) (h : params.length = args.length) :
    ((params.zip args).all fun pair => decide (pair.2.unliteral = pair.1)) = true ↔
      params = stripLiterals args := by
  induction params generalizing args with
  | nil =>
    cases args with
    | nil => simp [stripLiterals]
    | cons _ _ => simp at h
  | cons param params ih =>
    cases args with
    | nil => simp at h
    | cons arg args =>
      have hlength : params.length = args.length := by simpa using h
      simp only [List.zip_cons_cons, List.all_cons, Bool.and_eq_true, decide_eq_true_eq,
        ih args hlength, stripLiterals, List.map_cons, List.cons.injEq]
      exact and_congr_left fun _ => eq_comm

/-- A signature accepts just the arguments that become its parameters once the literals are
stripped. -/
theorem Signature.accepts_iff (sig : Signature) (args : List Ty) :
    sig.accepts args = true ↔ sig.params = stripLiterals args := by
  unfold Signature.accepts
  rw [Bool.and_eq_true, decide_eq_true_eq]
  constructor
  · rintro ⟨hlength, hall⟩
    exact (all_zip_unliteral_iff _ _ hlength).1 hall
  · intro h
    have hlength : sig.params.length = args.length := by rw [h]; simp [stripLiterals]
    exact ⟨hlength, (all_zip_unliteral_iff _ _ hlength).2 h⟩

/-- The first signature of a table that accepts the arguments. -/
def firstMatch (cases : List Signature) (args : List Ty) : Option Signature :=
  cases.find? fun sig => sig.accepts args

/-- The position of the first signature of a table that accepts the arguments. -/
def firstMatchIndex (cases : List Signature) (args : List Ty) : Option Nat :=
  cases.findIdx? fun sig => sig.accepts args

end KernelTyping
