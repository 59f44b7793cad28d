set_option autoImplicit false

/-! # Diagnostics

A diagnostic is an error shown to the user of the compiler: a category with its fixed code, a
message, and sometimes a line of help. -/

namespace KernelTyping

/-- What kind of fault a diagnostic is about. -/
inductive Category where
  | noMatchingOverload
  | unknownIntrinsic
  | unknownAttribute
  | invalidLiteral
  | malformedRequest
  | duplicateRegistration
  | danglingReference
  | config
  deriving DecidableEq

/-- The code of a category. Faults of a program have codes below `E0900`, faults of the
compiler itself codes from there on. -/
def Category.code : Category → String
  | .noMatchingOverload => "E0101"
  | .unknownIntrinsic => "E0102"
  | .unknownAttribute => "E0103"
  | .invalidLiteral => "E0104"
  | .malformedRequest => "E0901"
  | .duplicateRegistration => "E0902"
  | .danglingReference => "E0903"
  | .config => "E0904"

/-- Different categories have different codes. -/
theorem Category.code_inj {a b : Category} : a.code = b.code ↔ a = b := by
  cases a <;> cases b <;> decide

/-- An error shown to the user of the compiler. -/
structure Diagnostic where
  category : Category
  message : String
  help : Option String
  deriving DecidableEq

/-- The text of a diagnostic: the code and the message, and the help on a line of its own. -/
def Diagnostic.text (d : Diagnostic) : String :=
  let headline := "error[" ++ d.category.code ++ "]: " ++ d.message
  match d.help with
  | none => headline
  | some help => headline ++ "\n  help: " ++ help

/-- One failure reported by several diagnostics. -/
structure DiagnosticError where
  diagnostics : List Diagnostic
  deriving DecidableEq

/-- The failure of a single diagnostic. -/
def DiagnosticError.single (d : Diagnostic) : DiagnosticError := ⟨[d]⟩

/-- The text of a failure is that of its first diagnostic. -/
def DiagnosticError.text (e : DiagnosticError) : String :=
  match e.diagnostics with
  | [] => ""
  | first :: _ => first.text

end KernelTyping
