import KernelTyping.Resolution
import KernelTyping.Text.EditDistance

set_option autoImplicit false

/-! # Reports

How the failures of resolution are told to the user: an unresolved call with the signatures
that would have been accepted, an unknown member with the name that was perhaps meant. -/

namespace KernelTyping

/-! ## Names that were perhaps meant -/

/-- A name and its distance from the one that was asked for. -/
structure Nearby where
  name : String
  distance : Nat
  deriving DecidableEq

/-- The nearer of the best name so far and the next one; of equally near ones the first. -/
def Nearby.better (asked : String) (best : Option Nearby) (candidate : String) :
    Option Nearby :=
  let distance := EditDistance.distance asked.toList candidate.toList
  match best with
  | none => some ⟨candidate, distance⟩
  | some current => if distance < current.distance then some ⟨candidate, distance⟩ else best

/-- The nearest of several names. -/
def nearest? (asked : String) (names : List String) : Option Nearby :=
  names.foldl (Nearby.better asked) none

/-- The greatest distance at which a name is still taken for a slip. -/
def slipDistance : Nat := 3

/-- The name that was perhaps meant. -/
def suggestion? (asked : String) (names : List String) : Option String :=
  match nearest? asked names with
  | some best => if best.distance ≤ slipDistance then some best.name else none
  | none => none

namespace Registry

/-- The help for a call that no signature of a table accepts: the signatures in order. -/
def acceptedHelp (cases : List Signature) : Option String :=
  if cases.isEmpty then none
  else some ("accepted signatures: " ++ ", ".intercalate (cases.map Signature.text))

/-- The report of a call that found nothing. -/
def unresolvedCall (r : Registry) (id : IntrinsicId) (args : List Ty) : Diagnostic :=
  match r.rule? id with
  | none => ⟨.unknownIntrinsic, "`" ++ id.text ++ "` is not a known intrinsic", none⟩
  | some rule =>
    ⟨.noMatchingOverload,
      "no matching overload for `" ++ id.text ++ "` with argument types " ++ Ty.listText args,
      rule.cases?.bind acceptedHelp⟩

/-- The report of a member that was not found. -/
def unknownAttribute (r : Registry) (ns : NamespaceId) (member : String) : Diagnostic :=
  ⟨.unknownAttribute, "unknown attribute `" ++ member ++ "` on `" ++ ns.text ++ "`",
    ((r.attributes? ns).bind fun attributes => suggestion? member attributes.names).map
      fun name => "did you mean `" ++ name ++ "`?"⟩

/-- Resolves a call that has to succeed; the events are those of resolving it. -/
def answerRequiredCall (r : Registry) (id : IntrinsicId) (args : List Ty) (named : Table Ty) :
    Noted (Except DiagnosticError Signature) := do
  match ← r.answerCall false id args named with
  | .ok (some sig) => return .ok sig
  | .ok none => return .error (.single (r.unresolvedCall id args))
  | .error e => return .error (.single e.diagnostic)

/-- Resolves a member that has to exist; the events are those of resolving it. -/
def answerRequiredAttribute (r : Registry) (ns : NamespaceId) (member : String) :
    Noted (Except DiagnosticError Ty) := do
  match ← r.answerAttribute false ns member with
  | some ty => return .ok ty
  | none => return .error (.single (r.unknownAttribute ns member))

/-- The signature of a call that has to succeed. -/
def requireCall (r : Registry) (id : IntrinsicId) (args : List Ty) (named : Table Ty) :
    Except DiagnosticError Signature :=
  (r.answerRequiredCall id args named).value

/-- The type of a member that has to exist. -/
def requireAttribute (r : Registry) (ns : NamespaceId) (member : String) :
    Except DiagnosticError Ty :=
  (r.answerRequiredAttribute ns member).value

end Registry

end KernelTyping
