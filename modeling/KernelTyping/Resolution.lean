import KernelTyping.Noted
import KernelTyping.Registry

set_option autoImplicit false

/-! # Resolution

How a registry answers what the compiler asks: the signature of a call, the type of a member,
of a global name, or of a dotted path that starts from a global name.

There are two ways to have no answer. A request that nothing fits has the answer `none`, and
the compiler may try something else. A call that can never be right, because it carries
keyword arguments or a literal outside the domain of the intrinsic, is an error.

Whether notes are made changes no answer (`value_answerCall_tracing` and its neighbours),
although a table is gone through signature by signature only for the sake of the notes. -/

namespace KernelTyping

open Noted (note send)

/-- Why a call can never be right. -/
inductive ResolveError where
  | invalidLiteral (id : IntrinsicId) (source : LiteralDomainError)
  | malformedRequest (id : IntrinsicId) (names : List String)
  deriving DecidableEq

namespace ResolveError

/-- The text of an error. -/
def message : ResolveError → String
  | .invalidLiteral id source =>
    "invalid literal argument to `" ++ id.text ++ "`: " ++ source.message
  | .malformedRequest id names =>
    "malformed call to `" ++ id.text ++ "`: intrinsics take no keyword arguments (got " ++
      ", ".intercalate names ++ ")"

/-- The diagnostic of an error. -/
def diagnostic (e : ResolveError) : Diagnostic :=
  match e with
  | .invalidLiteral _ _ => ⟨.invalidLiteral, e.message, none⟩
  | .malformedRequest _ _ =>
    ⟨.malformedRequest, e.message, some "pass intrinsic arguments positionally"⟩

end ResolveError

/-- What becomes of a call: a signature, nothing, or an error. -/
abbrev CallOutcome := Except ResolveError (Option Signature)

@[simp] theorem mapError_ok {ε ε' α : Type} (f : ε → ε') (value : α) :
    (Except.ok value).mapError f = .ok value := rfl

@[simp] theorem mapError_error {ε ε' α : Type} (f : ε → ε') (e : ε) :
    (Except.error e : Except ε α).mapError f = .error (f e) := rfl

namespace Resolution

/-! ## Matching a table -/

/-- Tries the signatures of a table one after the other, with a note for each, up to the first
that accepts the arguments. -/
def tryCases (tracing : Bool) (id : IntrinsicId) (args : List Ty) :
    List Signature → Noted (Option Signature)
  | [] => pure none
  | sig :: rest => do
    note tracing .tryCandidate id.text sig.text
    if sig.accepts args then
      note tracing .candidateMatched id.text sig.text
      return some sig
    else
      tryCases tracing id args rest

/-- Finds the signature of a table for the arguments, without going through it step by step
if no notes are asked for. -/
def matchTable (tracing : Bool) (id : IntrinsicId) (cases : List Signature) (args : List Ty) :
    Noted (Option Signature) :=
  if tracing then tryCases tracing id args cases else pure (firstMatch cases args)

/-- Trying the signatures of a table one by one ends at the first match. -/
theorem value_tryCases (tracing : Bool) (id : IntrinsicId) (args : List Ty)
    (cases : List Signature) :
    (tryCases tracing id args cases).value = firstMatch cases args := by
  induction cases with
  | nil => rfl
  | cons sig rest ih =>
    unfold firstMatch at ih ⊢
    rw [tryCases, List.find?_cons]
    cases sig.accepts args <;> simp [ih]

@[simp] theorem value_matchTable (tracing : Bool) (id : IntrinsicId) (cases : List Signature)
    (args : List Ty) : (matchTable tracing id cases args).value = firstMatch cases args := by
  cases tracing
  · rfl
  · exact value_tryCases true id args cases

/-! ## Computed rules -/

/-- Runs a typer once. A literal that it refuses is an error of the call. -/
def runTyper (tracing : Bool) (id : IntrinsicId) (typer : Typer) (args : List Ty) :
    Noted CallOutcome :=
  match typer args with
  | .ok found => pure (.ok found)
  | .error e => do
    note tracing .invalidLiteral id.text e.message
    send (.invalidLiteral id e.message)
    return .error (.invalidLiteral id e)

/-- Runs a typer on the arguments as they are; if it finds nothing and some argument is a
literal, runs it once more with the literals stripped. An error is final. -/
def applyTyper (tracing : Bool) (id : IntrinsicId) (typer : Typer) (args : List Ty) :
    Noted CallOutcome := do
  match ← runTyper tracing id typer args with
  | .ok none =>
    if args.any Ty.isLiteral then
      note tracing .literalFallback id.text (Ty.listText (stripLiterals args))
      runTyper tracing id typer (stripLiterals args)
    else
      return .ok none
  | outcome => return outcome

@[simp] theorem value_runTyper (tracing : Bool) (id : IntrinsicId) (typer : Typer)
    (args : List Ty) :
    (runTyper tracing id typer args).value = (typer args).mapError (.invalidLiteral id) := by
  unfold runTyper
  cases typer args <;> rfl

/-- The outcome of a typer: a first run, and a second on the stripped arguments if the first
finds nothing and there is something to strip. -/
theorem value_applyTyper (tracing : Bool) (id : IntrinsicId) (typer : Typer) (args : List Ty) :
    (applyTyper tracing id typer args).value =
      match typer args with
      | .ok none =>
        if args.any Ty.isLiteral then
          (typer (stripLiterals args)).mapError (.invalidLiteral id)
        else .ok none
      | .ok (some sig) => .ok (some sig)
      | .error e => .error (.invalidLiteral id e) := by
  unfold applyTyper
  rw [Noted.value_bind, value_runTyper]
  cases typer args with
  | error e => rfl
  | ok found =>
    cases found with
    | some sig => rfl
    | none => cases args.any Ty.isLiteral <;> simp

/-- Runs the strategy of a rule on the arguments. -/
def applyRule (tracing : Bool) (id : IntrinsicId) (args : List Ty) : Rule → Noted CallOutcome
  | .fixedTable cases => do
    return .ok (← matchTable tracing id cases args)
  | .predicate typer => do
    note tracing .applyPredicate id.text (Ty.listText args)
    applyTyper tracing id typer args
  | .closureFactory makeTyper => do
    note tracing .applyClosure id.text (Ty.listText args)
    applyTyper tracing id (makeTyper ()) args

theorem value_applyRule_tracing (tracing : Bool) (id : IntrinsicId) (args : List Ty)
    (rule : Rule) :
    (applyRule tracing id args rule).value = (applyRule false id args rule).value := by
  cases rule <;> simp [applyRule, value_applyTyper]

/-- Reports whether a signature was found; errors have been reported where they arose. -/
def conclude (tracing : Bool) (id : IntrinsicId) (args : List Ty) :
    CallOutcome → Noted CallOutcome
  | .ok (some sig) => do
    note tracing .resolved id.text sig.text
    send (.resolved id sig.text)
    return .ok (some sig)
  | .ok none => do
    note tracing .unresolved id.text (Ty.listText args)
    send (.noMatchingOverload id (Ty.listText args))
    return .ok none
  | .error e => return .error e

@[simp] theorem value_conclude (tracing : Bool) (id : IntrinsicId) (args : List Ty)
    (outcome : CallOutcome) : (conclude tracing id args outcome).value = outcome := by
  rcases outcome with e | _ | sig <;> rfl

end Resolution

namespace Registry

open Resolution

/-! ## Requests -/

/-- Resolves a call. Keyword arguments are refused before the intrinsic is looked up. -/
def answerCall (r : Registry) (tracing : Bool) (id : IntrinsicId) (args : List Ty)
    (named : Table Ty) : Noted CallOutcome :=
  if named.isEmpty then
    match r.rule? id with
    | none => do
      note tracing .lookupMiss id.text (Ty.listText args)
      send (.noTypingRule id)
      return .ok none
    | some rule => do
      note tracing .lookup id.text rule.strategy.text
      -- an error has been noted and sent by the run in which it arose
      conclude tracing id args (← applyRule tracing id args rule)
  else do
    note tracing .malformedRequest id.text (", ".intercalate named.keys)
    send (.keywordArguments id named.keys)
    return .error (.malformedRequest id named.keys)

/-- Resolves a member of a namespace. -/
def answerAttribute (r : Registry) (tracing : Bool) (ns : NamespaceId) (member : String) :
    Noted (Option Ty) :=
  match r.attributes? ns with
  | none => do
    note tracing .lookupMiss ns.text member
    send (.noAttributes ns)
    return none
  | some attributes => do
    note tracing .lookup ns.text Strategy.attributeMap.text
    match attributes.get? member with
    | some entry =>
      note tracing .attributeHit ns.text (member ++ ": " ++ entry.ty.text)
      return some entry.ty
    | none =>
      note tracing .attributeMiss ns.text member
      send (.unknownAttribute ns member)
      return none

/-- Resolves a member of a value. Only namespaces have members. -/
def answerMember (r : Registry) (tracing : Bool) (base : Ty) (member : String) :
    Noted (Option Ty) :=
  match base with
  | .scope ns => r.answerAttribute tracing ns member
  | _ => return none

/-- Resolves a global name. -/
def answerGlobal (r : Registry) (tracing : Bool) (name : String) : Noted (Option Ty) :=
  match r.global? name with
  | some ty => do
    note tracing .globalHit name ty.text
    return some ty
  | none => do
    note tracing .globalMiss name ""
    return none

/-- Resolves members one inside the other, starting from a value. -/
def answerMembers (r : Registry) (tracing : Bool) (base : Ty) :
    List String → Noted (Option Ty)
  | [] => return some base
  | member :: rest => do
    match ← r.answerMember tracing base member with
    | some next => r.answerMembers tracing next rest
    | none => return none

/-- Resolves a dotted path: a global name and members inside it. The empty path has no type. -/
def answerPath (r : Registry) (tracing : Bool) : List String → Noted (Option Ty)
  | [] => return none
  | name :: members => do
    match ← r.answerGlobal tracing name with
    | some base => r.answerMembers tracing base members
    | none => return none

/-! ## Notes change no answer -/

theorem value_answerCall_tracing (r : Registry) (tracing : Bool) (id : IntrinsicId)
    (args : List Ty) (named : Table Ty) :
    (r.answerCall tracing id args named).value = (r.answerCall false id args named).value := by
  unfold answerCall
  cases named.isEmpty with
  | false => rfl
  | true =>
    cases r.rule? id with
    | none => rfl
    | some rule => simp [value_applyRule_tracing tracing]

theorem value_answerAttribute_tracing (r : Registry) (tracing : Bool) (ns : NamespaceId)
    (member : String) :
    (r.answerAttribute tracing ns member).value = (r.answerAttribute false ns member).value := by
  unfold answerAttribute
  cases r.attributes? ns with
  | none => rfl
  | some attributes =>
    simp only [Noted.value_bind]
    cases attributes.get? member <;> rfl

theorem value_answerMember_tracing (r : Registry) (tracing : Bool) (base : Ty)
    (member : String) :
    (r.answerMember tracing base member).value = (r.answerMember false base member).value := by
  cases base with
  | scope ns => exact r.value_answerAttribute_tracing tracing ns member
  | _ => rfl

theorem value_answerGlobal_tracing (r : Registry) (tracing : Bool) (name : String) :
    (r.answerGlobal tracing name).value = (r.answerGlobal false name).value := by
  unfold answerGlobal
  cases r.global? name <;> rfl

theorem value_answerMembers_tracing (r : Registry) (tracing : Bool) (base : Ty)
    (members : List String) :
    (r.answerMembers tracing base members).value =
      (r.answerMembers false base members).value := by
  induction members generalizing base with
  | nil => rfl
  | cons member rest ih =>
    simp only [answerMembers, Noted.value_bind]
    rw [r.value_answerMember_tracing tracing]
    cases (r.answerMember false base member).value with
    | none => rfl
    | some next => exact ih next

theorem value_answerPath_tracing (r : Registry) (tracing : Bool) (path : List String) :
    (r.answerPath tracing path).value = (r.answerPath false path).value := by
  cases path with
  | nil => rfl
  | cons name members =>
    simp only [answerPath, Noted.value_bind]
    rw [r.value_answerGlobal_tracing tracing]
    cases (r.answerGlobal false name).value with
    | none => rfl
    | some base => exact r.value_answerMembers_tracing tracing base members

/-! ## Answers alone -/

/-- The outcome of a call. -/
def resolveCall (r : Registry) (id : IntrinsicId) (args : List Ty) (named : Table Ty) :
    CallOutcome :=
  (r.answerCall false id args named).value

/-- The type of a member of a namespace. -/
def resolveAttribute (r : Registry) (ns : NamespaceId) (member : String) : Option Ty :=
  (r.answerAttribute false ns member).value

/-- The type of a member of a value. -/
def resolveMember (r : Registry) (base : Ty) (member : String) : Option Ty :=
  (r.answerMember false base member).value

/-- The type of a global name. -/
def resolveGlobal (r : Registry) (name : String) : Option Ty :=
  (r.answerGlobal false name).value

/-- The type of a dotted path. -/
def resolvePath (r : Registry) (path : List String) : Option Ty :=
  (r.answerPath false path).value

theorem resolveAttribute_eq_some_iff (r : Registry) (ns : NamespaceId) (name : String)
    (ty : Ty) :
    r.resolveAttribute ns name = some ty ↔
      ∃ members entry, r.attributes? ns = some members ∧ members.get? name = some entry
        ∧ entry.ty = ty := by
  rw [resolveAttribute, answerAttribute]
  cases hns : r.attributes? ns with
  | none => simp
  | some members =>
    cases hentry : members.get? name with
    | none => simp [hentry]
    | some entry => simp [hentry]

end Registry

end KernelTyping
