import KernelTyping.Proofs.Outcome
import KernelTyping.Session

set_option autoImplicit false

/-! # What the log is told

A call sends one event, which tells what became of it (`events_answerCall`): the typers send
nothing but the refusal of a literal, a first run that finds nothing sends nothing, and a
refusal is not followed by a second event. A look-up of a member sends one event if it fails
and none otherwise, so a path, which ends at the first failure, sends one at most
(`events_answerPath`). None of this depends on whether notes are made.
-/

namespace KernelTyping

/-! ## The events of a call -/

/-- The events of running a typer: one if it refuses a literal. -/
def refusalEvents (id : IntrinsicId) : Except LiteralDomainError (Option Signature) → List Event
  | .ok _ => []
  | .error e => [.invalidLiteral id e.message]

namespace Resolution

variable (tracing : Bool) (id : IntrinsicId) (args : List Ty)

theorem events_tryCases (cases : List Signature) :
    (tryCases tracing id args cases).events = [] := by
  induction cases with
  | nil => rfl
  | cons sig rest ih =>
      rw [tryCases]
      cases sig.accepts args <;> simp [ih]

theorem events_matchTable (cases : List Signature) :
    (matchTable tracing id cases args).events = [] := by
  cases tracing with
  | false => rfl
  | true => exact events_tryCases true id args cases

theorem events_runTyper (typer : Typer) :
    (runTyper tracing id typer args).events = refusalEvents id (typer args) := by
  unfold runTyper
  cases typer args <;> rfl

/-- The first run is silent if a second one follows. -/
theorem events_applyTyper (typer : Typer) :
    (applyTyper tracing id typer args).events = refusalEvents id (typer.retrying args) := by
  rw [applyTyper, Noted.events_bind, events_runTyper, value_runTyper]
  by_cases hnone : typer args = .ok none
  · rw [Typer.retrying_of_none hnone, hnone]
    simp only [mapError_ok]
    cases args.any Ty.isLiteral with
    | false => rfl
    | true =>
        have hrun := events_runTyper tracing id (stripLiterals args) typer
        simpa [refusalEvents] using hrun
  · rw [Typer.retrying_of_ne_none hnone]
    rcases hfirst : typer args with e | _ | sig
    · rfl
    · exact absurd hfirst hnone
    · rfl

theorem events_applyRule (rule : Rule) :
    (applyRule tracing id args rule).events = refusalEvents id (rule.outcome args) := by
  cases rule with
  | fixedTable cases => simp [applyRule, events_matchTable, Rule.outcome, refusalEvents]
  | predicate typer => simp [applyRule, events_applyTyper, Rule.outcome]
  | closureFactory makeTyper => simp [applyRule, events_applyTyper, Rule.outcome]

end Resolution

namespace Registry

/-- The event of a call, by what became of it. -/
def callEvent (r : Registry) (id : IntrinsicId) (args : List Ty) : CallOutcome → Event
  | .error (.malformedRequest id names) => .keywordArguments id names
  | .error (.invalidLiteral id e) => .invalidLiteral id e.message
  | .ok (some sig) => .resolved id sig.text
  | .ok none =>
    if (r.rule? id).isSome then .noMatchingOverload id (Ty.listText args) else .noTypingRule id

/-- A call sends one event, and it is that of its outcome. -/
theorem events_answerCall (r : Registry) (tracing : Bool) (id : IntrinsicId) (args : List Ty)
    (named : Table Ty) :
    (r.answerCall tracing id args named).events
      = [r.callEvent id args (r.resolveCall id args named)] := by
  cases hnamed : named.isEmpty with
  | false =>
      rw [r.resolveCall_of_keywords id args hnamed, answerCall, if_neg (by simp [hnamed])]
      rfl
  | true =>
      rw [r.resolveCall_of_isEmpty id args hnamed, answerCall, if_pos hnamed]
      cases hrule : r.rule? id with
      | none =>
          rw [typing_of_unregistered hrule]
          simp [callEvent, hrule]
      | some rule =>
          rw [typing_of_rule? hrule]
          simp only [Noted.events_bind, Noted.events_note, List.nil_append,
            Resolution.value_applyRule, Resolution.events_applyRule]
          -- A refusal has been sent by the rule; the rest is sent at the end.
          rcases rule.outcome args with e | _ | sig <;>
            simp [Resolution.conclude, refusalEvents, callEvent, hrule]

/-- An event and the outcome of a call tell the same, about the intrinsic that is called. -/
structure TellsCall (r : Registry) (id : IntrinsicId) (args : List Ty) (event : Event)
    (outcome : CallOutcome) : Prop where
  malformed : ∀ id' names, event = .keywordArguments id' names ↔
    outcome = .error (.malformedRequest id' names)
  refused : ∀ id' text, event = .invalidLiteral id' text ↔
    ∃ e, outcome = .error (.invalidLiteral id' e) ∧ text = e.message
  resolved : ∀ id' text, event = .resolved id' text ↔
    id' = id ∧ ∃ sig, outcome = .ok (some sig) ∧ text = sig.text
  unregistered : ∀ id', event = .noTypingRule id' ↔
    id' = id ∧ outcome = .ok none ∧ r.rule? id = none
  unmatched : ∀ id' text, event = .noMatchingOverload id' text ↔
    id' = id ∧ outcome = .ok none ∧ (∃ rule, r.rule? id = some rule) ∧ text = Ty.listText args
  error : event.level = .error ↔ ∃ id' names, outcome = .error (.malformedRequest id' names)
  trace : event.level = .trace ↔ ∃ sig, outcome = .ok (some sig)
  debug : event.level = .debug ↔
    outcome = .ok none ∨ ∃ id' e, outcome = .error (.invalidLiteral id' e)

theorem tellsCall_callEvent (r : Registry) (id : IntrinsicId) (args : List Ty)
    (outcome : CallOutcome) : TellsCall r id args (r.callEvent id args outcome) outcome := by
  rcases outcome with (⟨id', e⟩ | ⟨id', names⟩) | _ | sig
  case ok.none =>
    cases hrule : r.rule? id with
    | none => constructor <;> simp [callEvent, hrule, Event.level, eq_comm]
    | some rule => constructor <;> simp [callEvent, hrule, Event.level, eq_comm]
  all_goals constructor <;> simp [callEvent, Event.level, eq_comm, and_assoc]

/-! ## The events of members and paths -/

/-- The event of a member that is not found. -/
def missEvent (r : Registry) (ns : NamespaceId) (member : String) : Event :=
  if (r.attributes? ns).isSome then .unknownAttribute ns member else .noAttributes ns

theorem level_missEvent (r : Registry) (ns : NamespaceId) (member : String) :
    (r.missEvent ns member).level = .debug := by
  unfold missEvent
  split <;> rfl

theorem events_answerAttribute (r : Registry) (tracing : Bool) (ns : NamespaceId)
    (member : String) :
    (r.answerAttribute tracing ns member).events
      = if (r.resolveAttribute ns member).isSome then [] else [r.missEvent ns member] := by
  unfold resolveAttribute answerAttribute missEvent
  cases r.attributes? ns with
  | none => rfl
  | some attributes => cases hmember : attributes.get? member <;> simp [hmember]

theorem events_answerMember (r : Registry) (tracing : Bool) (base : Ty) (member : String) :
    (r.answerMember tracing base member).events = []
      ∨ r.resolveMember base member = none
        ∧ ∃ ns, (r.answerMember tracing base member).events = [r.missEvent ns member] := by
  cases base with
  | scope ns =>
      show (r.answerAttribute tracing ns member).events = []
        ∨ r.resolveAttribute ns member = none
          ∧ ∃ ns', (r.answerAttribute tracing ns member).events = [r.missEvent ns' member]
      rw [events_answerAttribute]
      cases r.resolveAttribute ns member with
      | none => exact .inr ⟨rfl, ns, rfl⟩
      | some ty => exact .inl rfl
  | _ => exact .inl rfl

theorem events_answerGlobal (r : Registry) (tracing : Bool) (name : String) :
    (r.answerGlobal tracing name).events = [] := by
  unfold answerGlobal
  cases r.global? name <;> simp

/-- Members one inside the other are looked up until one is missing. -/
theorem events_answerMembers (r : Registry) (tracing : Bool) (base : Ty)
    (members : List String) :
    (r.answerMembers tracing base members).events = []
      ∨ (r.answerMembers tracing base members).value = none
        ∧ ∃ ns member, (r.answerMembers tracing base members).events
          = [r.missEvent ns member] := by
  induction members generalizing base with
  | nil => exact .inl rfl
  | cons member rest ih =>
      have hvalue : (r.answerMember tracing base member).value = r.resolveMember base member :=
        r.value_answerMember_tracing tracing base member
      simp only [answerMembers, Noted.events_bind, Noted.value_bind, hvalue]
      rcases r.events_answerMember tracing base member with hevents | ⟨hnone, ns, hevents⟩
      · rw [hevents]
        cases r.resolveMember base member with
        | none => exact .inl rfl
        | some next => exact ih next
      · rw [hevents, hnone]
        exact .inr ⟨rfl, ns, member, rfl⟩

/-- A path sends no event, or it leads nowhere and sends one of a missing member. -/
theorem events_answerPath (r : Registry) (tracing : Bool) (path : List String) :
    (r.answerPath tracing path).events = []
      ∨ (r.answerPath tracing path).value = none
        ∧ ∃ ns member, (r.answerPath tracing path).events = [r.missEvent ns member] := by
  cases path with
  | nil => exact .inl rfl
  | cons name members =>
      simp only [answerPath, Noted.events_bind, Noted.value_bind, events_answerGlobal,
        List.nil_append]
      cases (r.answerGlobal tracing name).value with
      | none => exact .inl rfl
      | some base => exact r.events_answerMembers tracing base members

end Registry

/-! ## Sessions and builders -/

theorem Builder.buildEvents_of_ok {b : Builder} {r : Registry} (h : b.build = .ok r) :
    b.buildEvents = [.registryBuilt r.rules.length r.namespaces.length r.globals.length] := by
  rw [buildEvents, h]
  simp [Registry.rules, Registry.namespaces, Registry.globals, Table.size]

theorem Builder.buildEvents_of_error {b : Builder} {e : RegistryError} (h : b.build = .error e) :
    b.buildEvents = [] := by
  rw [buildEvents, h]

/-- **The log tells what becomes of each request.** In any session, with or without a trace, a
call sends just one event, and event and outcome tell the same: an error for keyword arguments;
for a signature its text; a refused literal; and where nothing is found, that there is no rule,
or the arguments as they were given. A member sends one event just if it is not found, a global
name none, and a whole path one at most; a request in the form of data sends what the question
sends that it stands for. A builder sends one event just if it makes a registry. -/
theorem Session.events_match_replies (s : Session) :
    (∀ id args named, ∃ outcome event, (s.ask (.call id args named)).1 = .call outcome
        ∧ (s.ask (.call id args named)).2.1 = [event]
        ∧ Registry.TellsCall s.registry id args event outcome)
      ∧ (∀ ns member, ∃ found, (s.ask (.attribute ns member)).1 = .ty found
        ∧ (found = none ↔ (s.ask (.attribute ns member)).2.1 = [s.registry.missEvent ns member])
        ∧ (found ≠ none ↔ (s.ask (.attribute ns member)).2.1 = [])
        ∧ (s.registry.missEvent ns member).level = .debug)
      ∧ (∀ name, (s.ask (.global name)).2.1 = [])
      ∧ (∀ names, (s.ask (.path names)).2.1.length ≤ 1)
      ∧ (∀ id args named, (s.ask (.request (.call id args named))).2.1
        = (s.ask (.call id args named)).2.1)
      ∧ (∀ ns member, (s.ask (.request (.attribute ns member))).2.1
        = (s.ask (.attribute ns member)).2.1)
      ∧ ∀ b : Builder, ((∃ event, b.buildEvents = [event]) ↔ ∃ r, b.build = .ok r)
        ∧ (b.buildEvents = [] ↔ ∃ e, b.build = .error e) := by
  obtain ⟨r, trace⟩ := s
  refine ⟨?_, ?_, ?_, ?_, ?_, ?_, ?_⟩
  · intro id args named
    refine ⟨r.resolveCall id args named, r.callEvent id args (r.resolveCall id args named),
      ?_, ?_, r.tellsCall_callEvent id args _⟩
    · exact congrArg Reply.call (r.value_answerCall_tracing trace.isSome id args named)
    · show (Reply.call <$> r.answerCall trace.isSome id args named).events = _
      rw [Noted.events_map, r.events_answerCall]
  · intro ns member
    have hevents : (ask ⟨r, trace⟩ (.attribute ns member)).2.1
        = if (r.resolveAttribute ns member).isSome then [] else [r.missEvent ns member] := by
      show (Reply.ty <$> r.answerAttribute trace.isSome ns member).events = _
      rw [Noted.events_map, r.events_answerAttribute]
    refine ⟨r.resolveAttribute ns member, ?_, ?_, ?_, r.level_missEvent ns member⟩
    · exact congrArg Reply.ty (r.value_answerAttribute_tracing trace.isSome ns member)
    · rw [hevents]
      cases r.resolveAttribute ns member <;> simp
    · rw [hevents]
      cases r.resolveAttribute ns member <;> simp
  · intro name
    show (Reply.ty <$> r.answerGlobal trace.isSome name).events = []
    rw [Noted.events_map, r.events_answerGlobal]
  · intro names
    show (Reply.ty <$> r.answerPath trace.isSome names).events.length ≤ 1
    rw [Noted.events_map]
    rcases r.events_answerPath trace.isSome names with hnone | ⟨-, ns, member, hone⟩
    · rw [hnone]
      exact Nat.zero_le 1
    · rw [hone]
      exact Nat.le_refl 1
  · intro id args named
    simp [ask, Registry.answer, Registry.answerRequest]
  · intro ns member
    simp [ask, Registry.answer, Registry.answerRequest]
  · intro b
    cases hbuild : b.build with
    | ok r' => simp [Builder.buildEvents_of_ok hbuild]
    | error e => simp [Builder.buildEvents_of_error hbuild]

end KernelTyping
