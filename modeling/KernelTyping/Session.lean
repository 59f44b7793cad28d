import KernelTyping.Resolution

set_option autoImplicit false

/-! # Sessions

A compiler asks one registry many questions. A session is the registry together with the
trace of the questions asked so far, if a trace is kept; taking the trace leaves an empty one,
in which steps are numbered from zero again. Nothing else is remembered between questions. -/

namespace KernelTyping

/-- A request in the form of data. -/
inductive Request where
  | call (id : IntrinsicId) (args : List Ty) (named : Table Ty)
  | attribute (ns : NamespaceId) (member : String)

/-- The answer to a request, if it is not an error. -/
inductive Answer where
  | call (signature : Option Signature)
  | attribute (ty : Option Ty)
  deriving DecidableEq

/-- Answers a request. -/
def Registry.answerRequest (r : Registry) (tracing : Bool) :
    Request → Noted (Except ResolveError Answer)
  | .call id args named => do
    return (← r.answerCall tracing id args named).map .call
  | .attribute ns member => do
    return .ok (.attribute (← r.answerAttribute tracing ns member))

/-- A question to a session. -/
inductive Query where
  | call (id : IntrinsicId) (args : List Ty) (named : Table Ty)
  | attribute (ns : NamespaceId) (member : String)
  | global (name : String)
  | member (base : Ty) (name : String)
  | path (names : List String)
  | request (request : Request)

/-- What a session replies to a question. -/
inductive Reply where
  | call (outcome : CallOutcome)
  | ty (found : Option Ty)
  | request (outcome : Except ResolveError Answer)

/-- Answers a question. -/
def Registry.answer (r : Registry) (tracing : Bool) : Query → Noted Reply
  | .call id args named => .call <$> r.answerCall tracing id args named
  | .attribute ns member => .ty <$> r.answerAttribute tracing ns member
  | .global name => .ty <$> r.answerGlobal tracing name
  | .member base name => .ty <$> r.answerMember tracing base name
  | .path names => .ty <$> r.answerPath tracing names
  | .request request => .request <$> r.answerRequest tracing request

/-- A registry with the trace of the questions asked of it, if one is kept. -/
structure Session where
  registry : Registry
  trace : Option (List Step)

namespace Session

/-- A session that keeps no trace. -/
def plain (r : Registry) : Session := ⟨r, none⟩

/-- A session that keeps a trace. -/
def traced (r : Registry) : Session := ⟨r, some []⟩

/-- Whether the session keeps a trace. -/
def isTracing (s : Session) : Bool := s.trace.isSome

/-- Adds notes to the trace, if one is kept. -/
def record (s : Session) (notes : List Note) : Session :=
  { s with trace := s.trace.map fun steps => steps ++ Trace.number steps.length notes }

/-- Asks a question: the reply, the events on the way to it, and the session after it. -/
def ask (s : Session) (q : Query) : Reply × List Event × Session :=
  let answer := s.registry.answer s.isTracing q
  (answer.value, answer.events, s.record answer.notes)

/-- Takes the trace out of the session. Without a trace there are no steps to take. -/
def takeTrace (s : Session) : List Step × Session :=
  (s.trace.getD [], { s with trace := s.trace.map fun _ => [] })

/-! ## What a session keeps -/

@[simp] theorem registry_ask (s : Session) (q : Query) : (s.ask q).2.2.registry = s.registry :=
  rfl

@[simp] theorem registry_takeTrace (s : Session) : s.takeTrace.2.registry = s.registry := rfl

@[simp] theorem isTracing_ask (s : Session) (q : Query) :
    (s.ask q).2.2.isTracing = s.isTracing := by
  simp [ask, record, isTracing]

@[simp] theorem isTracing_takeTrace (s : Session) : s.takeTrace.2.isTracing = s.isTracing := by
  simp [takeTrace, isTracing]

end Session

end KernelTyping
