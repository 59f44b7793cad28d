import KernelTyping.Session

set_option autoImplicit false

/-! # Sessions with a past

A session is asked questions, and its trace is taken, in any order (`Operation`). What it
replies to the next question depends on none of this: the reply is the one that the registry
gives by itself (`Registry.reply`), whether or not a trace is kept (`reply_afterAll`).
-/

namespace KernelTyping

/-! ## The reply of a registry -/

/-- The reply that a registry gives to a question by itself. A request in the form of data is
answered as the question that it stands for. -/
def Registry.reply (r : Registry) : Query → Reply
  | .call id args named => .call (r.resolveCall id args named)
  | .attribute ns member => .ty (r.resolveAttribute ns member)
  | .global name => .ty (r.resolveGlobal name)
  | .member base name => .ty (r.resolveMember base name)
  | .path names => .ty (r.resolvePath names)
  | .request (.call id args named) => .request ((r.resolveCall id args named).map .call)
  | .request (.attribute ns member) =>
      .request (.ok (.attribute (r.resolveAttribute ns member)))

/-- Making notes does not change the reply. -/
theorem Registry.value_answer (r : Registry) (tracing : Bool) :
    ∀ q : Query, (r.answer tracing q).value = r.reply q
  | .call id args named =>
      congrArg Reply.call (r.value_answerCall_tracing tracing id args named)
  | .attribute ns member =>
      congrArg Reply.ty (r.value_answerAttribute_tracing tracing ns member)
  | .global name => congrArg Reply.ty (r.value_answerGlobal_tracing tracing name)
  | .member base name => congrArg Reply.ty (r.value_answerMember_tracing tracing base name)
  | .path names => congrArg Reply.ty (r.value_answerPath_tracing tracing names)
  | .request (.call id args named) => by
      have h := r.value_answerCall_tracing tracing id args named
      exact congrArg (fun outcome => Reply.request (outcome.map Answer.call)) h
  | .request (.attribute ns member) => by
      have h := r.value_answerAttribute_tracing tracing ns member
      exact congrArg (fun found => Reply.request (.ok (Answer.attribute found))) h

/-! ## Operations on a session -/

/-- Something that is done to a session. -/
inductive Operation where
  | ask (q : Query)
  | takeTrace

namespace Session

/-- The session after an operation. -/
def after (s : Session) : Operation → Session
  | .ask q => (s.ask q).2.2
  | .takeTrace => s.takeTrace.2

/-- The session after a list of operations, the first one first. -/
def afterAll (s : Session) (history : List Operation) : Session := history.foldl after s

@[simp] theorem afterAll_nil (s : Session) : s.afterAll [] = s := rfl

@[simp] theorem afterAll_cons (s : Session) (op : Operation) (rest : List Operation) :
    s.afterAll (op :: rest) = (s.after op).afterAll rest := rfl

@[simp] theorem registry_after (s : Session) (op : Operation) :
    (s.after op).registry = s.registry := by
  cases op <;> rfl

/-- No run of operations changes the registry. -/
@[simp] theorem registry_afterAll (s : Session) (history : List Operation) :
    (s.afterAll history).registry = s.registry := by
  induction history generalizing s with
  | nil => rfl
  | cons op rest ih => rw [afterAll_cons, ih, registry_after]

/-- What a session replies is decided by its registry. -/
theorem reply_ask (s : Session) (q : Query) : (s.ask q).1 = s.registry.reply q :=
  s.registry.value_answer s.isTracing q

/-- **Neither a trace nor the past has a part in a reply.** After any history a session, with
or without a trace, replies what its registry replies by itself, which is what a new session
without a trace replies. In particular going through a table signature by signature ends with
the signature that the search without notes finds. -/
theorem reply_afterAll (s : Session) (history : List Operation) :
    (∀ q, ((s.afterAll history).ask q).1 = s.registry.reply q)
      ∧ (∀ q, ((s.afterAll history).ask q).1 = ((plain s.registry).ask q).1)
      ∧ ∀ id cases args, (Resolution.tryCases true id args cases).value = firstMatch cases args := by
  have hreply : ∀ q, ((s.afterAll history).ask q).1 = s.registry.reply q := by
    intro q
    rw [reply_ask, registry_afterAll]
  refine ⟨hreply, ?_, ?_⟩
  · intro q
    have hplain : ((plain s.registry).ask q).1 = s.registry.reply q := reply_ask _ q
    rw [hreply, hplain]
  · intro id cases args
    exact Resolution.value_tryCases true id args cases

end Session

end KernelTyping
