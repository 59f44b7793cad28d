import KernelTyping.Event
import KernelTyping.Trace

set_option autoImplicit false

/-! # Results with notes

A computation that, beside its result, makes notes for a trace and sends events to a log.
Notes are made only if they are asked for; events are always sent. Running one computation
after another joins their notes and their events in that order (`notes_bind`, `events_bind`). -/

namespace KernelTyping

/-- A result with the notes made and the events sent on the way to it, oldest first. -/
structure Noted (α : Type) where
  value : α
  notes : List Note
  events : List Event

namespace Noted

variable {α β : Type}

/-- A result without notes and events. -/
def just (value : α) : Noted α := ⟨value, [], []⟩

/-- Goes on with a result; what was noted and sent before stays in front. -/
def andThen (x : Noted α) (f : α → Noted β) : Noted β :=
  ⟨(f x.value).value, x.notes ++ (f x.value).notes, x.events ++ (f x.value).events⟩

instance : Monad Noted where
  pure := just
  bind := andThen

/-- Makes a note if notes are asked for. -/
def note (tracing : Bool) (action : Action) (subject detail : String) : Noted Unit :=
  ⟨(), if tracing then [⟨action, subject, detail⟩] else [], []⟩

/-- Sends an event. -/
def send (event : Event) : Noted Unit := ⟨(), [], [event]⟩

/-- What was done on the way to a result, as far as it was noted. -/
def actions (x : Noted α) : List Action := x.notes.map fun note => note.action

@[simp] theorem value_pure (value : α) : (pure value : Noted α).value = value := rfl

@[simp] theorem notes_pure (value : α) : (pure value : Noted α).notes = [] := rfl

@[simp] theorem events_pure (value : α) : (pure value : Noted α).events = [] := rfl

@[simp] theorem value_bind (x : Noted α) (f : α → Noted β) :
    (x >>= f).value = (f x.value).value := rfl

@[simp] theorem notes_bind (x : Noted α) (f : α → Noted β) :
    (x >>= f).notes = x.notes ++ (f x.value).notes := rfl

@[simp] theorem events_bind (x : Noted α) (f : α → Noted β) :
    (x >>= f).events = x.events ++ (f x.value).events := rfl

@[simp] theorem value_map (f : α → β) (x : Noted α) : (f <$> x).value = f x.value := rfl

@[simp] theorem notes_map (f : α → β) (x : Noted α) : (f <$> x).notes = x.notes := by
  show x.notes ++ [] = x.notes
  simp

@[simp] theorem events_map (f : α → β) (x : Noted α) : (f <$> x).events = x.events := by
  show x.events ++ [] = x.events
  simp

@[simp] theorem notes_note (tracing : Bool) (action : Action) (subject detail : String) :
    (note tracing action subject detail).notes =
      if tracing then [⟨action, subject, detail⟩] else [] := rfl

@[simp] theorem events_note (tracing : Bool) (action : Action) (subject detail : String) :
    (note tracing action subject detail).events = [] := rfl

@[simp] theorem notes_send (event : Event) : (send event).notes = [] := rfl

@[simp] theorem events_send (event : Event) : (send event).events = [event] := rfl

@[simp] theorem actions_pure (value : α) : (pure value : Noted α).actions = [] := rfl

@[simp] theorem actions_bind (x : Noted α) (f : α → Noted β) :
    (x >>= f).actions = x.actions ++ (f x.value).actions := List.map_append

@[simp] theorem actions_note (action : Action) (subject detail : String) :
    (note true action subject detail).actions = [action] := rfl

@[simp] theorem actions_send (event : Event) : (send event).actions = [] := rfl

end Noted

end KernelTyping
