import KernelTyping.Proofs.History

set_option autoImplicit false

/-! # The traces taken from a session

Questions add notes to the trace of a session, and at any time the trace can be taken, which
starts the numbering anew. Whatever the order of operations, each list of steps that is taken
is numbered from zero (`numbered_of_mem_takenAll`), and the lists together hold the notes of all
questions, each as if it had been asked alone (`notes_takenAll`). A question that is asked alone
leaves just the notes made on the way to its answer (`Registry.notesOf_eq`). The invariant of the
run is that what was taken and what is pending make up what was noted.
-/

namespace KernelTyping

/-! ## Numbered steps -/

namespace Trace

/-- Whether each step has its place as its number. -/
def Numbered (steps : List Step) : Prop :=
  ∀ (i : Nat) (step : Step), steps[i]? = some step → step.number = i

theorem numbered_nil : Numbered [] := by
  intro i step h
  simp at h

/-- Steps that go on where others stopped make up numbered steps with them. -/
theorem Numbered.append_number {steps : List Step} (h : Numbered steps) (notes : List Note) :
    Numbered (steps ++ number steps.length notes) := by
  intro i step hstep
  by_cases hi : i < steps.length
  · rw [List.getElem?_append_left hi] at hstep
    exact h i step hstep
  · have hle : steps.length ≤ i := Nat.le_of_not_lt hi
    rw [List.getElem?_append_right hle] at hstep
    have hnumber : step.number = steps.length + (i - steps.length) :=
      number_of_getElem?_number hstep
    omega

end Trace

/-! ## Runs of operations -/

/-- The question of an operation, if it asks one. -/
def Operation.query? : Operation → Option Query
  | .ask q => some q
  | .takeTrace => none

/-- The questions asked in a run of operations, in order. -/
def questions (ops : List Operation) : List Query := ops.filterMap Operation.query?

@[simp] theorem questions_ask (q : Query) (rest : List Operation) :
    questions (.ask q :: rest) = q :: questions rest := rfl

@[simp] theorem questions_takeTrace (rest : List Operation) :
    questions (.takeTrace :: rest) = questions rest := rfl

/-- The notes of a question that is asked alone, in a new session with a trace. -/
def Registry.notesOf (r : Registry) (q : Query) : List Note :=
  ((Session.traced r).ask q).2.2.takeTrace.1.map Step.toNote

theorem Registry.notesOf_eq (r : Registry) (q : Query) : r.notesOf q = (r.answer true q).notes :=
  Trace.map_toNote_number 0 _

namespace Session

/-- The steps that would be taken next. -/
def pending (s : Session) : List Step := s.takeTrace.1

/-- The lists of steps that are taken in a run of operations, in order. -/
def takenAll (s : Session) : List Operation → List (List Step)
  | [] => []
  | .ask q :: rest => (s.after (.ask q)).takenAll rest
  | .takeTrace :: rest => s.pending :: (s.after .takeTrace).takenAll rest

theorem takenAll_append (s : Session) (first second : List Operation) :
    s.takenAll (first ++ second) = s.takenAll first ++ (s.afterAll first).takenAll second := by
  induction first generalizing s with
  | nil => rfl
  | cons op rest ih =>
      cases op with
      | ask q => exact ih _
      | takeTrace => exact congrArg (s.pending :: ·) (ih _)

/-! ## One operation -/

theorem isTracing_after (s : Session) (op : Operation) : (s.after op).isTracing = s.isTracing := by
  cases op with
  | ask q => exact s.isTracing_ask q
  | takeTrace => exact s.isTracing_takeTrace

/-- A question adds its notes to what is pending. -/
theorem pending_ask {s : Session} (h : s.isTracing = true) (q : Query) :
    (s.after (.ask q)).pending
      = s.pending ++ Trace.number s.pending.length (s.registry.notesOf q) := by
  obtain ⟨r, trace⟩ := s
  obtain ⟨steps, rfl⟩ := Option.isSome_iff_exists.1 h
  rw [Registry.notesOf_eq]
  rfl

/-- Nothing is pending once the trace is taken. -/
theorem pending_takeTrace (s : Session) : (s.after .takeTrace).pending = [] := by
  obtain ⟨r, trace⟩ := s
  cases trace <;> rfl

theorem pending_of_not_isTracing {s : Session} (h : s.isTracing = false) : s.pending = [] := by
  obtain ⟨r, trace⟩ := s
  cases trace with
  | none => rfl
  | some steps => cases h

/-! ## What every run keeps -/

/-- No operation turns a trace on or off. -/
theorem isTracing_afterAll (s : Session) (ops : List Operation) :
    (s.afterAll ops).isTracing = s.isTracing := by
  induction ops generalizing s with
  | nil => rfl
  | cons op rest ih => rw [afterAll_cons, ih, isTracing_after]

/-- Each list that is taken is numbered from zero. -/
theorem numbered_of_mem_takenAll {s : Session} (htracing : s.isTracing = true)
    (hpending : Trace.Numbered s.pending) (ops : List Operation) :
    ∀ steps ∈ s.takenAll ops, Trace.Numbered steps := by
  induction ops generalizing s with
  | nil => simp [takenAll]
  | cons op rest ih =>
      have htracing' : (s.after op).isTracing = true := (s.isTracing_after op).trans htracing
      cases op with
      | ask q =>
          have hpending' : Trace.Numbered (s.after (.ask q)).pending := by
            rw [pending_ask htracing]
            exact hpending.append_number _
          exact ih htracing' hpending'
      | takeTrace =>
          have hpending' : Trace.Numbered (s.after .takeTrace).pending := by
            rw [pending_takeTrace]
            exact Trace.numbered_nil
          intro steps hmem
          rcases List.mem_cons.1 hmem with rfl | hrest
          · exact hpending
          · exact ih htracing' hpending' steps hrest

/-- What is taken in a run and what is pending after it are the notes that were pending before
it and those of its questions. -/
theorem notes_takenAll {s : Session} (h : s.isTracing = true) (ops : List Operation) :
    ((s.takenAll ops).flatten ++ (s.afterAll ops).pending).map Step.toNote
      = s.pending.map Step.toNote ++ (questions ops).flatMap s.registry.notesOf := by
  induction ops generalizing s with
  | nil => simp [takenAll, questions]
  | cons op rest ih =>
      have hrest := ih ((s.isTracing_after op).trans h)
      rw [registry_after] at hrest
      cases op with
      | ask q =>
          calc (((s.after (.ask q)).takenAll rest).flatten
                  ++ ((s.after (.ask q)).afterAll rest).pending).map Step.toNote
              = (s.after (.ask q)).pending.map Step.toNote
                  ++ (questions rest).flatMap s.registry.notesOf := hrest
            _ = (s.pending.map Step.toNote ++ s.registry.notesOf q)
                  ++ (questions rest).flatMap s.registry.notesOf := by
                rw [pending_ask h, List.map_append, Trace.map_toNote_number]
            _ = s.pending.map Step.toNote
                  ++ (questions (.ask q :: rest)).flatMap s.registry.notesOf := by
                simp
      | takeTrace =>
          -- What was pending is now taken, and the rest starts with nothing pending.
          rw [pending_takeTrace] at hrest
          calc ((s.pending :: (s.after .takeTrace).takenAll rest).flatten
                  ++ ((s.after .takeTrace).afterAll rest).pending).map Step.toNote
              = s.pending.map Step.toNote
                  ++ (((s.after .takeTrace).takenAll rest).flatten
                    ++ ((s.after .takeTrace).afterAll rest).pending).map Step.toNote := by
                simp
            _ = s.pending.map Step.toNote
                  ++ (questions (.takeTrace :: rest)).flatMap s.registry.notesOf := by
                rw [hrest]
                rfl

theorem eq_nil_of_mem_takenAll {s : Session} (h : s.isTracing = false) (ops : List Operation) :
    ∀ steps ∈ s.takenAll ops, steps = [] := by
  induction ops generalizing s with
  | nil => simp [takenAll]
  | cons op rest ih =>
      have hrest := ih ((s.isTracing_after op).trans h)
      cases op with
      | ask q => exact hrest
      | takeTrace =>
          intro steps hmem
          rcases List.mem_cons.1 hmem with rfl | hmem
          · exact pending_of_not_isTracing h
          · exact hrest steps hmem

/-- **No step is lost, doubled or misnumbered.** In whatever order questions are asked in a
session with a trace and the trace is taken, each list that is taken is numbered from zero; all
lists, with one taken at the end, hold the notes of the questions in order, each as if it had
been asked alone, which are just the notes that are made on the way to its answer; a trace taken
twice in a row is empty the second time; and no operation turns a trace on or off. Without a trace
every list that is taken is empty. -/
theorem steps_accounted_for (r : Registry) (ops : List Operation) :
    (∀ steps ∈ (traced r).takenAll ops, ∀ (i : Nat) (step : Step), steps[i]? = some step →
        step.number = i)
      ∧ ((traced r).takenAll (ops ++ [.takeTrace])).flatten.map Step.toNote
        = (questions ops).flatMap r.notesOf
      ∧ (∀ q, r.notesOf q = (r.answer true q).notes)
      ∧ (∀ s : Session, s.takeTrace.2.takeTrace.1 = [])
      ∧ (∀ s : Session, (s.afterAll ops).isTracing = s.isTracing)
      ∧ ∀ steps ∈ (plain r).takenAll ops, steps = [] := by
  refine ⟨?_, ?_, r.notesOf_eq, ?_, ?_, ?_⟩
  · have htracing : (traced r).isTracing = true := rfl
    exact numbered_of_mem_takenAll htracing Trace.numbered_nil ops
  · have htracing : (traced r).isTracing = true := rfl
    calc ((traced r).takenAll (ops ++ [.takeTrace])).flatten.map Step.toNote
        = (((traced r).takenAll ops).flatten
            ++ ((traced r).afterAll ops).pending).map Step.toNote := by
          rw [takenAll_append, List.flatten_append]
          simp [takenAll]
      _ = (questions ops).flatMap r.notesOf := notes_takenAll htracing ops
  · intro s
    exact s.pending_takeTrace
  · intro s
    exact s.isTracing_afterAll ops
  · exact eq_nil_of_mem_takenAll rfl ops

end Session

end KernelTyping
