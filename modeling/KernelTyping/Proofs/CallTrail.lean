import KernelTyping.Proofs.Stripping
import KernelTyping.Session

set_option autoImplicit false

/-! # The trail of a call

What a call adds to a trace follows from its keyword arguments, the rule of its intrinsic and
the answers of the typer, if the rule has one. `CallTrail` says so case by case, together with
the outcome, without running anything; and these are just the notes that a call makes
(`callTrail_iff`). All of them speak of the intrinsic that is called
(`CallTrail.subject_eq`), and the last one tells the outcome
(`CallTrail.exists_last`).
-/

namespace KernelTyping

/-! ## The trail -/

/-- The note that a signature of a table is tried. -/
def triedNote (id : IntrinsicId) (sig : Signature) : Note := ⟨.tryCandidate, id.text, sig.text⟩

/-- The note that ends the call of an intrinsic with a rule, by what the rule came to. -/
def closingNote (id : IntrinsicId) (args : List Ty) :
    Except LiteralDomainError (Option Signature) → Note
  | .ok (some sig) => ⟨.resolved, id.text, sig.text⟩
  | .ok none => ⟨.unresolved, id.text, Ty.listText args⟩
  | .error e => ⟨.invalidLiteral, id.text, e.message⟩

/-- The typer of a rule that computes its signatures, and the action of running it. -/
def Rule.run? : Rule → Option (Action × Typer)
  | .fixedTable _ => none
  | .predicate typer => some (.applyPredicate, typer)
  | .closureFactory makeTyper => some (.applyClosure, makeTyper ())

/-- The notes of a call with its outcome. A call with keyword arguments and one of an intrinsic
without a rule leave one note. A table leaves one for each signature up to the first that
accepts the arguments. A typer leaves a note of its run, and a second one if it finds nothing
and stripping changes the arguments. -/
inductive CallTrail (r : Registry) (id : IntrinsicId) (args : List Ty) (named : Table Ty) :
    List Note → CallOutcome → Prop
  | malformed (hnamed : named.isEmpty = false) :
      CallTrail r id args named [⟨.malformedRequest, id.text, ", ".intercalate named.keys⟩]
        (.error (.malformedRequest id named.keys))
  | unregistered (hnamed : named.isEmpty = true) (hrule : r.rule? id = none) :
      CallTrail r id args named [⟨.lookupMiss, id.text, Ty.listText args⟩] (.ok none)
  | matched {before after : List Signature} {sig : Signature} (hnamed : named.isEmpty = true)
      (hrule : r.rule? id = some (.fixedTable (before ++ sig :: after)))
      (hbefore : ∀ other ∈ before, other.accepts args = false)
      (hsig : sig.accepts args = true) :
      CallTrail r id args named
        (⟨.lookup, id.text, Strategy.fixedTable.text⟩ ::
          ((before ++ [sig]).map (triedNote id) ++
            [⟨.candidateMatched, id.text, sig.text⟩, ⟨.resolved, id.text, sig.text⟩]))
        (.ok (some sig))
  | unmatched {cases : List Signature} (hnamed : named.isEmpty = true)
      (hrule : r.rule? id = some (.fixedTable cases))
      (hcases : ∀ sig ∈ cases, sig.accepts args = false) :
      CallTrail r id args named
        (⟨.lookup, id.text, Strategy.fixedTable.text⟩ ::
          (cases.map (triedNote id) ++ [⟨.unresolved, id.text, Ty.listText args⟩]))
        (.ok none)
  | decided {rule : Rule} {run : Action} {typer : Typer} (hnamed : named.isEmpty = true)
      (hrule : r.rule? id = some rule) (hrun : rule.run? = some (run, typer))
      (hfirst : typer args ≠ .ok none ∨ stripLiterals args = args) :
      CallTrail r id args named
        [⟨.lookup, id.text, rule.strategy.text⟩, ⟨run, id.text, Ty.listText args⟩,
          closingNote id args (typer args)]
        ((typer args).mapError (.invalidLiteral id))
  | retried {rule : Rule} {run : Action} {typer : Typer} (hnamed : named.isEmpty = true)
      (hrule : r.rule? id = some rule) (hrun : rule.run? = some (run, typer))
      (hfirst : typer args = .ok none) (hstrip : stripLiterals args ≠ args) :
      CallTrail r id args named
        [⟨.lookup, id.text, rule.strategy.text⟩, ⟨run, id.text, Ty.listText args⟩,
          ⟨.literalFallback, id.text, Ty.listText (stripLiterals args)⟩,
          closingNote id args (typer (stripLiterals args))]
        ((typer (stripLiterals args)).mapError (.invalidLiteral id))

/-! ## The notes of each part -/

theorem Rule.run?_eq_none_iff (rule : Rule) :
    rule.run? = none ↔ ∃ cases, rule = .fixedTable cases := by
  cases rule <;> simp [run?]

namespace Resolution

/-- Nothing after the first signature that accepts the arguments is tried. -/
theorem notes_tryCases_of_match (id : IntrinsicId) {args : List Ty} {before : List Signature}
    {sig : Signature} (hbefore : ∀ other ∈ before, other.accepts args = false)
    (hsig : sig.accepts args = true) (after : List Signature) :
    (tryCases true id args (before ++ sig :: after)).notes
      = (before ++ [sig]).map (triedNote id) ++ [⟨.candidateMatched, id.text, sig.text⟩] := by
  induction before with
  | nil => simp [tryCases, hsig, triedNote]
  | cons other rest ih =>
      have hother : other.accepts args = false := hbefore other List.mem_cons_self
      have hrest := ih fun sig' hmem => hbefore sig' (List.mem_cons_of_mem _ hmem)
      simp [tryCases, hother, hrest, triedNote]

/-- Without a match all signatures are tried. -/
theorem notes_tryCases_of_no_match (id : IntrinsicId) {args : List Ty} {cases : List Signature}
    (h : ∀ sig ∈ cases, sig.accepts args = false) :
    (tryCases true id args cases).notes = cases.map (triedNote id) := by
  induction cases with
  | nil => rfl
  | cons sig rest ih =>
      have hsig : sig.accepts args = false := h sig List.mem_cons_self
      have hrest := ih fun sig' hmem => h sig' (List.mem_cons_of_mem _ hmem)
      simp [tryCases, hsig, hrest, triedNote]

theorem firstMatch_of_match {args : List Ty} {before : List Signature} {sig : Signature}
    (hbefore : ∀ other ∈ before, other.accepts args = false) (hsig : sig.accepts args = true)
    (after : List Signature) : firstMatch (before ++ sig :: after) args = some sig := by
  rw [firstMatch, List.find?_eq_some_iff_append]
  exact ⟨hsig, before, after, rfl, fun other hmem => by simp [hbefore other hmem]⟩

/-- A run with what is noted of its outcome: together they leave just the closing note. -/
theorem notes_runTyper_conclude (id : IntrinsicId) (typer : Typer) (args args' : List Ty) :
    (runTyper true id typer args').notes
        ++ (conclude true id args (runTyper true id typer args').value).notes
      = [closingNote id args (typer args')] := by
  rw [value_runTyper]
  unfold runTyper
  rcases typer args' with e | _ | sig <;> simp [conclude, closingNote]

/-- One run is all if it finds something, is refused, or leaves nothing to strip. -/
theorem applyTyper_of_decided (id : IntrinsicId) {typer : Typer} {args : List Ty}
    (h : typer args ≠ .ok none ∨ stripLiterals args = args) :
    applyTyper true id typer args = runTyper true id typer args := by
  unfold applyTyper runTyper
  cases hfirst : typer args with
  | error e => rfl
  | ok found =>
      cases found with
      | some sig => rfl
      | none =>
          have hany : args.any Ty.isLiteral = false := by
            rcases h with hne | hsame
            · exact absurd hfirst hne
            · exact (stripLiterals_eq_self_iff args).1 hsame
          show (if args.any Ty.isLiteral then _ else _) = _
          rw [hany]
          rfl

/-- If the first run finds nothing and there is something to strip, a note and a run on the
stripped arguments follow. -/
theorem applyTyper_of_retried (id : IntrinsicId) {typer : Typer} {args : List Ty}
    (hfirst : typer args = .ok none) (hstrip : stripLiterals args ≠ args) :
    applyTyper true id typer args = (do
      Noted.note true .literalFallback id.text (Ty.listText (stripLiterals args))
      runTyper true id typer (stripLiterals args)) := by
  have hany : args.any Ty.isLiteral = true := by
    rw [← Bool.not_eq_false]
    intro hfalse
    exact hstrip ((stripLiterals_eq_self_iff args).2 hfalse)
  have hrun : runTyper true id typer args = pure (.ok none) := by
    rw [runTyper, hfirst]
  rw [applyTyper, hrun]
  show (if args.any Ty.isLiteral then _ else _) = _
  rw [hany]
  rfl

/-- A rule with a typer makes a note of the run. -/
theorem applyRule_of_run? (id : IntrinsicId) (args : List Ty) {rule : Rule} {run : Action}
    {typer : Typer} (h : rule.run? = some (run, typer)) :
    applyRule true id args rule = (do
      Noted.note true run id.text (Ty.listText args)
      applyTyper true id typer args) := by
  cases rule with
  | fixedTable cases => cases h
  | predicate typer' =>
      obtain ⟨rfl, rfl⟩ := Prod.mk.inj (Option.some.inj h)
      rfl
  | closureFactory makeTyper =>
      obtain ⟨rfl, rfl⟩ := Prod.mk.inj (Option.some.inj h)
      rfl

end Resolution

/-! ## A call leaves its trail -/

section

variable {r : Registry} {id : IntrinsicId} {args : List Ty} {named : Table Ty}

/-- A call without keyword arguments of an intrinsic with a rule. -/
theorem Registry.answerCall_of_rule? {rule : Rule} (hnamed : named.isEmpty = true)
    (hrule : r.rule? id = some rule) :
    r.answerCall true id args named = (do
      Noted.note true .lookup id.text rule.strategy.text
      Resolution.conclude true id args (← Resolution.applyRule true id args rule)) := by
  rw [answerCall, if_pos hnamed, hrule]

/-- What the trail says is what happens. -/
theorem CallTrail.answerCall_eq {notes : List Note} {outcome : CallOutcome}
    (h : CallTrail r id args named notes outcome) :
    (r.answerCall true id args named).notes = notes
      ∧ (r.answerCall true id args named).value = outcome := by
  cases h with
  | malformed hnamed =>
      rw [Registry.answerCall, if_neg (by simp [hnamed])]
      exact ⟨rfl, rfl⟩
  | unregistered hnamed hrule =>
      rw [Registry.answerCall, if_pos hnamed, hrule]
      exact ⟨rfl, rfl⟩
  | @matched before after sig hnamed hrule hbefore hsig =>
      have hnotes := Resolution.notes_tryCases_of_match id hbefore hsig after
      have hvalue := Resolution.firstMatch_of_match hbefore hsig after
      rw [Registry.answerCall_of_rule? hnamed hrule]
      simp [Resolution.applyRule, Resolution.matchTable, Resolution.value_tryCases, hnotes,
        hvalue, Resolution.conclude, Rule.strategy]
  | @unmatched cases hnamed hrule hcases =>
      have hnotes := Resolution.notes_tryCases_of_no_match id hcases
      have hvalue : firstMatch cases args = none := by
        rw [firstMatch, List.find?_eq_none]
        intro sig hmem
        simp [hcases sig hmem]
      rw [Registry.answerCall_of_rule? hnamed hrule]
      simp [Resolution.applyRule, Resolution.matchTable, Resolution.value_tryCases, hnotes,
        hvalue, Resolution.conclude, Rule.strategy]
  | @decided rule run typer hnamed hrule hrun hfirst =>
      have hnotes := Resolution.notes_runTyper_conclude id typer args args
      rw [Registry.answerCall_of_rule? hnamed hrule, Resolution.applyRule_of_run? id args hrun,
        Resolution.applyTyper_of_decided id hfirst]
      simpa using hnotes
  | @retried rule run typer hnamed hrule hrun hfirst hstrip =>
      have hnotes := Resolution.notes_runTyper_conclude id typer args (stripLiterals args)
      rw [Registry.answerCall_of_rule? hnamed hrule, Resolution.applyRule_of_run? id args hrun,
        Resolution.applyTyper_of_retried id hfirst hstrip]
      simpa using hnotes

/-- Every call has a trail. -/
theorem exists_callTrail (r : Registry) (id : IntrinsicId) (args : List Ty) (named : Table Ty) :
    ∃ notes outcome, CallTrail r id args named notes outcome := by
  cases hnamed : named.isEmpty with
  | false => exact ⟨_, _, .malformed hnamed⟩
  | true =>
      cases hrule : r.rule? id with
      | none => exact ⟨_, _, .unregistered hnamed hrule⟩
      | some rule =>
          rcases hrun : rule.run? with _ | ⟨run, typer⟩
          · obtain ⟨cases, rfl⟩ := rule.run?_eq_none_iff.1 hrun
            cases hmatch : firstMatch cases args with
            | none =>
                have hcases : ∀ sig ∈ cases, sig.accepts args = false := by
                  intro sig hmem
                  simpa using List.find?_eq_none.1 hmatch sig hmem
                exact ⟨_, _, .unmatched hnamed hrule hcases⟩
            | some sig =>
                obtain ⟨hsig, before, after, rfl, hbefore⟩ :=
                  List.find?_eq_some_iff_append.1 hmatch
                have hbefore' : ∀ other ∈ before, other.accepts args = false := by
                  intro other hmem
                  simpa using hbefore other hmem
                exact ⟨_, _, .matched hnamed hrule hbefore' hsig⟩
          · by_cases hfirst : typer args = .ok none ∧ stripLiterals args ≠ args
            · exact ⟨_, _, .retried hnamed hrule hrun hfirst.1 hfirst.2⟩
            · have hdecided : typer args ≠ .ok none ∨ stripLiterals args = args := by
                by_cases hnone : typer args = .ok none
                · exact .inr (Decidable.of_not_not fun hne => hfirst ⟨hnone, hne⟩)
                · exact .inl hnone
              exact ⟨_, _, .decided hnamed hrule hrun hdecided⟩

/-- A call leaves its trail and nothing else. -/
theorem callTrail_iff (notes : List Note) (outcome : CallOutcome) :
    CallTrail r id args named notes outcome ↔
      notes = (r.answerCall true id args named).notes
        ∧ outcome = (r.answerCall true id args named).value := by
  constructor
  · intro h
    obtain ⟨hnotes, hvalue⟩ := h.answerCall_eq
    exact ⟨hnotes.symm, hvalue.symm⟩
  · rintro ⟨rfl, rfl⟩
    obtain ⟨notes, outcome, h⟩ := exists_callTrail r id args named
    obtain ⟨hnotes, hvalue⟩ := h.answerCall_eq
    rw [hnotes, hvalue]
    exact h

/-! ## What a trail tells -/

theorem subject_closingNote (id : IntrinsicId) (args : List Ty)
    (answer : Except LiteralDomainError (Option Signature)) :
    (closingNote id args answer).subject = id.text := by
  rcases answer with e | _ | sig <;> rfl

/-- All notes are about the intrinsic that is called. -/
theorem CallTrail.subject_eq {notes : List Note} {outcome : CallOutcome}
    (h : CallTrail r id args named notes outcome) : ∀ note ∈ notes, note.subject = id.text := by
  cases h with
  | malformed => simp
  | unregistered => simp
  | matched => simp [triedNote, or_imp, forall_and]
  | unmatched => simp [triedNote, or_imp, forall_and]
  | decided => simp [subject_closingNote]
  | retried => simp [subject_closingNote]

/-- The last action of a call and its outcome tell the same. Nothing being found has two
forms: without a rule the look-up is the last that is done. -/
structure TellsOutcome (id : IntrinsicId) (last : Action) (outcome : CallOutcome) : Prop where
  resolved : last = .resolved ↔ ∃ sig, outcome = .ok (some sig)
  nothing : last = .unresolved ∨ last = .lookupMiss ↔ outcome = .ok none
  refused : last = .invalidLiteral ↔ ∃ e, outcome = .error (.invalidLiteral id e)
  malformed : last = .malformedRequest ↔ ∃ names, outcome = .error (.malformedRequest id names)

theorem tellsOutcome_closingNote (id : IntrinsicId) (args : List Ty)
    (answer : Except LiteralDomainError (Option Signature)) :
    TellsOutcome id (closingNote id args answer).action
      (answer.mapError (.invalidLiteral id)) := by
  rcases answer with e | _ | sig <;> constructor <;> simp [closingNote]

theorem CallTrail.exists_last {notes : List Note} {outcome : CallOutcome}
    (h : CallTrail r id args named notes outcome) :
    ∃ init last, notes = init ++ [last] ∧ TellsOutcome id last.action outcome := by
  cases h with
  | malformed => exact ⟨[], _, rfl, by constructor <;> simp⟩
  | unregistered => exact ⟨[], _, rfl, by constructor <;> simp⟩
  | @matched before after sig =>
      refine ⟨⟨.lookup, id.text, Strategy.fixedTable.text⟩ ::
        ((before ++ [sig]).map (triedNote id) ++ [⟨.candidateMatched, id.text, sig.text⟩]),
        closingNote id args (.ok (some sig)), ?_, tellsOutcome_closingNote id args _⟩
      simp [closingNote]
  | @unmatched cases =>
      exact ⟨⟨.lookup, id.text, Strategy.fixedTable.text⟩ :: cases.map (triedNote id),
        closingNote id args (.ok none), rfl, tellsOutcome_closingNote id args _⟩
  | decided => exact ⟨[_, _], _, rfl, tellsOutcome_closingNote id args _⟩
  | retried => exact ⟨[_, _, _], _, rfl, tellsOutcome_closingNote id args _⟩

end

/-- **The trace tells the truth about a call.** A call in a session with a trace adds just its
trail, and replies the outcome of that trail, which for any registry, arguments and keyword
arguments is the only one: one note of a malformed call; one of an intrinsic without a rule; or
a look-up, the signatures of the table up to the first match or the runs of the typer, and how
it ended. The steps that are added hold these notes and no others, numbered on from the end of the
trace. All the notes are about the intrinsic that is called, and the last one is that of the
outcome. -/
theorem Session.ask_call_trail (r : Registry) (steps : List Step) (id : IntrinsicId)
    (args : List Ty) (named : Table Ty) :
    ∃ notes outcome added,
      (ask ⟨r, some steps⟩ (.call id args named)).1 = .call outcome
        ∧ (ask ⟨r, some steps⟩ (.call id args named)).2.2.trace = some (steps ++ added)
        ∧ added = Trace.number steps.length notes
        ∧ added.map Step.toNote = notes
        ∧ (∀ (i : Nat) (step : Step), added[i]? = some step → step.number = steps.length + i)
        ∧ (∀ notes' outcome', CallTrail r id args named notes' outcome' ↔
          notes' = notes ∧ outcome' = outcome)
        ∧ (∀ note ∈ notes, note.subject = id.text)
        ∧ ∃ init last, notes = init ++ [last] ∧ TellsOutcome id last.action outcome := by
  obtain ⟨notes, outcome, htrail⟩ := exists_callTrail r id args named
  obtain ⟨hnotes, hvalue⟩ := (callTrail_iff notes outcome).1 htrail
  refine ⟨notes, outcome, Trace.number steps.length notes, ?_, ?_, rfl,
    Trace.map_toNote_number _ _, ?_, ?_, htrail.subject_eq, htrail.exists_last⟩
  · rw [hvalue]
    rfl
  · have htrace : (ask ⟨r, some steps⟩ (.call id args named)).2.2.trace
        = some (steps ++ Trace.number steps.length
          (Reply.call <$> r.answerCall true id args named).notes) := rfl
    rw [htrace, Noted.notes_map, hnotes]
  · intro i step hstep
    exact Trace.number_of_getElem?_number hstep
  · intro notes' outcome'
    rw [hnotes, hvalue]
    exact callTrail_iff notes' outcome'

end KernelTyping
