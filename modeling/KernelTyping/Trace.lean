import KernelTyping.Text.Decimal
import KernelTyping.Text.JsonString

set_option autoImplicit false

/-! # Traces of resolution

A resolver can write down how it came to its answers. Each note says what was done, to which
intrinsic, namespace or name, and with which detail; a trace numbers the notes from zero in
the order in which they were made. `map_toNote_number` says that the numbered notes are the same,
`number_of_getElem?_number` that each has its place as its number and `number_append` that
numbering goes on where it stopped; `json` writes a trace as JSON text. -/

namespace KernelTyping

/-- What a resolver does in one step. -/
inductive Action where
  | lookup
  | lookupMiss
  | tryCandidate
  | candidateMatched
  | applyPredicate
  | applyClosure
  | literalFallback
  | resolved
  | unresolved
  | invalidLiteral
  | malformedRequest
  | attributeHit
  | attributeMiss
  | globalHit
  | globalMiss
  deriving DecidableEq

/-- The name of an action. -/
def Action.text : Action → String
  | .lookup => "lookup"
  | .lookupMiss => "lookup_miss"
  | .tryCandidate => "try_candidate"
  | .candidateMatched => "candidate_matched"
  | .applyPredicate => "apply_predicate"
  | .applyClosure => "apply_closure"
  | .literalFallback => "literal_fallback"
  | .resolved => "resolved"
  | .unresolved => "unresolved"
  | .invalidLiteral => "invalid_literal"
  | .malformedRequest => "malformed_request"
  | .attributeHit => "attribute_hit"
  | .attributeMiss => "attribute_miss"
  | .globalHit => "global_hit"
  | .globalMiss => "global_miss"

/-- A note about one step of a resolution. -/
structure Note where
  action : Action
  subject : String
  detail : String
  deriving DecidableEq

/-- A note with its place in the trace. -/
structure Step extends Note where
  number : Nat
  deriving DecidableEq

namespace Trace

/-- The notes as steps, numbered from `start`. -/
def number (start : Nat) (notes : List Note) : List Step :=
  notes.zipIdx start |>.map fun pair => ⟨pair.1, pair.2⟩

@[simp] theorem number_nil (start : Nat) : number start [] = [] := rfl

@[simp] theorem number_cons (start : Nat) (note : Note) (notes : List Note) :
    number start (note :: notes) = ⟨note, start⟩ :: number (start + 1) notes := rfl

@[simp] theorem length_number (start : Nat) (notes : List Note) :
    (number start notes).length = notes.length := by
  simp [number]

theorem number_append (start : Nat) (first second : List Note) :
    number start (first ++ second) =
      number start first ++ number (start + first.length) second := by
  simp [number, List.zipIdx_append]

theorem getElem?_number (start : Nat) (notes : List Note) (i : Nat) :
    (number start notes)[i]? = notes[i]?.map fun note => ⟨note, start + i⟩ := by
  rw [number, List.getElem?_map, List.getElem?_zipIdx]
  cases notes[i]? <;> rfl

/-- The number of a step is its place, counted on from the start. -/
theorem number_of_getElem?_number {start i : Nat} {notes : List Note} {step : Step}
    (h : (number start notes)[i]? = some step) : step.number = start + i := by
  rw [getElem?_number] at h
  obtain ⟨note, -, rfl⟩ := Option.map_eq_some_iff.1 h
  rfl

/-- Numbering keeps the notes. -/
theorem map_toNote_number (start : Nat) (notes : List Note) :
    (number start notes).map Step.toNote = notes := by
  induction notes generalizing start with
  | nil => rfl
  | cons note notes ih => rw [number_cons, List.map_cons, ih]

theorem map_action_number (start : Nat) (notes : List Note) :
    (number start notes).map (fun step => step.action) =
      notes.map fun note => note.action := by
  have h := congrArg (List.map fun note : Note => note.action) (map_toNote_number start notes)
  rwa [List.map_map] at h

/-! ## JSON text -/

/-- A line of the JSON text of a step: a field and its value. -/
def fieldLine (field : String) (value : List Char) : List Char :=
  "    \"".toList ++ field.toList ++ "\": ".toList ++ value

/-- The JSON text of a step, as an element of a list: one field on a line. -/
def stepJson (step : Step) : List Char :=
  "  \x7b\n".toList ++
    List.intercalate [',', '\n']
      [fieldLine "step" (Decimal.natural step.number),
       fieldLine "action" (JsonString.encode step.action.text.toList),
       fieldLine "subject" (JsonString.encode step.subject.toList),
       fieldLine "detail" (JsonString.encode step.detail.toList)] ++
  "\n  \x7d".toList

/-- The characters of the JSON text of a trace. -/
def jsonChars : List Step → List Char
  | [] => ['[', ']']
  | steps => ['[', '\n'] ++ List.intercalate [',', '\n'] (steps.map stepJson) ++ ['\n', ']']

/-- The JSON text of a trace. -/
def json (steps : List Step) : String := String.ofList (jsonChars steps)

end Trace

end KernelTyping
