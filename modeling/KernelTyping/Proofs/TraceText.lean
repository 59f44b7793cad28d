import KernelTyping.Proofs.Delimiting
import KernelTyping.Text.Listing
import KernelTyping.Trace

set_option autoImplicit false

/-! # Traces from their JSON text

The JSON text of a trace determines the trace (`Trace.json_eq_iff`), whatever characters the
subjects and details of its steps contain. Each part of the text marks its own end: a number ends
at the comma behind it, a string at the quote that closes it, because reading a string stops there
(`JsonString.selfDelimiting_encode`), and a list of steps where a line break stands in place of the
comma in front of another step.
-/

namespace KernelTyping

/-- A string in JSON text is read back whatever stands behind it, so it marks its own end. -/
theorem JsonString.selfDelimiting_encode : SelfDelimiting encode := by
  intro s t x y h
  have hread : some (s, x) = some (t, y) := by
    rw [← decode_encode s x, h, decode_encode t y]
  exact Prod.mk.inj (Option.some.inj hread)

/-- Different actions have different names. -/
theorem Action.text_inj {a b : Action} : a.text = b.text ↔ a = b := by
  cases a <;> cases b <;> decide

namespace Trace

/-! ## Steps -/

theorem fieldLine_append (field : String) (value x : List Char) :
    fieldLine field value ++ x
      = "    \"".toList ++ field.toList ++ "\": ".toList ++ (value ++ x) :=
  List.append_assoc _ _ _

theorem fieldLine_append_inj {field : String} {v w x y : List Char}
    (h : fieldLine field v ++ x = fieldLine field w ++ y) : v ++ x = w ++ y := by
  rw [fieldLine_append, fieldLine_append] at h
  exact List.append_cancel_left h

theorem stepJson_append (step : Step) (x : List Char) :
    stepJson step ++ x = "  \x7b\n".toList
      ++ (fieldLine "step" (Decimal.natural step.number) ++ ([',', '\n']
        ++ (fieldLine "action" (JsonString.encode step.action.text.toList) ++ ([',', '\n']
          ++ (fieldLine "subject" (JsonString.encode step.subject.toList) ++ ([',', '\n']
            ++ (fieldLine "detail" (JsonString.encode step.detail.toList)
              ++ ("\n  \x7d".toList ++ x)))))))) := by
  -- Lean is slow to derive an equation of `stepJson`, so it is opened by `show`.
  show _ ++ List.intercalate _ _ ++ _ ++ x = _
  simp only [List.intercalate_cons_cons, List.intercalate_singleton, List.append_assoc]

/-- The fields of a step are told apart one after the other. -/
theorem selfDelimiting_stepJson : SelfDelimiting stepJson := by
  rintro ⟨⟨action, subject, detail⟩, number⟩ ⟨⟨action', subject', detail'⟩, number'⟩ x y h
  have hcomma : ','.isDigit = false := by decide
  rw [stepJson_append, stepJson_append] at h
  obtain ⟨hnumber, hactions⟩ := append_stop_inj (Decimal.not_mem_natural hcomma number)
    (Decimal.not_mem_natural hcomma number') (fieldLine_append_inj (List.append_cancel_left h))
  obtain ⟨haction, hsubjects⟩ := JsonString.selfDelimiting_encode _ _ _ _
    (fieldLine_append_inj (List.cons.inj hactions).2)
  obtain ⟨hsubject, hdetails⟩ := JsonString.selfDelimiting_encode _ _ _ _
    (fieldLine_append_inj (List.append_cancel_left hsubjects))
  obtain ⟨hdetail, hends⟩ := JsonString.selfDelimiting_encode _ _ _ _
    (fieldLine_append_inj (List.append_cancel_left hdetails))
  obtain rfl : number = number' := Decimal.natural_inj.1 hnumber
  obtain rfl : action = action' := Action.text_inj.1 (String.toList_inj.1 haction)
  obtain rfl : subject = subject' := String.toList_inj.1 hsubject
  obtain rfl : detail = detail' := String.toList_inj.1 hdetail
  exact ⟨rfl, List.append_cancel_left hends⟩

/-! ## Lists of steps -/

/-- What stands behind the first step of a list, up to the line break in front of the closing
bracket. -/
def behindFirst (others : List Step) : List Char :=
  others.flatMap (fun step => [',', '\n'] ++ stepJson step) ++ ['\n']

theorem jsonChars_cons (first : Step) (others : List Step) :
    jsonChars (first :: others)
      = ['[', '\n'] ++ (stepJson first ++ (behindFirst others ++ [']'])) := by
  show ['[', '\n'] ++ List.intercalate [',', '\n'] ((first :: others).map stepJson)
    ++ ['\n', ']'] = _
  rw [List.map_cons, Listing.intercalate_cons, List.flatMap_map]
  simp [behindFirst]

/-- In a row of steps another step begins with a comma, and the end with a line break. -/
theorem selfDelimiting_behindFirst : SelfDelimiting behindFirst := by
  intro first second
  refine .flatMap (fun step => ⟨',', _, rfl, by decide⟩) ?_
  intro a _ b _ x y h
  exact selfDelimiting_stepJson a b x y (List.cons.inj (List.cons.inj h).2).2

/-- The empty list is closed where another one goes on to a new line. -/
theorem jsonChars_nil_append_ne (first : Step) (others : List Step) (x y : List Char) :
    jsonChars [] ++ x ≠ jsonChars (first :: others) ++ y := by
  rw [jsonChars_cons]
  intro h
  exact absurd (List.cons.inj (List.cons.inj h).2).1 (by decide)

theorem selfDelimiting_jsonChars : SelfDelimiting jsonChars := by
  intro steps steps'
  refine .of_cons jsonChars_cons jsonChars_nil_append_ne ?_ (selfDelimiting_behindFirst _ _)
  intro a _ b _
  exact selfDelimiting_stepJson a b

/-- **A trace can be taken back from its JSON text.** Two lists of steps have the same text just
if they are the same list, whatever the subjects and the details of the steps are. -/
theorem json_eq_iff {steps steps' : List Step} : json steps = json steps' ↔ steps = steps' := by
  constructor
  · intro h
    have hchars : jsonChars steps = jsonChars steps' := String.ofList_inj.1 h
    exact (selfDelimiting_jsonChars steps steps').eq_of_write_eq hchars
  · rintro rfl
    rfl

end Trace

end KernelTyping
