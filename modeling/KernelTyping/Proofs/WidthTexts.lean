import KernelTyping.Proofs.ConfigLanguage

set_option autoImplicit false

/-! # The width given as a number and in a text

A width is given as a number of bits or as the value of the one field of an object. The reader of
the object has three things to judge, and does so in this order: whether the value fits 32 bits, as
soon as it has been read (`readWidth_widthText`); whether a pointer can be so wide, behind the
closing brace (`read_of_unsupported`); and what stands behind the object (`read_of_supported`). So
a fault of the value hides all that could be wrong with the text behind it, and a width has the
same answer in both ways of giving it (`ofJson_widthText`).
-/

namespace KernelTyping

namespace ConfigText

/-- An object that gives an integer as the width, with some text behind it. -/
def widthText (value : Int) (tail : String) : String :=
  "\x7b\"" ++ pointerWidthField ++ "\":" ++ String.ofList (Decimal.integer value) ++ "\x7d" ++ tail

/-! ## Reading the width -/

/-- Tokens may stand without blanks between them. -/
theorem spaced_flatten (tokens : List (List Char)) (rest : List Char) :
    Spaced tokens (tokens.flatten ++ rest) rest := by
  induction tokens with
  | nil => exact .nil
  | cons token tokens ih =>
      have hnone : Blank [] := fun _ hc => absurd hc List.not_mem_nil
      rw [List.flatten_cons, List.append_assoc]
      exact .cons hnone ih

/-- The name of the field between quotes, without escapes. -/
def plainKey : List Char := '"' :: (pointerWidthField.toList ++ ['"'])

theorem fieldKey_plainKey : FieldKey plainKey := by
  refine ⟨pointerWidthField.toList, rfl, JsonString.spells_self ?_⟩
  simp [pointerWidthField, JsonString.isControl]

theorem toList_widthText (value : Int) (tail : String) :
    (widthText value tail).toList =
      [['{'], plainKey, [':'], Decimal.integer value, ['}']].flatten ++ tail.toList := by
  simp [widthText, plainKey]

/-- An integer that fits a word is judged by whether it fits 32 bits, and the object is read to
its end if it does. -/
theorem readWidth_widthText {value : Int} (hlow : -2 ^ 63 ≤ value) (hhigh : value < 2 ^ 64)
    (tail : String) :
    readWidth (widthText value tail).toList =
      if 0 ≤ value ∧ value < UInt32.size then .ok (value.toNat, tail.toList)
      else .error (.content (.outOfRange value)) := by
  rw [toList_widthText]
  obtain ⟨s₁, hopen, hs⟩ := spaced_cons_iff.1 (spaced_flatten _ tail.toList)
  obtain ⟨s₂, hkey, hs⟩ := spaced_cons_iff.1 hs
  obtain ⟨s₃, hcolon, hs⟩ := spaced_cons_iff.1 hs
  obtain ⟨s₄, hnumeral, hclose⟩ := spaced_cons_iff.1 hs
  have hbits := readBits_of_spaced hlow hhigh hnumeral (endsInteger_of_spaced (.inl rfl) hclose)
  have hend : readObjectEnd s₄ = .ok tail.toList := readObjectEnd_eq_ok_iff.2 hclose
  rw [readWidth_of_brace hopen,
    readObject_of_spaced fieldKey_plainKey (spaced_cons_iff.2 ⟨s₂, hkey, hcolon⟩), hbits]
  split
  case isTrue => simp only [bind, Except.bind, hend, pure, Except.pure]
  case isFalse => rfl

/-! ## Behind the width -/

variable {s rest : List Char} {bits : Nat}

theorem read_of_error {e : ConfigError} (h : readWidth s = .error e) : read s = .error e := by
  rw [read, h]
  rfl

/-- An unsupported width is a fault whatever stands behind the object or list. -/
theorem read_of_unsupported (h : readWidth s = .ok (bits, rest)) {e : ConfigError}
    (hbits : EngineConfig.ofPointerBits bits = .error e) :
    read s = .error (.content (.unsupportedPointerWidth bits)) := by
  have hjudged : judgeBits bits = .error (.content (.unsupportedPointerWidth bits)) := by
    simp only [judgeBits, hbits]
  simp only [read, h, bind, Except.bind, hjudged]

/-- Behind a supported width only blanks are taken. -/
theorem read_of_supported (h : readWidth s = .ok (bits, rest)) {config : EngineConfig}
    (hbits : EngineConfig.ofPointerBits bits = .ok config) :
    (Blank rest → read s = .ok config) ∧ (¬ Blank rest → read s = .error .notJson) := by
  have hjudged : judgeBits bits = .ok config := judgeBits_eq_ok_iff.2 hbits
  rw [← skipBlanks_eq_nil_iff]
  simp only [read, h, bind, Except.bind, hjudged]
  split
  case h_1 hskip => exact ⟨fun _ => rfl, fun hne => absurd hskip hne⟩
  case h_2 hskip => exact ⟨fun hnil => absurd hnil hskip, fun _ => rfl⟩

end ConfigText

theorem EngineConfig.eq_of_ofPointerBits_eq_error {bits : Nat} {e : ConfigError}
    (h : ofPointerBits bits = .error e) : e = .unsupportedPointerWidth bits := by
  unfold ofPointerBits at h
  split at h <;> cases h
  rfl

theorem ConfigFault.text_outOfRange (value : Int) :
    (ConfigFault.outOfRange value).text =
      "invalid value: integer `" ++ String.ofList (Decimal.integer value) ++ "`, expected u32" := by
  generalize hnumeral : String.ofList (Decimal.integer value) = numeral
  calc (ConfigFault.outOfRange value).text
      = "invalid value: " ++ ("integer `" ++ numeral ++ "`") ++ ", expected " ++ "u32" := by
        rw [← hnumeral]
        rfl
    _ = "invalid value: integer `" ++ numeral ++ "`, expected u32" := by
        rw [← String.toList_inj]
        simp

open ConfigText in
/-- **A width has the same answer as a number and in a text, and a text is judged from the
left.** A number of bits that is no width of a pointer is a fault of the text with the message it
has as a number, whatever stands behind the object. For a width of a pointer the text has the same
configuration, if nothing but blanks stand behind the object; otherwise it is no JSON text. Any
other integer that fits a word is out of range, whatever stands behind the object. -/
theorem EngineConfig.ofJson_widthText (tail : String) :
    (∀ bits : UInt32,
      match ofPointerBits bits.toNat with
      | .ok config =>
        (Blank tail.toList → ofJson (widthText bits.toNat tail) = .ok config)
          ∧ (¬ Blank tail.toList → ofJson (widthText bits.toNat tail) = .error .notJson)
      | .error e =>
        ofJson (widthText bits.toNat tail)
            = .error (.content (.unsupportedPointerWidth bits.toNat))
          ∧ (ConfigFault.unsupportedPointerWidth bits.toNat).text = e.message
          ∧ e.message = "unsupported pointer width " ++ String.ofList (Decimal.natural bits.toNat)
            ++ "; expected 32 or 64")
    ∧ ∀ value : Int, (-2 ^ 63 ≤ value ∧ value < 0) ∨ (2 ^ 32 ≤ value ∧ value < 2 ^ 64) →
        ofJson (widthText value tail) = .error (.content (.outOfRange value))
          ∧ (ConfigFault.outOfRange value).text =
            "invalid value: integer `" ++ String.ofList (Decimal.integer value)
              ++ "`, expected u32" := by
  have hsize : UInt32.size = 2 ^ 32 := rfl
  constructor
  · intro bits
    have hfits : bits.toNat < 2 ^ 32 := bits.toNat_lt
    have hread : readWidth (widthText bits.toNat tail).toList = .ok (bits.toNat, tail.toList) := by
      rw [readWidth_widthText (by omega) (by omega), if_pos (by omega)]
      rfl
    split
    case h_1 config hbits => exact read_of_supported hread hbits
    case h_2 e hbits =>
      obtain rfl := eq_of_ofPointerBits_eq_error hbits
      exact ⟨read_of_unsupported hread hbits, rfl, rfl⟩
  · intro value hvalue
    have hread : readWidth (widthText value tail).toList =
        .error (.content (.outOfRange value)) := by
      rw [readWidth_widthText (by omega) (by omega), if_neg (by omega)]
    exact ⟨read_of_error hread, ConfigFault.text_outOfRange value⟩

end KernelTyping
