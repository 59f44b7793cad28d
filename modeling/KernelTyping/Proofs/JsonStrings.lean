import KernelTyping.Text.JsonString

set_option autoImplicit false

/-! # Spellings of a string in JSON text

A string can be spelt in many ways between its quotes: a character stands for itself, behind a
backslash as one letter, or as one or two code units in hexadecimal digits (`Spells`). Reading
accepts just the spellings that end at a quote, and gives what they spell
(`decodeBody_eq_some_iff`).
-/

namespace KernelTyping.JsonString

/-- Whether a text between quotes spells these characters. A code unit of a surrogate pair means
nothing without the other one. -/
inductive Spells : List Char → List Char → Prop
  | nil : Spells [] []
  | plain {c : Char} {text chars : List Char} (hquote : c ≠ '"') (hbackslash : c ≠ '\\')
      (hcontrol : isControl c = false) (h : Spells text chars) : Spells (c :: text) (c :: chars)
  | short {letter meaning : Char} {text chars : List Char}
      (hmeaning : shortMeaning? letter = some meaning) (h : Spells text chars) :
      Spells ('\\' :: letter :: text) (meaning :: chars)
  | unit {d₁ d₂ d₃ d₄ : Char} {unit : Nat} {text chars : List Char}
      (hunit : hexUnit? d₁ d₂ d₃ d₄ = some unit) (hleading : isLeading unit = false)
      (htrailing : isTrailing unit = false) (h : Spells text chars) :
      Spells ('\\' :: 'u' :: d₁ :: d₂ :: d₃ :: d₄ :: text) (Char.ofNat unit :: chars)
  | pair {d₁ d₂ d₃ d₄ e₁ e₂ e₃ e₄ : Char} {first second : Nat} {text chars : List Char}
      (hfirst : hexUnit? d₁ d₂ d₃ d₄ = some first) (hleading : isLeading first = true)
      (hsecond : hexUnit? e₁ e₂ e₃ e₄ = some second) (htrailing : isTrailing second = true)
      (h : Spells text chars) :
      Spells
        ('\\' :: 'u' :: d₁ :: d₂ :: d₃ :: d₄ :: '\\' :: 'u' :: e₁ :: e₂ :: e₃ :: e₄ :: text)
        (pairChar first second :: chars)

/-! ## Reading what is spelt -/

theorem isTrailing_of_isLeading {unit : Nat} (h : isLeading unit = true) :
    isTrailing unit = false := by
  simp only [isLeading, isTrailing, Bool.and_eq_true, decide_eq_true_eq, Bool.and_eq_false_iff,
    decide_eq_false_iff_not] at h ⊢
  omega

theorem decodeBody_pair {d₁ d₂ d₃ d₄ e₁ e₂ e₃ e₄ : Char} {first second : Nat}
    (hfirst : hexUnit? d₁ d₂ d₃ d₄ = some first) (hleading : isLeading first = true)
    (hsecond : hexUnit? e₁ e₂ e₃ e₄ = some second) (htrailing : isTrailing second = true)
    (rest : List Char) :
    decodeBody
        ('\\' :: 'u' :: d₁ :: d₂ :: d₃ :: d₄ :: '\\' :: 'u' :: e₁ :: e₂ :: e₃ :: e₄ :: rest)
      = (decodeBody rest).map (consChar (pairChar first second)) := by
  rw [decodeBody.eq_def]
  simp [hfirst, hleading, isTrailing_of_isLeading hleading, hsecond, htrailing]

theorem map_consChar_eq_some_iff {read : Option (List Char × List Char)} {c : Char}
    {chars rest : List Char} :
    read.map (consChar c) = some (chars, rest) ↔
      ∃ behind, read = some (behind, rest) ∧ chars = c :: behind := by
  rcases read with _ | ⟨behind, rest'⟩
  · simp
  · constructor
    · intro h
      obtain ⟨rfl, rfl⟩ := Prod.mk.inj (Option.some.inj h)
      exact ⟨behind, rfl, rfl⟩
    · rintro ⟨behind, hread, rfl⟩
      cases hread
      rfl

theorem ne_u_of_shortMeaning? {letter meaning : Char} (h : shortMeaning? letter = some meaning) :
    letter ≠ 'u' := by
  have hu : shortMeaning? 'u' = none := by decide
  rintro rfl
  rw [hu] at h
  cases h

theorem decodeBody_of_spells {text chars : List Char} (h : Spells text chars) (rest : List Char) :
    decodeBody (text ++ '"' :: rest) = some (chars, rest) := by
  induction h with
  | nil => exact decodeBody_quote rest
  | plain hquote hbackslash hcontrol _ ih =>
      rw [List.cons_append, decodeBody_plain hquote hbackslash hcontrol, ih]
      rfl
  | short hmeaning _ ih =>
      rw [List.cons_append, List.cons_append,
        decodeBody_short (ne_u_of_shortMeaning? hmeaning) hmeaning, ih]
      rfl
  | unit hunit hleading htrailing _ ih =>
      simp only [List.cons_append]
      rw [decodeBody_unit hunit hleading htrailing, ih]
      rfl
  | pair hfirst hleading hsecond htrailing _ ih =>
      simp only [List.cons_append]
      rw [decodeBody_pair hfirst hleading hsecond htrailing, ih]
      rfl

theorem exists_spells_of_decodeBody {s chars rest : List Char}
    (h : decodeBody s = some (chars, rest)) :
    ∃ text, Spells text chars ∧ s = text ++ '"' :: rest := by
  -- Reading goes on in five cases only, one for each way to spell and one for the end.
  fun_induction decodeBody s generalizing chars rest with
  | case2 behind =>
      cases h
      exact ⟨[], .nil, rfl⟩
  | case7 _ _ _ _ first hfirst _ hleading _ _ _ _ _ _ behind hescape second hsecond htrailing _
      ih =>
      obtain ⟨read, hread, rfl⟩ := map_consChar_eq_some_iff.1 h
      obtain ⟨text, htext, rfl⟩ := ih hread
      obtain ⟨rfl, rfl⟩ := hescape
      exact ⟨_, .pair hfirst hleading hsecond htrailing htext, rfl⟩
  | case11 _ _ _ _ behind unit hunit htrailing hleading _ ih =>
      obtain ⟨read, hread, rfl⟩ := map_consChar_eq_some_iff.1 h
      obtain ⟨text, htext, rfl⟩ := ih hread
      have hplain := Bool.eq_false_iff.2 hleading
      exact ⟨_, .unit hunit hplain (Bool.eq_false_iff.2 htrailing) htext, rfl⟩
  | case14 letter behind _ meaning hmeaning _ ih =>
      obtain ⟨read, hread, rfl⟩ := map_consChar_eq_some_iff.1 h
      obtain ⟨text, htext, rfl⟩ := ih hread
      exact ⟨_, .short hmeaning htext, rfl⟩
  | case16 c behind hquote hbackslash hcontrol ih =>
      obtain ⟨read, hread, rfl⟩ := map_consChar_eq_some_iff.1 h
      obtain ⟨text, htext, rfl⟩ := ih hread
      exact ⟨_, .plain hquote hbackslash (Bool.eq_false_iff.2 hcontrol) htext, rfl⟩
  | _ => cases h

/-- A string is read just if it is spelt up to a quote, and then as what is spelt. -/
theorem decodeBody_eq_some_iff {s chars rest : List Char} :
    decodeBody s = some (chars, rest) ↔ ∃ text, Spells text chars ∧ s = text ++ '"' :: rest := by
  constructor
  · exact exists_spells_of_decodeBody
  · rintro ⟨text, htext, rfl⟩
    exact decodeBody_of_spells htext rest

/-- Characters that need no escape spell themselves. -/
theorem spells_self {s : List Char}
    (h : ∀ c ∈ s, c ≠ '"' ∧ c ≠ '\\' ∧ isControl c = false) : Spells s s := by
  induction s with
  | nil => exact .nil
  | cons c rest ih =>
      obtain ⟨⟨hquote, hbackslash, hcontrol⟩, hrest⟩ := List.forall_mem_cons.1 h
      exact .plain hquote hbackslash hcontrol (ih hrest)

end KernelTyping.JsonString
