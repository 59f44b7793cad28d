set_option autoImplicit false

/-! # Strings in JSON text

`encode` writes a string as a JSON string, with no more escapes than JSON demands; `decode`
reads any JSON string, in whatever way its characters are escaped. `decodeBody_encodeChar` and
`decode_encode` say that reading gives back what was written. -/

namespace KernelTyping.JsonString

/-- The characters that are written as a backslash and one letter, with that letter. -/
def shortForms : List (Char × Char) :=
  [('"', '"'), ('\\', '\\'), ('\x08', 'b'), ('\x0c', 'f'), ('\n', 'n'), ('\r', 'r'), ('\t', 't')]

/-- Whether a character is a control character, which JSON does not allow as itself. -/
def isControl (c : Char) : Bool := c.toNat < 0x20

/-! ## Writing -/

/-- The two hexadecimal digits of a number below 256. -/
def hexPair (n : Nat) : List Char := [Nat.digitChar (n / 16), Nat.digitChar (n % 16)]

/-- The written form of one character. -/
def encodeChar (c : Char) : List Char :=
  match shortForms.lookup c with
  | some letter => ['\\', letter]
  | none => if isControl c then ['\\', 'u', '0', '0'] ++ hexPair c.toNat else [c]

/-- The written form of a string, with the quotes around it. -/
def encode (s : List Char) : List Char := '"' :: (s.flatMap encodeChar ++ ['"'])

/-! ## Reading -/

/-- The character that a letter behind a backslash stands for; a slash stands for itself. -/
def shortMeaning? (letter : Char) : Option Char :=
  if letter = '/' then some '/'
  else (shortForms.find? fun form => form.2 = letter).map Prod.fst

/-- The value of a hexadecimal digit of either case. -/
def hexValue? (c : Char) : Option Nat :=
  if '0' ≤ c ∧ c ≤ '9' then some (c.toNat - '0'.toNat)
  else if 'a' ≤ c ∧ c ≤ 'f' then some (c.toNat - 'a'.toNat + 10)
  else if 'A' ≤ c ∧ c ≤ 'F' then some (c.toNat - 'A'.toNat + 10)
  else none

/-- The value of four hexadecimal digits. -/
def hexUnit? (a b c d : Char) : Option Nat := do
  let a ← hexValue? a
  let b ← hexValue? b
  let c ← hexValue? c
  let d ← hexValue? d
  return ((a * 16 + b) * 16 + c) * 16 + d

/-- Whether a code unit is the first half of a surrogate pair. -/
def isLeading (unit : Nat) : Bool := 0xD800 ≤ unit && unit ≤ 0xDBFF

/-- Whether a code unit is the second half of a surrogate pair. -/
def isTrailing (unit : Nat) : Bool := 0xDC00 ≤ unit && unit ≤ 0xDFFF

/-- The character of a surrogate pair. -/
def pairChar (leading trailing : Nat) : Char :=
  Char.ofNat ((leading - 0xD800) * 0x400 + (trailing - 0xDC00) + 0x10000)

/-- Puts a character in front of what was read. -/
def consChar (c : Char) (read : List Char × List Char) : List Char × List Char :=
  (c :: read.1, read.2)

/-- Reads the characters of a string up to the closing quote and gives what stands behind it.
There is nothing to give if the string does not end, holds a bare control character, or has an
escape that means no character; a surrogate means one only together with its other half. -/
def decodeBody : List Char → Option (List Char × List Char)
  | [] => none
  | c :: rest =>
    if c = '"' then some ([], rest)
    else if c = '\\' then
      match rest with
      | [] => none
      | letter :: rest =>
        -- a code unit in four hexadecimal digits, or a letter with a meaning of its own
        if letter = 'u' then
          match rest with
          | d₁ :: d₂ :: d₃ :: d₄ :: rest =>
            match hexUnit? d₁ d₂ d₃ d₄ with
            | none => none
            | some unit =>
              if isTrailing unit then none
              else if isLeading unit then
                -- the other half has to stand right behind
                match rest with
                | backslash :: u :: e₁ :: e₂ :: e₃ :: e₄ :: rest =>
                  if backslash = '\\' ∧ u = 'u' then
                    match hexUnit? e₁ e₂ e₃ e₄ with
                    | none => none
                    | some second =>
                      if isTrailing second then
                        (decodeBody rest).map (consChar (pairChar unit second))
                      else none
                  else none
                | _ => none
              else (decodeBody rest).map (consChar (Char.ofNat unit))
          | _ => none
        else
          match shortMeaning? letter with
          | none => none
          | some meaning => (decodeBody rest).map (consChar meaning)
    else if isControl c then none
    else (decodeBody rest).map (consChar c)

/-- Reads a JSON string and gives what stands behind it. -/
def decode : List Char → Option (List Char × List Char)
  | '"' :: rest => decodeBody rest
  | _ => none

/-! ## Reading what was written -/

theorem decodeBody_quote (rest : List Char) : decodeBody ('"' :: rest) = some ([], rest) := by
  rw [decodeBody.eq_def]
  rfl

theorem decodeBody_short {letter meaning : Char} (hletter : letter ≠ 'u')
    (hmeaning : shortMeaning? letter = some meaning) (rest : List Char) :
    decodeBody ('\\' :: letter :: rest) = (decodeBody rest).map (consChar meaning) := by
  rw [decodeBody.eq_def]
  simp [hletter, hmeaning]

theorem decodeBody_unit {d₁ d₂ d₃ d₄ : Char} {unit : Nat}
    (hunit : hexUnit? d₁ d₂ d₃ d₄ = some unit) (hleading : isLeading unit = false)
    (htrailing : isTrailing unit = false) (rest : List Char) :
    decodeBody ('\\' :: 'u' :: d₁ :: d₂ :: d₃ :: d₄ :: rest) =
      (decodeBody rest).map (consChar (Char.ofNat unit)) := by
  rw [decodeBody.eq_def]
  simp [hunit, hleading, htrailing]

theorem decodeBody_plain {c : Char} (hquote : c ≠ '"') (hbackslash : c ≠ '\\')
    (hcontrol : isControl c = false) (rest : List Char) :
    decodeBody (c :: rest) = (decodeBody rest).map (consChar c) := by
  rw [decodeBody.eq_def]
  simp [hquote, hbackslash, hcontrol]

theorem hexUnit?_hexPair (n : Nat) (h : n < 0x20) :
    hexUnit? '0' '0' (Nat.digitChar (n / 16)) (Nat.digitChar (n % 16)) = some n := by
  revert n
  decide

theorem shortMeaning?_of_mem {c letter : Char} (h : (c, letter) ∈ shortForms) :
    letter ≠ 'u' ∧ shortMeaning? letter = some c := by
  have all : ∀ form ∈ shortForms, form.2 ≠ 'u' ∧ shortMeaning? form.2 = some form.1 := by decide
  exact all _ h

theorem decodeBody_encodeChar (c : Char) (rest : List Char) :
    decodeBody (encodeChar c ++ rest) = (decodeBody rest).map (consChar c) := by
  unfold encodeChar
  split
  case h_1 letter hlookup =>
    obtain ⟨before, after, hforms, _⟩ := List.lookup_eq_some_iff.1 hlookup
    have hmem : (c, letter) ∈ shortForms := hforms ▸ by simp
    obtain ⟨hletter, hmeaning⟩ := shortMeaning?_of_mem hmem
    exact decodeBody_short hletter hmeaning rest
  case h_2 hlookup =>
    split
    case isTrue hcontrol =>
      have hlow : c.toNat < 0x20 := by simpa [isControl] using hcontrol
      have hunit := decodeBody_unit (hexUnit?_hexPair c.toNat hlow)
        (by simp [isLeading]; omega) (by simp [isTrailing]; omega) rest
      rw [Char.ofNat_toNat] at hunit
      exact hunit
    case isFalse hcontrol =>
      have hquote : c ≠ '"' := by rintro rfl; exact absurd hlookup (by decide)
      have hbackslash : c ≠ '\\' := by rintro rfl; exact absurd hlookup (by decide)
      exact decodeBody_plain hquote hbackslash (by simpa using hcontrol) rest

/-- Reading a written string gives it back, whatever stands behind it. -/
theorem decode_encode (s rest : List Char) : decode (encode s ++ rest) = some (s, rest) := by
  have body : decodeBody (s.flatMap encodeChar ++ '"' :: rest) = some (s, rest) := by
    induction s with
    | nil => exact decodeBody_quote rest
    | cons c s ih =>
      rw [List.flatMap_cons, List.append_assoc, decodeBody_encodeChar, ih]
      rfl
  simpa [encode, decode] using body

end KernelTyping.JsonString
