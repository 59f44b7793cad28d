import KernelTyping.Config.Reader
import KernelTyping.Proofs.JsonNumerals
import KernelTyping.Proofs.JsonStrings
import Mathlib.Data.List.TakeWhile

set_option autoImplicit false

/-! # The language of configuration texts

A configuration text is a row of tokens with any blanks in front of each and behind the last
(`Spaced`). There are four such rows: an object or a list, with the width in it or with nothing.
Each step of the reader succeeds just on a beginning of such a row, and leaves what stands behind
it (`readObject_eq_ok_iff` and its neighbours), so the texts with a configuration are just those of
the four forms (`ofJson_eq_ok_iff`).
-/

namespace KernelTyping

open JsonNumber (EndsInteger)
open JsonString (Spells)

theorem bind_eq_ok_iff {ε α β : Type} {x : Except ε α} {f : α → Except ε β} {b : β} :
    (x >>= f) = .ok b ↔ ∃ a, x = .ok a ∧ f a = .ok b := by
  constructor
  · intro h
    cases x with
    | error e => cases h
    | ok a => exact ⟨a, rfl, h⟩
  · rintro ⟨a, rfl, h⟩
    exact h

namespace ConfigText

/-! ## Tokens and the blanks in front of them -/

/-- Whether all characters of a text are blank. -/
def Blank (s : List Char) : Prop := ∀ c ∈ s, isBlank c = true

/-- Whether a text begins with these tokens, each behind any number of blanks, and goes on as
given. -/
inductive Spaced : List (List Char) → List Char → List Char → Prop
  | nil {s : List Char} : Spaced [] s s
  | cons {blanks token s rest : List Char} {tokens : List (List Char)} (hblanks : Blank blanks)
      (h : Spaced tokens s rest) : Spaced (token :: tokens) (blanks ++ (token ++ s)) rest

theorem spaced_cons_iff {token s rest : List Char} {tokens : List (List Char)} :
    Spaced (token :: tokens) s rest ↔
      ∃ behind, Spaced [token] s behind ∧ Spaced tokens behind rest := by
  constructor
  · intro h
    cases h with
    | cons hblanks h => exact ⟨_, .cons hblanks .nil, h⟩
  · rintro ⟨behind, hfirst, h⟩
    cases hfirst with
    | cons hblanks hnil =>
        cases hnil
        exact .cons hblanks h

/-- Skipping blanks ends at a token, if no token begins with a blank. -/
theorem skipBlanks_eq_iff {c : Char} (hc : isBlank c = false) {s token rest : List Char} :
    skipBlanks s = c :: token ++ rest ↔ Spaced [c :: token] s rest := by
  constructor
  · intro h
    have hs : s = s.takeWhile isBlank ++ (c :: token ++ rest) := by
      rw [← h, skipBlanks, List.takeWhile_append_dropWhile]
    rw [hs]
    exact .cons (fun d hd => List.mem_takeWhile_imp hd) .nil
  · intro h
    cases h with
    | @cons blanks _ _ _ _ hblanks hnil =>
        cases hnil
        rw [skipBlanks, List.dropWhile_append_of_pos hblanks, List.cons_append,
          List.dropWhile_cons_of_neg (by simp [hc])]

theorem skipBlanks_eq_nil_iff {s : List Char} : skipBlanks s = [] ↔ Blank s := by
  rw [skipBlanks, List.dropWhile_eq_nil_iff]
  rfl

/-! ## Steps of the reader -/

/-- Whether a token is a JSON string that spells the name of the field. -/
def FieldKey (token : List Char) : Prop :=
  ∃ text, token = '"' :: (text ++ ['"']) ∧ Spells text pointerWidthField.toList

theorem readFieldName_eq_ok_iff {s rest : List Char} :
    readFieldName s = .ok rest ↔
      ∃ text, Spells text pointerWidthField.toList ∧ s = text ++ '"' :: rest := by
  rw [← JsonString.decodeBody_eq_some_iff, readFieldName, bind_eq_ok_iff]
  simp only [readString]
  constructor
  · rintro ⟨⟨name, behind⟩, hname, hjudged⟩
    split at hname
    case h_2 => cases hname
    case h_1 chars _ hchars =>
      cases hname
      split at hjudged
      case isFalse => cases hjudged
      case isTrue hfield =>
        cases hjudged
        rw [hchars, ← hfield, String.toList_ofList]
  · intro h
    refine ⟨(pointerWidthField, rest), ?_, ?_⟩
    · simp [h]
    · rfl

theorem readColon_eq_ok_iff {s rest : List Char} :
    readColon s = .ok rest ↔ Spaced [[':']] s rest := by
  rw [← skipBlanks_eq_iff (by decide), readColon]
  split
  case h_1 behind hskip => simp [hskip]
  case h_2 hskip =>
    simp only [reduceCtorEq, false_iff]
    exact hskip rest

/-- A value is read as an integer just if it is read as a number that is one. -/
theorem readValue_eq_integer_iff {s rest : List Char} {v : Int} :
    readValue s = .ok (.integer v, rest) ↔ JsonNumber.read s = some (.integer v, rest) := by
  constructor
  · intro h
    unfold readValue at h
    split at h
    case h_1 => cases h
    case h_2 c behind =>
      split at h
      case isTrue => cases hstring : readString behind <;> simp [hstring, Except.map] at h
      case isFalse =>
        iterate 2
          split at h
          · cases h
        split at h
        case isTrue =>
          unfold readNumber at h
          split at h
          · rename_i hread
            cases h
            exact hread
          · cases h
          · cases h
        case isFalse => split at h <;> cases h
  · intro h
    obtain ⟨-, -, rfl, -⟩ := JsonNumber.read_eq_integer_iff.1 h
    obtain ⟨c, digits, hinteger, hc⟩ := Decimal.exists_integer_eq_cons v
    have hplain : c ≠ '"' ∧ c ≠ '[' ∧ c ≠ '{' := by
      refine ⟨?_, ?_, ?_⟩ <;> rintro rfl <;> exact absurd hc (by decide)
    rw [hinteger, List.cons_append] at h ⊢
    simp only [readValue, hplain, hc, if_true, if_false, readNumber, h]

theorem skipBlanks_skipBlanks (s : List Char) : skipBlanks (skipBlanks s) = skipBlanks s := by
  have hblank : Blank (s.takeWhile isBlank) := fun _ hc => List.mem_takeWhile_imp hc
  calc skipBlanks (skipBlanks s)
      = skipBlanks (s.takeWhile isBlank ++ skipBlanks s) :=
        (List.dropWhile_append_of_pos hblank).symm
    _ = skipBlanks s := congrArg skipBlanks List.takeWhile_append_dropWhile

theorem readBits_skipBlanks (s : List Char) : readBits (skipBlanks s) = readBits s := by
  rw [readBits, readBits, skipBlanks_skipBlanks]

theorem isBlank_of_isDigit {c : Char} (h : c = '-' ∨ c.isDigit = true) : isBlank c = false := by
  simp only [isBlank, Bool.or_eq_false_iff, decide_eq_false_iff_not]
  refine ⟨⟨⟨?_, ?_⟩, ?_⟩, ?_⟩ <;> rintro rfl <;> exact absurd h (by decide)

theorem skipBlanks_eq_integer_iff {s rest : List Char} {v : Int} :
    skipBlanks s = Decimal.integer v ++ rest ↔ Spaced [Decimal.integer v] s rest := by
  obtain ⟨c, digits, hinteger, hc⟩ := Decimal.exists_integer_eq_cons v
  rw [hinteger, skipBlanks_eq_iff (isBlank_of_isDigit hc)]

/-- An integer in place of the width is judged by its range. -/
theorem readBits_of_spaced {s rest : List Char} {v : Int} (hlow : -2 ^ 63 ≤ v) (hhigh : v < 2 ^ 64)
    (hs : Spaced [Decimal.integer v] s rest) (hend : EndsInteger rest) :
    readBits s =
      if 0 ≤ v ∧ v < UInt32.size then .ok (v.toNat, rest)
      else .error (.content (.outOfRange v)) := by
  have hvalue : readValue (skipBlanks s) = .ok (.integer v, rest) := by
    rw [readValue_eq_integer_iff, JsonNumber.read_eq_integer_iff]
    exact ⟨hlow, hhigh, skipBlanks_eq_integer_iff.2 hs, hend⟩
  rw [readBits, hvalue]
  rfl

/-- The width is read just if it is a numeral that 32 bits can hold, and ends there. -/
theorem readBits_eq_ok_iff {s rest : List Char} {bits : Nat} :
    readBits s = .ok (bits, rest) ↔
      bits < UInt32.size ∧ Spaced [Decimal.natural bits] s rest ∧ EndsInteger rest := by
  constructor
  · intro h
    obtain ⟨⟨found, behind⟩, hvalue, hjudged⟩ := bind_eq_ok_iff.1 h
    cases found with
    | integer v =>
        obtain ⟨-, -, hskip, hend⟩ :=
          JsonNumber.read_eq_integer_iff.1 (readValue_eq_integer_iff.1 hvalue)
        simp only at hjudged
        split at hjudged
        case isFalse => cases hjudged
        case isTrue hrange =>
          cases hjudged
          obtain ⟨hpos, hsize⟩ := hrange
          obtain ⟨n, rfl⟩ := Int.eq_ofNat_of_zero_le hpos
          exact ⟨Int.ofNat_lt.1 hsize, skipBlanks_eq_integer_iff.1 hskip, hend⟩
    | _ => cases hjudged
  · rintro ⟨hbits, hs, hend⟩
    have hsize : UInt32.size = 4294967296 := rfl
    have hrange : (0 : Int) ≤ bits ∧ (bits : Int) < UInt32.size := by omega
    rw [readBits_of_spaced (v := bits) (by omega) (by omega) hs hend, if_pos hrange]
    rfl

/-- A second field is never taken. -/
theorem readObjectEnd_eq_ok_iff {s rest : List Char} :
    readObjectEnd s = .ok rest ↔ Spaced [['}']] s rest := by
  rw [← skipBlanks_eq_iff (by decide), readObjectEnd]
  split
  case h_1 behind hskip => simp [hskip]
  case h_2 behind hskip =>
    have hclose : skipBlanks s ≠ ['}'] ++ rest := by simp [hskip]
    simp only [hclose, iff_false]
    split
    · intro h
      obtain ⟨_, -, hthrown⟩ := bind_eq_ok_iff.1 h
      cases hthrown
    · simp
  case h_3 hclose _ =>
    simp only [reduceCtorEq, false_iff]
    exact hclose rest

/-- A numeral can end in front of a closing bracket, and in front of blanks. -/
theorem endsInteger_of_spaced {c : Char} (hc : c = '}' ∨ c = ']') {s rest : List Char}
    (h : Spaced [[c]] s rest) : EndsInteger s := by
  cases h with
  | @cons blanks _ _ _ _ hblanks _ =>
      cases blanks with
      | nil =>
          rintro d ⟨⟩
          rcases hc with rfl | rfl <;> decide
      | cons b blanks =>
          have hb : isBlank b = true := hblanks b List.mem_cons_self
          rintro d ⟨⟩
          simp only [isBlank, Bool.or_eq_true, decide_eq_true_eq] at hb
          rcases hb with ((rfl | rfl) | rfl) | rfl <;> decide

/-- Behind the name of the field and its colon the width is read, and then the end of the
object. -/
theorem readObject_of_spaced {key s behind : List Char} (hkey : FieldKey key)
    (h : Spaced [key, [':']] s behind) :
    readObject s = (do
      let (bits, rest) ← readBits behind
      let rest ← readObjectEnd rest
      return (bits, rest)) := by
  obtain ⟨text, rfl, htext⟩ := hkey
  obtain ⟨s₁, hname, hcolon⟩ := spaced_cons_iff.1 h
  have hskip : skipBlanks s = '"' :: (text ++ '"' :: s₁) := by
    rw [(skipBlanks_eq_iff (by decide)).2 hname]
    simp
  have hread : readFieldName (text ++ '"' :: s₁) = .ok s₁ :=
    readFieldName_eq_ok_iff.2 ⟨text, htext, rfl⟩
  have hreadColon : readColon s₁ = .ok behind := readColon_eq_ok_iff.2 hcolon
  simp only [readObject, hskip, hread, bind, Except.bind, hreadColon]

/-- Behind its brace an object is empty, or has the field with a width and nothing else. -/
theorem readObject_eq_ok_iff {s rest : List Char} {bits : Nat} :
    readObject s = .ok (bits, rest) ↔
      (bits = defaultBits ∧ Spaced [['}']] s rest)
        ∨ ∃ key, FieldKey key ∧ bits < UInt32.size
          ∧ Spaced [key, [':'], Decimal.natural bits, ['}']] s rest := by
  constructor
  · intro h
    unfold readObject at h
    split at h
    case h_1 behind hskip =>
      cases h
      exact .inl ⟨rfl, (skipBlanks_eq_iff (by decide)).1 hskip⟩
    case h_2 behind hskip =>
      obtain ⟨s₁, hname, h⟩ := bind_eq_ok_iff.1 h
      obtain ⟨s₂, hcolon, h⟩ := bind_eq_ok_iff.1 h
      obtain ⟨⟨bits', s₃⟩, hbits, h⟩ := bind_eq_ok_iff.1 h
      obtain ⟨s₄, hend, h⟩ := bind_eq_ok_iff.1 h
      cases h
      obtain ⟨text, htext, rfl⟩ := readFieldName_eq_ok_iff.1 hname
      obtain ⟨hsize, hbits, -⟩ := readBits_eq_ok_iff.1 hbits
      have hkey : Spaced ['"' :: (text ++ ['"'])] s s₁ := by
        rw [← skipBlanks_eq_iff (by decide), hskip]
        simp
      refine .inr ⟨_, ⟨text, rfl, htext⟩, hsize, spaced_cons_iff.2 ⟨s₁, hkey, ?_⟩⟩
      refine spaced_cons_iff.2 ⟨s₂, readColon_eq_ok_iff.1 hcolon, ?_⟩
      exact spaced_cons_iff.2 ⟨s₃, hbits, readObjectEnd_eq_ok_iff.1 hend⟩
    case h_3 => cases h
  · rintro (⟨rfl, hs⟩ | ⟨key, hkey, hsize, hs⟩)
    · have hskip : skipBlanks s = '}' :: rest := (skipBlanks_eq_iff (by decide)).2 hs
      simp [readObject, hskip]
    · obtain ⟨s₁, hname, hs⟩ := spaced_cons_iff.1 hs
      obtain ⟨s₂, hcolon, hs⟩ := spaced_cons_iff.1 hs
      obtain ⟨s₃, hbits, hend⟩ := spaced_cons_iff.1 hs
      have hnumeral : EndsInteger s₃ := endsInteger_of_spaced (.inl rfl) hend
      rw [readObject_of_spaced hkey (spaced_cons_iff.2 ⟨s₁, hname, hcolon⟩)]
      refine bind_eq_ok_iff.2 ⟨(bits, s₃), readBits_eq_ok_iff.2 ⟨hsize, hbits, hnumeral⟩, ?_⟩
      exact bind_eq_ok_iff.2 ⟨rest, readObjectEnd_eq_ok_iff.2 hend, rfl⟩

/-- Behind its bracket a list is empty, or has the width and nothing else. -/
theorem readList_eq_ok_iff {s rest : List Char} {bits : Nat} :
    readList s = .ok (bits, rest) ↔
      (bits = defaultBits ∧ Spaced [[']']] s rest)
        ∨ (bits < UInt32.size ∧ Spaced [Decimal.natural bits, [']']] s rest) := by
  constructor
  · intro h
    unfold readList at h
    split at h
    case h_1 behind hskip =>
      cases h
      exact .inl ⟨rfl, (skipBlanks_eq_iff (by decide)).1 hskip⟩
    case h_2 =>
      obtain ⟨⟨bits', s₁⟩, hbits, h⟩ := bind_eq_ok_iff.1 h
      rw [readBits_skipBlanks] at hbits
      obtain ⟨hsize, hbits, -⟩ := readBits_eq_ok_iff.1 hbits
      simp only at h
      split at h
      case h_1 behind hskip =>
        cases h
        have hend : Spaced [[']']] s₁ rest := (skipBlanks_eq_iff (by decide)).1 hskip
        exact .inr ⟨hsize, spaced_cons_iff.2 ⟨s₁, hbits, hend⟩⟩
      case h_2 => cases h
  · rintro (⟨rfl, hs⟩ | ⟨hsize, hs⟩)
    · have hskip : skipBlanks s = ']' :: rest := (skipBlanks_eq_iff (by decide)).2 hs
      simp [readList, hskip]
    · obtain ⟨s₁, hbits, hend⟩ := spaced_cons_iff.1 hs
      have hnumeral : EndsInteger s₁ := endsInteger_of_spaced (.inr rfl) hend
      have hread : readBits (skipBlanks s) = .ok (bits, s₁) := by
        rw [readBits_skipBlanks]
        exact readBits_eq_ok_iff.2 ⟨hsize, hbits, hnumeral⟩
      have hskip : skipBlanks s₁ = ']' :: rest := (skipBlanks_eq_iff (by decide)).2 hend
      unfold readList
      split
      case h_1 behind hclose =>
        -- A numeral does not begin with a bracket.
        obtain ⟨c, digits, hinteger, hc⟩ := Decimal.exists_integer_eq_cons bits
        have hnumber := skipBlanks_eq_integer_iff (v := bits).2 hbits
        rw [hclose, hinteger] at hnumber
        obtain ⟨rfl, -⟩ := List.cons.inj hnumber
        exact absurd hc (by decide)
      case h_2 =>
        refine bind_eq_ok_iff.2 ⟨(bits, s₁), hread, ?_⟩
        simp only [hskip]
        rfl

/-! ## Whole texts -/

/-- The tokens of a text from which a width is read, and that width. -/
inductive WidthTokens : List (List Char) → Nat → Prop
  | emptyObject : WidthTokens [['{'], ['}']] defaultBits
  | object {key : List Char} {bits : Nat} (hkey : FieldKey key) (hbits : bits < UInt32.size) :
      WidthTokens [['{'], key, [':'], Decimal.natural bits, ['}']] bits
  | emptyList : WidthTokens [['['], [']']] defaultBits
  | list {bits : Nat} (hbits : bits < UInt32.size) :
      WidthTokens [['['], Decimal.natural bits, [']']] bits

theorem readWidth_of_brace {s behind : List Char} (h : Spaced [['{']] s behind) :
    readWidth s = readObject behind := by
  have hskip : skipBlanks s = '{' :: behind := (skipBlanks_eq_iff (by decide)).2 h
  simp only [readWidth, hskip]

theorem readWidth_of_bracket {s behind : List Char} (h : Spaced [['[']] s behind) :
    readWidth s = readList behind := by
  have hskip : skipBlanks s = '[' :: behind := (skipBlanks_eq_iff (by decide)).2 h
  simp only [readWidth, hskip]

theorem readWidth_eq_ok_iff {s rest : List Char} {bits : Nat} :
    readWidth s = .ok (bits, rest) ↔ ∃ tokens, WidthTokens tokens bits ∧ Spaced tokens s rest := by
  constructor
  · intro h
    unfold readWidth at h
    split at h
    case h_1 behind hskip =>
      have hopen : Spaced [['{']] s behind := (skipBlanks_eq_iff (by decide)).1 hskip
      rcases readObject_eq_ok_iff.1 h with ⟨rfl, hs⟩ | ⟨key, hkey, hsize, hs⟩
      · exact ⟨_, .emptyObject, spaced_cons_iff.2 ⟨behind, hopen, hs⟩⟩
      · exact ⟨_, .object hkey hsize, spaced_cons_iff.2 ⟨behind, hopen, hs⟩⟩
    case h_2 behind hskip =>
      have hopen : Spaced [['[']] s behind := (skipBlanks_eq_iff (by decide)).1 hskip
      rcases readList_eq_ok_iff.1 h with ⟨rfl, hs⟩ | ⟨hsize, hs⟩
      · exact ⟨_, .emptyList, spaced_cons_iff.2 ⟨behind, hopen, hs⟩⟩
      · exact ⟨_, .list hsize, spaced_cons_iff.2 ⟨behind, hopen, hs⟩⟩
    case h_3 =>
      -- Any other value is a fault, whether it can be read or not.
      obtain ⟨_, -, hthrown⟩ := bind_eq_ok_iff.1 h
      cases hthrown
  · rintro ⟨tokens, htokens, hs⟩
    cases htokens with
    | emptyObject =>
        obtain ⟨behind, hopen, hs⟩ := spaced_cons_iff.1 hs
        rw [readWidth_of_brace hopen]
        exact readObject_eq_ok_iff.2 (.inl ⟨rfl, hs⟩)
    | object hkey hsize =>
        obtain ⟨behind, hopen, hs⟩ := spaced_cons_iff.1 hs
        rw [readWidth_of_brace hopen]
        exact readObject_eq_ok_iff.2 (.inr ⟨_, hkey, hsize, hs⟩)
    | emptyList =>
        obtain ⟨behind, hopen, hs⟩ := spaced_cons_iff.1 hs
        rw [readWidth_of_bracket hopen]
        exact readList_eq_ok_iff.2 (.inl ⟨rfl, hs⟩)
    | list hsize =>
        obtain ⟨behind, hopen, hs⟩ := spaced_cons_iff.1 hs
        rw [readWidth_of_bracket hopen]
        exact readList_eq_ok_iff.2 (.inr ⟨hsize, hs⟩)

theorem judgeBits_eq_ok_iff {bits : Nat} {config : EngineConfig} :
    judgeBits bits = .ok config ↔ EngineConfig.ofPointerBits bits = .ok config := by
  unfold judgeBits
  split <;> simp [*]

/-- A text has a configuration just if a supported width is read from it and nothing but blanks
stands behind. -/
theorem read_eq_ok_iff {s : List Char} {config : EngineConfig} :
    read s = .ok config ↔
      ∃ bits rest, readWidth s = .ok (bits, rest) ∧ EngineConfig.ofPointerBits bits = .ok config
        ∧ Blank rest := by
  simp only [← judgeBits_eq_ok_iff, ← skipBlanks_eq_nil_iff]
  constructor
  · intro h
    obtain ⟨⟨bits, rest⟩, hwidth, h⟩ := bind_eq_ok_iff.1 h
    obtain ⟨config', hjudged, h⟩ := bind_eq_ok_iff.1 h
    split at h
    case h_2 => cases h
    case h_1 hskip =>
      cases h
      exact ⟨bits, rest, hwidth, hjudged, hskip⟩
  · rintro ⟨bits, rest, hwidth, hjudged, hskip⟩
    refine bind_eq_ok_iff.2 ⟨(bits, rest), hwidth, bind_eq_ok_iff.2 ⟨config, hjudged, ?_⟩⟩
    simp only [hskip]
    rfl

/-! ## The four forms -/

/-- The tokens of a supported width, and the configuration for it. -/
inductive WidthToken : List Char → EngineConfig → Prop
  | narrow : WidthToken ['3', '2'] ⟨.w32⟩
  | wide : WidthToken ['6', '4'] ⟨.w64⟩

/-- The tokens of a configuration text, and its configuration. -/
inductive ConfigTokens : List (List Char) → EngineConfig → Prop
  | emptyObject : ConfigTokens [['{'], ['}']] ⟨.w64⟩
  | object {key width : List Char} {config : EngineConfig} (hkey : FieldKey key)
      (hwidth : WidthToken width config) :
      ConfigTokens [['{'], key, [':'], width, ['}']] config
  | emptyList : ConfigTokens [['['], [']']] ⟨.w64⟩
  | list {width : List Char} {config : EngineConfig} (hwidth : WidthToken width config) :
      ConfigTokens [['['], width, [']']] config

theorem widthToken_iff {width : List Char} {config : EngineConfig} :
    WidthToken width config ↔
      ∃ bits, width = Decimal.natural bits ∧ EngineConfig.ofPointerBits bits = .ok config := by
  simp only [EngineConfig.ofPointerBits_eq_ok_iff]
  constructor
  · intro h
    cases h with
    | narrow => exact ⟨32, rfl, .inl ⟨rfl, rfl⟩⟩
    | wide => exact ⟨64, rfl, .inr ⟨rfl, rfl⟩⟩
  · rintro ⟨bits, rfl, ⟨rfl, rfl⟩ | ⟨rfl, rfl⟩⟩
    · exact .narrow
    · exact .wide

/-- Of the widths that can be read just the supported ones make a configuration. -/
theorem configTokens_iff {tokens : List (List Char)} {config : EngineConfig} :
    ConfigTokens tokens config ↔
      ∃ bits, WidthTokens tokens bits ∧ EngineConfig.ofPointerBits bits = .ok config := by
  have hdefault : ∀ config,
      EngineConfig.ofPointerBits defaultBits = .ok config ↔ config = ⟨.w64⟩ := by
    intro config
    simp [EngineConfig.ofPointerBits_eq_ok_iff, defaultBits]
  have hsize : ∀ {bits config},
      EngineConfig.ofPointerBits bits = .ok config → bits < UInt32.size := by
    intro bits config h
    rcases (EngineConfig.ofPointerBits_eq_ok_iff bits config).1 h with ⟨rfl, -⟩ | ⟨rfl, -⟩ <;>
      decide
  constructor
  · intro h
    cases h with
    | emptyObject => exact ⟨defaultBits, .emptyObject, (hdefault _).2 rfl⟩
    | object hkey hwidth =>
        obtain ⟨bits, rfl, hbits⟩ := widthToken_iff.1 hwidth
        exact ⟨bits, .object hkey (hsize hbits), hbits⟩
    | emptyList => exact ⟨defaultBits, .emptyList, (hdefault _).2 rfl⟩
    | list hwidth =>
        obtain ⟨bits, rfl, hbits⟩ := widthToken_iff.1 hwidth
        exact ⟨bits, .list (hsize hbits), hbits⟩
  · rintro ⟨bits, htokens, hbits⟩
    cases htokens with
    | emptyObject => exact (hdefault config).1 hbits ▸ .emptyObject
    | object hkey _ => exact .object hkey (widthToken_iff.2 ⟨bits, rfl, hbits⟩)
    | emptyList => exact (hdefault config).1 hbits ▸ .emptyList
    | list _ => exact .list (widthToken_iff.2 ⟨bits, rfl, hbits⟩)

end ConfigText

open ConfigText in
/-- **A text has a configuration just if it is of one of four forms.** These are an empty object,
an object with the one field `pointer_width`, however its name is spelt, an empty list, and a list
of one element, all with any blanks around the tokens. The width is the numeral `32` or `64`, and
the configuration is for pointers of so many bits; an empty object or list stands for 64. -/
theorem EngineConfig.ofJson_eq_ok_iff (text : String) (config : EngineConfig) :
    EngineConfig.ofJson text = .ok config ↔
      ∃ tokens rest, ConfigTokens tokens config ∧ Spaced tokens text.toList rest ∧ Blank rest := by
  rw [ofJson, read_eq_ok_iff]
  simp only [readWidth_eq_ok_iff, configTokens_iff]
  constructor
  · rintro ⟨bits, rest, ⟨tokens, htokens, hs⟩, hbits, hrest⟩
    exact ⟨tokens, rest, ⟨bits, htokens, hbits⟩, hs, hrest⟩
  · rintro ⟨tokens, rest, ⟨bits, htokens, hbits⟩, hs, hrest⟩
    exact ⟨bits, rest, ⟨tokens, htokens, hs⟩, hbits, hrest⟩

-- The name may be spelt with escapes; the numeral is not taken by its value.
example :
    EngineConfig.ofJson "\x7b\"pointer\\u005Fwidth\" :\n32\x7d\t" = .ok ⟨.w32⟩
      ∧ EngineConfig.ofJson "[032]" = .error .notJson := by
  constructor <;> cbv

end KernelTyping
