import KernelTyping.Text.Decimal
import KernelTyping.Text.JsonNumber
import Mathlib.Algebra.Group.Int.Defs
import Mathlib.Algebra.Group.Nat.Defs
import Mathlib.Data.List.Induction

set_option autoImplicit false

/-! # Integers in JSON text

A decimal numeral has no digits but those of its number, and a text of digits without a zero in
front is the numeral of what it reads as (`Decimal.natural_ofDigitChars`). So the text of a JSON
number tells when it is read as an integer: it is the numeral of an integer that fits a signed or
an unsigned word of 64 bits, and no digit, point or exponent stands behind it
(`read_eq_integer_iff`).
-/

namespace KernelTyping

/-! ## Numerals and their digits -/

namespace Decimal

theorem digitChar_of_isDigit {c : Char} (h : c.isDigit = true) :
    ∃ d < 10, Nat.digitChar d = c := by
  obtain ⟨hlow, hhigh⟩ := Char.isDigit_iff_toNat.1 h
  have hzero : '0'.toNat = 48 := rfl
  have hnine : '9'.toNat = 57 := rfl
  refine ⟨c.toNat - 48, by omega, ?_⟩
  apply Char.toNat_inj.1
  rw [Nat.toNat_digitChar_of_lt_ten (by omega)]
  omega

theorem exists_integer_eq_cons (i : Int) :
    ∃ c rest, integer i = c :: rest ∧ (c = '-' ∨ c.isDigit = true) := by
  cases i with
  | negSucc n => exact ⟨'-', natural (n + 1), rfl, .inl rfl⟩
  | ofNat n =>
      cases hnatural : natural n with
      | nil => exact absurd hnatural (natural_ne_nil n)
      | cons c rest =>
          have hdigit : c.isDigit = true := isDigit_of_mem_natural (n := n) (by simp [hnatural])
          exact ⟨c, rest, hnatural, .inr hdigit⟩

/-- A numeral has no zero in front, unless its number is zero. -/
theorem exists_natural_eq_cons {n : Nat} (h : 0 < n) :
    ∃ c rest, natural n = c :: rest ∧ c ≠ '0' := by
  induction n using Nat.base_induction 10 (by decide) with
  | single d hd =>
      have hne : ∀ d < 10, 0 < d → Nat.digitChar d ≠ '0' := by decide
      exact ⟨Nat.digitChar d, [], Nat.toDigits_of_lt_base hd, hne d hd h⟩
  | digit m d hd hm ih =>
      obtain ⟨c, rest, hnatural, hc⟩ := ih hm
      refine ⟨c, rest ++ natural d, ?_, hc⟩
      rw [← List.cons_append, ← hnatural]
      exact (Nat.toDigits_append_toDigits (by decide) hm hd).symm

theorem ofDigitChars_append_digitChar (digits : List Char) {d : Nat} (hd : d < 10) :
    Nat.ofDigitChars 10 (digits ++ [Nat.digitChar d]) 0
      = 10 * Nat.ofDigitChars 10 digits 0 + d := by
  rw [Nat.ofDigitChars_append, Nat.ofDigitChars_cons_digitChar_of_lt_ten hd, Nat.ofDigitChars_nil]

/-- Digits without a zero in front are the numeral of what they read as. -/
theorem natural_ofDigitChars {c : Char} (hc : c ≠ '0') {rest : List Char}
    (hdigits : ∀ d ∈ c :: rest, d.isDigit = true) :
    0 < Nat.ofDigitChars 10 (c :: rest) 0
      ∧ natural (Nat.ofDigitChars 10 (c :: rest) 0) = c :: rest := by
  induction rest using List.reverseRecOn with
  | nil =>
      obtain ⟨d, hd, rfl⟩ := digitChar_of_isDigit (hdigits c List.mem_cons_self)
      have hpos : 0 < d := by
        rw [Nat.pos_iff_ne_zero]
        rintro rfl
        exact hc rfl
      have hread : Nat.ofDigitChars 10 [Nat.digitChar d] 0 = d := by
        simpa using ofDigitChars_append_digitChar [] hd
      rw [hread]
      exact ⟨hpos, Nat.toDigits_of_lt_base hd⟩
  | append_singleton rest last ih =>
      have hlast : last ∈ c :: (rest ++ [last]) := by simp
      obtain ⟨d, hd, rfl⟩ := digitChar_of_isDigit (hdigits last hlast)
      obtain ⟨hpos, hnatural⟩ := ih fun other hother =>
        hdigits other (List.mem_append_left [Nat.digitChar d] hother)
      rw [← List.cons_append, ofDigitChars_append_digitChar _ hd]
      refine ⟨by omega, ?_⟩
      calc natural (10 * Nat.ofDigitChars 10 (c :: rest) 0 + d)
          = natural (Nat.ofDigitChars 10 (c :: rest) 0) ++ natural d :=
            (Nat.toDigits_append_toDigits (by decide) hpos hd).symm
        _ = (c :: rest) ++ [Nat.digitChar d] := by
            rw [hnatural, natural, Nat.toDigits_of_lt_base hd]

end Decimal

namespace JsonNumber

/-! ## Digits in front of a text -/

/-- Whether a text does not begin with a digit. -/
def NoDigit (s : List Char) : Prop := ∀ c ∈ s.head?, c.isDigit = false

theorem le_ofDigitChars (digits : List Char) (n : Nat) : n ≤ Nat.ofDigitChars 10 digits n := by
  rw [Nat.ofDigitChars_eq_ofDigitChars_zero]
  have hpower : 0 < 10 ^ digits.length := Nat.pow_pos (by decide)
  exact Nat.le_add_right_of_le (Nat.le_mul_of_pos_left n hpower)

/-- All digits count, if the number that they make up fits a word. -/
theorem takeDigits_append {digits rest : List Char} {n : Nat}
    (hdigits : ∀ c ∈ digits, c.isDigit = true) (hrest : NoDigit rest)
    (hfits : Nat.ofDigitChars 10 digits n < UInt64.size) :
    takeDigits n (digits ++ rest) = (Nat.ofDigitChars 10 digits n, digits.length, rest) := by
  induction digits generalizing n with
  | nil =>
      cases rest with
      | nil => rfl
      | cons c rest =>
          have hc : c.isDigit = false := hrest c rfl
          simp [takeDigits, hc]
  | cons c digits ih =>
      obtain ⟨hc, hmore⟩ := List.forall_mem_cons.1 hdigits
      have hvalue : n * 10 + digitValue c = 10 * n + (c.toNat - '0'.toNat) := by
        rw [Nat.mul_comm, digitValue]
      rw [Nat.ofDigitChars_cons, ← hvalue] at hfits
      have hlonger : n * 10 + digitValue c < UInt64.size :=
        Nat.lt_of_le_of_lt (le_ofDigitChars digits _) hfits
      rw [List.cons_append, takeDigits, if_pos ⟨hc, hlonger⟩, ih hmore hfits, Nat.ofDigitChars_cons,
        ← hvalue]
      rfl

/-- What is taken are digits, and the number that they make up fits a word. -/
theorem exists_digits_of_takeDigits {s behind : List Char} {n total count : Nat}
    (hn : n < UInt64.size) (h : takeDigits n s = (total, count, behind)) :
    ∃ digits, s = digits ++ behind ∧ (∀ c ∈ digits, c.isDigit = true)
      ∧ total = Nat.ofDigitChars 10 digits n ∧ total < UInt64.size := by
  induction s generalizing n total count with
  | nil =>
      cases h
      exact ⟨[], rfl, by simp, by simp, hn⟩
  | cons c rest ih =>
      rw [takeDigits] at h
      split at h
      case isTrue hlonger =>
        obtain ⟨hc, hfits⟩ := hlonger
        rcases htaken : takeDigits (n * 10 + digitValue c) rest with ⟨total', count', behind'⟩
        rw [htaken] at h
        cases h
        obtain ⟨digits, rfl, hdigits, htotal, hsize⟩ := ih hfits htaken
        refine ⟨c :: digits, rfl, List.forall_mem_cons.2 ⟨hc, hdigits⟩, ?_, hsize⟩
        rw [htotal, Nat.ofDigitChars_cons, Nat.mul_comm n, digitValue]
      case isFalse =>
        cases h
        exact ⟨[], rfl, by simp, by simp, hn⟩

theorem skipDigits_of_noDigit {s : List Char} (h : NoDigit s) : skipDigits s = (0, s) := by
  cases s with
  | nil => rfl
  | cons c rest =>
      have hc : c.isDigit = false := h c rfl
      simp [skipDigits, hc]

/-- If no digit is left out, then there is none. -/
theorem noDigit_of_skipDigits {s behind : List Char} (h : skipDigits s = (0, behind)) :
    behind = s ∧ NoDigit s := by
  cases s with
  | nil =>
      cases h
      exact ⟨rfl, by simp [NoDigit]⟩
  | cons c rest =>
      cases hc : c.isDigit with
      | true => simp [skipDigits, hc] at h
      | false =>
          obtain rfl : c :: rest = behind := by simpa [skipDigits, hc] using h
          exact ⟨rfl, by simp [NoDigit, hc]⟩

theorem readWhole_natural {n : Nat} (hn : n < UInt64.size) {rest : List Char}
    (hrest : NoDigit rest) : readWhole (Decimal.natural n ++ rest) = some ⟨n, 0, rest⟩ := by
  rcases Nat.eq_zero_or_pos n with rfl | hpos
  · show readWhole ('0' :: rest) = _
    cases rest with
    | nil => rfl
    | cons d rest =>
        have hd : d.isDigit = false := hrest d rfl
        simp [readWhole, hd]
  · obtain ⟨c, digits, hnatural, hc⟩ := Decimal.exists_natural_eq_cons hpos
    have hdigits : ∀ d ∈ c :: digits, d.isDigit = true := by
      intro d hd
      exact Decimal.isDigit_of_mem_natural (hnatural ▸ hd)
    have hread : Nat.ofDigitChars 10 (c :: digits) 0 = n := by
      rw [← hnatural, Decimal.ofDigitChars_natural]
    have htaken := takeDigits_append hdigits hrest (hread.symm ▸ hn)
    rw [hread, List.cons_append] at htaken
    rw [hnatural, List.cons_append]
    unfold readWhole
    simp only [if_neg hc, if_pos (hdigits c List.mem_cons_self), htaken,
      skipDigits_of_noDigit hrest]
    rfl

/-- The digits before the point are read to the last one just if they are a numeral that fits a
word. -/
theorem readWhole_eq_some_iff {s rest : List Char} {n : Nat} :
    readWhole s = some ⟨n, 0, rest⟩ ↔
      n < UInt64.size ∧ s = Decimal.natural n ++ rest ∧ NoDigit rest := by
  constructor
  · intro h
    unfold readWhole at h
    split at h
    case h_1 => cases h
    case h_2 c behind =>
      split at h
      case isTrue hzero =>
        subst hzero
        split at h
        case h_1 d behind =>
          split at h
          case isTrue => cases h
          case isFalse hd =>
            cases h
            exact ⟨by decide, rfl, by simp [NoDigit, hd]⟩
        case h_2 =>
          cases h
          exact ⟨by decide, rfl, by simp [NoDigit]⟩
      case isFalse hzero =>
        split at h
        case isFalse => cases h
        case isTrue hc =>
          rcases htaken : takeDigits 0 (c :: behind) with ⟨total, count, behind'⟩
          rcases hskipped : skipDigits behind' with ⟨left, behind''⟩
          simp only [htaken, hskipped, Option.some.injEq, Scanned.mk.injEq] at h
          obtain ⟨rfl, hleft, rfl⟩ := h
          obtain rfl : left = 0 := by omega
          obtain ⟨rfl, hend⟩ := noDigit_of_skipDigits hskipped
          obtain ⟨digits, hs, hdigits, rfl, hsize⟩ :=
            exists_digits_of_takeDigits (by decide) htaken
          refine ⟨hsize, ?_, hend⟩
          cases digits with
          | nil =>
              -- Nothing was taken, so the digit in front would have been left out.
              rw [List.nil_append] at hs
              rw [← hs] at hend
              have hfirst : c.isDigit = false := hend c rfl
              rw [hc] at hfirst
              cases hfirst
          | cons d digits =>
              obtain ⟨rfl, -⟩ := List.cons.inj hs
              rw [(Decimal.natural_ofDigitChars hzero hdigits).2, hs]
  · rintro ⟨hn, rfl, hrest⟩
    exact readWhole_natural hn hrest

/-! ## Integers -/

/-- Whether an integer can end in front of a text: no digit, point or exponent follows. -/
def EndsInteger (s : List Char) : Prop :=
  ∀ c ∈ s.head?, c.isDigit = false ∧ c ≠ '.' ∧ c ≠ 'e' ∧ c ≠ 'E'

/-- There is no fraction just if there is no point. -/
theorem readFraction_eq_false_iff {p q : Scanned} :
    readFraction p = some (false, q) ↔ q = p ∧ ∀ c ∈ p.rest.head?, c ≠ '.' := by
  unfold readFraction
  split
  case h_1 d rest hrest => by_cases hd : d.isDigit = true <;> simp [hd, hrest]
  case h_2 hrest => simp [hrest]
  case h_3 hdigit hend =>
    have hpoint : ∀ c ∈ p.rest.head?, c ≠ '.' := by
      intro c hc
      obtain ⟨rest, hrest⟩ := List.head?_eq_some_iff.1 hc
      rintro rfl
      cases rest with
      | nil => exact hend hrest
      | cons d rest => exact hdigit d rest hrest
    simp only [Option.some.injEq, Prod.mk.injEq, true_and, eq_comm]
    exact (and_iff_left hpoint).symm

/-- There is no exponent just if there is no letter for one. -/
theorem readExponent_eq_false_iff {p q : Scanned} :
    readExponent p = some (false, q) ↔ q = p ∧ ∀ c ∈ p.rest.head?, c ≠ 'e' ∧ c ≠ 'E' := by
  unfold readExponent
  cases hrest : p.rest with
  | nil => simp [eq_comm]
  | cons c rest =>
      show (if c = 'e' ∨ c = 'E' then _ else _) = _ ↔ _
      by_cases hc : c = 'e' ∨ c = 'E'
      · have hletter : ¬ ∀ d ∈ (c :: rest).head?, d ≠ 'e' ∧ d ≠ 'E' := by
          intro hnone
          obtain ⟨he, hE⟩ := hnone c rfl
          exact hc.elim he hE
        rw [if_pos hc]
        simp only [hletter, and_false, iff_false]
        split <;> simp
      · rw [if_neg hc]
        simp only [not_or] at hc
        simp [eq_comm, hc]

/-- A significand is an integer if there is a signed or an unsigned word for it; zero with a sign
is none. -/
theorem ofSignificand?_eq_integer_iff {negative : Bool} {n : Nat} {v : Int} :
    ofSignificand? negative n = some (.integer v) ↔
      (negative = false ∧ v = n) ∨ (negative = true ∧ 0 < n ∧ n ≤ 2 ^ 63 ∧ v = -n) := by
  have hreal : ∀ x : Option Binary64, x.map (real true) ≠ some (integer v) := by
    intro x
    cases x <;> simp
  unfold ofSignificand?
  cases negative with
  | false => simp [eq_comm]
  | true =>
      have hshift : 1 <<< 63 = 2 ^ 63 := rfl
      rw [if_neg (by decide), hshift]
      by_cases hn : n = 0 ∨ 2 ^ 63 < n
      · have hnot : ¬ (0 < n ∧ n ≤ 2 ^ 63) := by omega
        rw [if_pos hn]
        simp only [hreal, reduceCtorEq, false_and, ← and_assoc, hnot, and_false, or_false]
      · have hpos : 0 < n ∧ n ≤ 2 ^ 63 := by omega
        rw [if_neg hn]
        simp only [Option.some.injEq, integer.injEq, reduceCtorEq, false_and, false_or, true_and,
          hpos]
        exact eq_comm

/-- Behind its sign a number is read as an integer just if it is a numeral that fits a word and
ends there. -/
theorem readUnsigned_eq_integer_iff {negative : Bool} {s rest : List Char} {v : Int} :
    readUnsigned negative s = some (.integer v, rest) ↔
      ∃ n, n < UInt64.size ∧ s = Decimal.natural n ++ rest ∧ EndsInteger rest
        ∧ ofSignificand? negative n = some (.integer v) := by
  simp only [readUnsigned, Option.bind_eq_bind, Option.bind_eq_some_iff]
  constructor
  · rintro ⟨⟨n, exponent, behind⟩, hwhole, ⟨hasFraction, withFraction⟩, hfraction,
      ⟨hasExponent, final⟩, hexponent, hnumber⟩
    split at hnumber
    case isTrue =>
      cases hvalue : Binary64.ofDecimal? final.significand final.exponent <;>
        simp [hvalue] at hnumber
    case isFalse hplain =>
      obtain ⟨⟨rfl, rfl⟩, hzero⟩ :
          (hasFraction = false ∧ hasExponent = false) ∧ final.exponent = 0 := by
        simpa using hplain
      obtain ⟨rfl, hpoint⟩ := readFraction_eq_false_iff.1 hfraction
      obtain ⟨rfl, hletter⟩ := readExponent_eq_false_iff.1 hexponent
      obtain rfl : exponent = 0 := hzero
      obtain ⟨hn, rfl, hdigit⟩ := readWhole_eq_some_iff.1 hwhole
      obtain ⟨number, hsignificand, heq⟩ := Option.bind_eq_some_iff.1 hnumber
      cases heq
      exact ⟨n, hn, rfl, fun c hc => ⟨hdigit c hc, hpoint c hc, hletter c hc⟩, hsignificand⟩
  · rintro ⟨n, hn, rfl, hend, hsignificand⟩
    refine ⟨⟨n, 0, rest⟩, readWhole_natural hn fun c hc => (hend c hc).1, (false, ⟨n, 0, rest⟩), ?_,
      (false, ⟨n, 0, rest⟩), ?_, ?_⟩
    · exact readFraction_eq_false_iff.2 ⟨rfl, fun c hc => (hend c hc).2.1⟩
    · exact readExponent_eq_false_iff.2 ⟨rfl, fun c hc => (hend c hc).2.2⟩
    · simp [hsignificand]

theorem read_natural_append (n : Nat) (rest : List Char) :
    read (Decimal.natural n ++ rest) = readUnsigned false (Decimal.natural n ++ rest) := by
  cases hnatural : Decimal.natural n with
  | nil => exact absurd hnatural (Decimal.natural_ne_nil n)
  | cons c digits =>
      have hminus : c ≠ '-' := by
        rintro rfl
        exact Decimal.head?_natural_ne_minus n digits hnatural
      rw [List.cons_append]
      unfold read
      split
      case h_1 heq => exact absurd (List.cons.inj heq).1 hminus
      case h_2 => rfl

/-- A number is read as an integer just if its text is the numeral of an integer that fits a
word, and ends there. -/
theorem read_eq_integer_iff {s rest : List Char} {v : Int} :
    read s = some (.integer v, rest) ↔
      -2 ^ 63 ≤ v ∧ v < 2 ^ 64 ∧ s = Decimal.integer v ++ rest ∧ EndsInteger rest := by
  have hsize : UInt64.size = 2 ^ 64 := rfl
  constructor
  · intro h
    unfold read at h
    split at h
    case h_1 behind =>
      obtain ⟨n, -, rfl, hend, hsignificand⟩ := readUnsigned_eq_integer_iff.1 h
      obtain ⟨hpos, hn, rfl⟩ : 0 < n ∧ n ≤ 2 ^ 63 ∧ v = -n := by
        simpa using ofSignificand?_eq_integer_iff.1 hsignificand
      refine ⟨by omega, by omega, ?_, hend⟩
      obtain ⟨m, rfl⟩ : ∃ m, n = m + 1 := ⟨n - 1, by omega⟩
      rfl
    case h_2 =>
      obtain ⟨n, hn, rfl, hend, hsignificand⟩ := readUnsigned_eq_integer_iff.1 h
      obtain rfl : v = n := by simpa using ofSignificand?_eq_integer_iff.1 hsignificand
      exact ⟨by omega, by omega, rfl, hend⟩
  · rintro ⟨hlow, hhigh, rfl, hend⟩
    cases v with
    | ofNat n =>
        rw [Decimal.integer, read_natural_append, readUnsigned_eq_integer_iff]
        have hn : n < UInt64.size := by
          change (n : Int) < 2 ^ 64 at hhigh
          omega
        exact ⟨n, hn, rfl, hend, ofSignificand?_eq_integer_iff.2 (.inl ⟨rfl, rfl⟩)⟩
    | negSucc n =>
        show readUnsigned true (Decimal.natural (n + 1) ++ rest) = _
        rw [readUnsigned_eq_integer_iff]
        have hn : n + 1 ≤ 2 ^ 63 := by omega
        refine ⟨n + 1, by omega, rfl, hend, ?_⟩
        exact ofSignificand?_eq_integer_iff.2 (.inr ⟨rfl, Nat.succ_pos n, hn, rfl⟩)

end JsonNumber

end KernelTyping
