import KernelTyping.Text.Decimal
import KernelTyping.Text.Quoted

set_option autoImplicit false

/-! # Writing that marks its own end

A text that is made of written forms can be taken apart again if each form marks its own end:
no form is the beginning of the form of another value (`SelfDelimiting`). Forms get this
property from a character that stands behind them and not inside (`Distinguishes.of_stop`), and
rows of such forms from a character with which no form begins (`Distinguishes.flatMap`); whole
lists are put together from a first form and such a row (`Distinguishes.of_cons`).
Quoted texts are written in this way, whatever the characters between the quotes are
(`Quoted.selfDelimiting_quoted`), and numerals of either base as far as the first character
behind them that is no digit.
-/

namespace KernelTyping

variable {α : Type}

/-- Whether the written forms of two values tell them apart, no matter what stands behind the
forms. -/
def Distinguishes (write : α → List Char) (a b : α) : Prop :=
  ∀ x y, write a ++ x = write b ++ y → a = b ∧ x = y

/-- A way of writing marks its own end if the forms of any two values tell them apart. -/
def SelfDelimiting (write : α → List Char) : Prop := ∀ a b, Distinguishes write a b

/-! ## Forms -/

/-- Two texts that have the same character right behind them, but not inside, end at the same
place. -/
theorem append_stop_inj {stop : Char} {u v x y : List Char} (hu : stop ∉ u) (hv : stop ∉ v)
    (h : u ++ stop :: x = v ++ stop :: y) : u = v ∧ x = y := by
  have htake : ∀ w z : List Char, stop ∉ w → (w ++ stop :: z).takeWhile (· ≠ stop) = w := by
    intro w z hw
    rw [List.takeWhile_append_of_pos]
    · simp
    · intro c hc
      simpa using ne_of_mem_of_not_mem hc hw
  have huv : u = v := by
    calc u = (u ++ stop :: x).takeWhile (· ≠ stop) := (htake u x hu).symm
      _ = (v ++ stop :: y).takeWhile (· ≠ stop) := by rw [h]
      _ = v := htake v y hv
  subst huv
  exact ⟨rfl, (List.cons.inj (List.append_cancel_left h)).2⟩

namespace Distinguishes

variable {write : α → List Char} {a b : α}

theorem refl : Distinguishes write a a := by
  intro x y hxy
  exact ⟨rfl, List.append_cancel_left hxy⟩

theorem symm (h : Distinguishes write a b) : Distinguishes write b a := by
  intro x y hxy
  obtain ⟨hab, hyx⟩ := h y x hxy.symm
  exact ⟨hab.symm, hyx.symm⟩

theorem eq_of_write_eq (h : Distinguishes write a b) (hwrite : write a = write b) : a = b :=
  (h [] [] (by rw [hwrite])).1

/-- Forms of which neither begins with the other tell their values apart. -/
theorem of_beginning (h : write a <+: write b ∨ write b <+: write a → a = b) :
    Distinguishes write a b := by
  intro x y hxy
  have hbegins : write a <+: write b ∨ write b <+: write a :=
    List.prefix_or_prefix_of_prefix ⟨x, hxy⟩ ⟨y, rfl⟩
  obtain rfl : a = b := h hbegins
  exact ⟨rfl, List.append_cancel_left hxy⟩

theorem of_stop {stop : Char} (ha : stop ∉ write a) (hb : stop ∉ write b)
    (hinj : write a = write b → a = b) : Distinguishes (fun a => write a ++ [stop]) a b := by
  intro x y hxy
  simp only [List.append_assoc, List.singleton_append] at hxy
  obtain ⟨hwrite, hbehind⟩ := append_stop_inj ha hb hxy
  exact ⟨hinj hwrite, hbehind⟩

/-- Rows of forms are told apart if a character stands behind them with which no form begins. -/
theorem flatMap {stop : Char} (hstart : ∀ a, ∃ c rest, write a = c :: rest ∧ c ≠ stop)
    {as bs : List α} (h : ∀ a ∈ as, ∀ b ∈ bs, Distinguishes write a b) :
    Distinguishes (fun as => as.flatMap write ++ [stop]) as bs := by
  -- Against the end of the row, a form shows its first character.
  have hend : ∀ a rest x y, [stop] ++ x ≠ ((a :: rest).flatMap write ++ [stop]) ++ y := by
    intro a rest x y heq
    obtain ⟨c, form, hform, hc⟩ := hstart a
    simp only [List.flatMap_cons, hform, List.cons_append] at heq
    exact hc (List.cons.inj heq).1.symm
  induction as generalizing bs with
  | nil =>
      intro x y hxy
      cases bs with
      | nil => exact ⟨rfl, (List.cons.inj hxy).2⟩
      | cons b bs => exact absurd hxy (hend b bs x y)
  | cons a as ih =>
      intro x y hxy
      cases bs with
      | nil => exact absurd hxy.symm (hend a as y x)
      | cons b bs =>
          simp only [List.flatMap_cons, List.append_assoc] at hxy
          obtain ⟨rfl, hrest⟩ := h a List.mem_cons_self b List.mem_cons_self _ _ hxy
          have hrows : Distinguishes (fun as => as.flatMap write ++ [stop]) as bs :=
            ih fun a ha b hb => h a (List.mem_cons_of_mem _ ha) b (List.mem_cons_of_mem _ hb)
          obtain ⟨rfl, hbehind⟩ := hrows x y (by simpa using hrest)
          exact ⟨rfl, hbehind⟩

/-- Lists are told apart if this holds of what is written for their first elements and behind
them, and no other text begins with that of the empty list. -/
theorem of_cons {whole behind : List α → List Char} {opening closing : List Char}
    (hcons : ∀ a as, whole (a :: as) = opening ++ (write a ++ (behind as ++ closing)))
    (hnil : ∀ a as x y, whole [] ++ x ≠ whole (a :: as) ++ y) {as bs : List α}
    (hfirst : ∀ a ∈ as, ∀ b ∈ bs, Distinguishes write a b)
    (hbehind : Distinguishes behind as.tail bs.tail) : Distinguishes whole as bs := by
  intro x y hxy
  cases as with
  | nil =>
      cases bs with
      | nil => exact ⟨rfl, List.append_cancel_left hxy⟩
      | cons b bs => exact absurd hxy (hnil b bs x y)
  | cons a as =>
      cases bs with
      | nil => exact absurd hxy.symm (hnil a as y x)
      | cons b bs =>
          simp only [hcons, List.append_assoc, List.append_cancel_left_eq] at hxy
          obtain ⟨rfl, hothers⟩ := hfirst a List.mem_cons_self b List.mem_cons_self _ _ hxy
          obtain ⟨hothers, hends⟩ := hbehind _ _ hothers
          obtain rfl : as = bs := hothers
          exact ⟨rfl, List.append_cancel_left hends⟩

end Distinguishes

/-! ## Numerals -/

namespace Decimal

theorem not_mem_natural {c : Char} (hc : c.isDigit = false) (n : Nat) : c ∉ natural n := by
  intro h
  have hdigit : c.isDigit = true := isDigit_of_mem_natural h
  rw [hc] at hdigit
  cases hdigit

theorem not_mem_integer {c : Char} (hminus : c ≠ '-') (hc : c.isDigit = false) (i : Int) :
    c ∉ integer i := by
  cases i with
  | ofNat n => exact not_mem_natural hc n
  | negSucc n =>
      intro h
      rcases List.mem_cons.1 h with heq | hmem
      · exact hminus heq
      · exact not_mem_natural hc (n + 1) hmem

end Decimal

namespace Hexadecimal

theorem digitChar_inj : ∀ m < 16, ∀ n < 16, Nat.digitChar m = Nat.digitChar n → m = n := by
  decide

theorem toDigits_inj {m n : Nat} (h : Nat.toDigits 16 m = Nat.toDigits 16 n) : m = n := by
  induction m using Nat.strongRecOn generalizing n with
  | ind m ih =>
      -- One digit stands for a number below sixteen, and behind others for the remainder.
      rw [Nat.toDigits_eq_if (by decide), Nat.toDigits_eq_if (n := n) (by decide)] at h
      by_cases hm : m < 16 <;> by_cases hn : n < 16
      · rw [if_pos hm, if_pos hn] at h
        exact digitChar_inj m hm n hn (List.cons.inj h).1
      · rw [if_pos hm, if_neg hn] at h
        exact absurd (List.append_eq_singleton_iff.1 h.symm) (by simp [Nat.toDigits_ne_nil])
      · rw [if_neg hm, if_pos hn] at h
        exact absurd (List.append_eq_singleton_iff.1 h) (by simp [Nat.toDigits_ne_nil])
      · rw [if_neg hm, if_neg hn] at h
        obtain ⟨hlead, hlast⟩ := List.append_inj' h rfl
        have hdiv : m / 16 = n / 16 := ih (m / 16) (by omega) hlead
        have hmod : m % 16 = n % 16 :=
          digitChar_inj _ (Nat.mod_lt _ (by decide)) _ (Nat.mod_lt _ (by decide))
            (List.cons.inj hlast).1
        omega

theorem not_mem_toDigits (n : Nat) : '}' ∉ Nat.toDigits 16 n := by
  induction n using Nat.strongRecOn with
  | ind n ih =>
      rw [Nat.toDigits_eq_if (by decide)]
      split
      case isTrue hn => simp
      case isFalse hn =>
        have hlead : '}' ∉ Nat.toDigits 16 (n / 16) := ih (n / 16) (by omega)
        simp [hlead]

end Hexadecimal

/-! ## Quoted texts -/

namespace Quoted

/-- The forms in which a character can be written. -/
inductive Form (c : Char) : List Char → Prop
  | short {letter : Char} (h : (c, letter) ∈ shortForms) : Form c ['\\', letter]
  | codePoint : Form c (codePointForm c)
  | plain (hquote : c ≠ '"') (hbackslash : c ≠ '\\') : Form c [c]

theorem form_escape (c : Char) : Form c (escape c) := by
  unfold escape
  split
  case h_1 letter hlookup =>
    obtain ⟨before, after, hforms, -⟩ := List.lookup_eq_some_iff.1 hlookup
    exact .short (by rw [hforms]; simp)
  case h_2 hlookup =>
    split
    · exact .codePoint
    · have hquote : c ≠ '"' := by
        rintro rfl
        exact absurd hlookup (by decide)
      have hbackslash : c ≠ '\\' := by
        rintro rfl
        exact absurd hlookup (by decide)
      exact .plain hquote hbackslash

theorem exists_start_escape (c : Char) : ∃ start rest, escape c = start :: rest ∧ start ≠ '"' := by
  have hform := form_escape c
  generalize escape c = form at hform
  cases hform with
  | short h => exact ⟨_, _, rfl, by decide⟩
  | codePoint => exact ⟨_, _, rfl, by decide⟩
  | plain hquote hbackslash => exact ⟨_, _, rfl, hquote⟩

/-- No letter of a short form stands for two characters, and none announces a code point. -/
theorem letters_shortForms : ∀ form ∈ shortForms, form.2 ≠ 'u' ∧
    ∀ other ∈ shortForms, form.2 = other.2 → form.1 = other.1 := by
  decide

theorem codePointForm_append (c : Char) (x : List Char) :
    codePointForm c ++ x = '\\' :: 'u' :: '{' :: (Nat.toDigits 16 c.toNat ++ '}' :: x) := by
  simp [codePointForm]

theorem selfDelimiting_escape : SelfDelimiting escape := by
  intro c d x y h
  have hc := form_escape c
  have hd := form_escape d
  generalize escape c = form at hc h
  generalize escape d = form' at hd h
  -- The first two characters tell which of the three forms it is.
  cases hc with
  | @short letter hc =>
      cases hd with
      | @short letter' hd =>
          obtain ⟨rfl, rfl⟩ : letter = letter' ∧ x = y := by simpa using h
          exact ⟨(letters_shortForms _ hc).2 _ hd rfl, rfl⟩
      | codePoint =>
          rw [codePointForm_append] at h
          have hletter : letter = 'u' := (List.cons.inj (List.cons.inj h).2).1
          exact absurd hletter (letters_shortForms _ hc).1
      | plain hquote hbackslash => exact absurd (List.cons.inj h).1.symm hbackslash
  | codePoint =>
      rw [codePointForm_append] at h
      cases hd with
      | @short letter' hd =>
          have hletter : 'u' = letter' := (List.cons.inj (List.cons.inj h).2).1
          exact absurd hletter.symm (letters_shortForms _ hd).1
      | codePoint =>
          rw [codePointForm_append] at h
          have hdigits := (List.cons.inj (List.cons.inj (List.cons.inj h).2).2).2
          obtain ⟨hcode, rfl⟩ := append_stop_inj (Hexadecimal.not_mem_toDigits _)
            (Hexadecimal.not_mem_toDigits _) hdigits
          exact ⟨Char.toNat_inj.1 (Hexadecimal.toDigits_inj hcode), rfl⟩
      | plain hquote hbackslash => exact absurd (List.cons.inj h).1.symm hbackslash
  | plain hquote hbackslash =>
      cases hd with
      | short hd => exact absurd (List.cons.inj h).1 hbackslash
      | codePoint =>
          rw [codePointForm_append] at h
          exact absurd (List.cons.inj h).1 hbackslash
      | plain => exact List.cons.inj h

/-- A quoted text ends with the first quote that is not written behind a backslash. -/
theorem selfDelimiting_quoted : SelfDelimiting quoted := by
  intro s t x y h
  have hrows : Distinguishes (fun s => s.flatMap escape ++ ['"']) s t :=
    .flatMap exists_start_escape fun c _ d _ => selfDelimiting_escape c d
  exact hrows x y (List.cons.inj h).2

end Quoted

end KernelTyping
