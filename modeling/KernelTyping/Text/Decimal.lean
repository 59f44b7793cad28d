set_option autoImplicit false

/-! # Decimal numerals

The decimal text of a natural number and of an integer. `natural_inj` and `integer_inj` say
that the text determines the number; `isDigit_of_mem_natural` says which characters occur. -/

namespace KernelTyping.Decimal

/-- The decimal digits of a natural number, without leading zeros. -/
def natural (n : Nat) : List Char := Nat.toDigits 10 n

/-- The decimal text of an integer: a minus sign in front of a negative one. -/
def integer : Int → List Char
  | .ofNat n => natural n
  | .negSucc n => '-' :: natural (n + 1)

theorem natural_ne_nil (n : Nat) : natural n ≠ [] := Nat.toDigits_ne_nil

theorem isDigit_of_mem_natural {n : Nat} {c : Char} (h : c ∈ natural n) : c.isDigit = true :=
  Nat.isDigit_of_mem_toDigits (by decide) (by decide) h

/-- The digits read back as the number. -/
theorem ofDigitChars_natural (n : Nat) : Nat.ofDigitChars 10 (natural n) 0 = n :=
  Nat.ofDigitChars_ten_toDigits

theorem natural_inj {m n : Nat} : natural m = natural n ↔ m = n := by
  refine ⟨fun h => ?_, congrArg natural⟩
  rw [← ofDigitChars_natural m, h, ofDigitChars_natural]

theorem head?_natural_ne_minus (n : Nat) (rest : List Char) : natural n ≠ '-' :: rest := by
  intro h
  have hdigit : '-'.isDigit = true := isDigit_of_mem_natural (n := n) (h ▸ List.mem_cons_self)
  exact absurd hdigit (by decide)

theorem integer_inj {i j : Int} : integer i = integer j ↔ i = j := by
  refine ⟨fun h => ?_, congrArg integer⟩
  cases i with
  | ofNat m =>
    cases j with
    | ofNat n => rw [natural_inj.1 h]
    | negSucc n => exact absurd h (head?_natural_ne_minus m _)
  | negSucc m =>
    cases j with
    | ofNat n => exact absurd h.symm (head?_natural_ne_minus n _)
    | negSucc n =>
      have hdigits : natural (m + 1) = natural (n + 1) := (List.cons.inj h).2
      rw [Nat.succ.inj (natural_inj.1 hdigits)]

end KernelTyping.Decimal
