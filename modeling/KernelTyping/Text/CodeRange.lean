set_option autoImplicit false

/-! # Sets of characters as ranges of code points

A character property is tabulated as a list of ranges, each with its first and its last code
point. `contains_iff` says that membership is lying in one of the ranges. -/

namespace KernelTyping.CodeRange

/-- Whether a character lies in one of the ranges. -/
def contains (ranges : List (Nat × Nat)) (c : Char) : Bool :=
  ranges.any fun range => range.1 ≤ c.toNat && c.toNat ≤ range.2

theorem contains_iff (ranges : List (Nat × Nat)) (c : Char) :
    contains ranges c = true ↔ ∃ range ∈ ranges, range.1 ≤ c.toNat ∧ c.toNat ≤ range.2 := by
  simp [contains]

end KernelTyping.CodeRange
