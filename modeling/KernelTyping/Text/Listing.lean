set_option autoImplicit false

/-! # Listings

Several texts written in a row, with a comma and a space between neighbours. Whatever the
separator, a row is its first text and each other one behind a separator (`intercalate_cons`). -/

namespace KernelTyping.Listing

/-- The texts with a comma and a space between neighbours. -/
def commaSeparated (texts : List (List Char)) : List Char :=
  List.intercalate [',', ' '] texts

/-- A row of texts is the first one, and behind it each other one with a separator in front. -/
theorem intercalate_cons (separator first : List Char) (others : List (List Char)) :
    List.intercalate separator (first :: others)
      = first ++ others.flatMap fun text => separator ++ text := by
  induction others generalizing first with
  | nil => simp
  | cons second others ih =>
      rw [List.intercalate_cons_cons, ih, List.flatMap_cons, List.append_assoc, List.append_assoc]

/-- The texts in parentheses, with a comma and a space between neighbours. -/
def parenthesized (texts : List (List Char)) : List Char :=
  '(' :: (commaSeparated texts ++ [')'])

end KernelTyping.Listing
