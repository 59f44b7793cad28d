import KernelTyping.Text.Combining
import KernelTyping.Text.Unprintable

set_option autoImplicit false

/-! # Quoted text

A text shown between double quotes, so that every character in it can be seen and told from
its neighbours. A quote and a backslash are written behind a backslash, four control
characters have a letter of their own, and any other character that has no visible form or
joins the one before it is written as its code point in hexadecimal. `quoted_of_plain` says
that all other texts stand between the quotes unchanged. -/

namespace KernelTyping.Quoted

/-- The characters that are written as a backslash and one letter, with that letter. -/
def shortForms : List (Char × Char) :=
  [('"', '"'), ('\\', '\\'), ('\t', 't'), ('\n', 'n'), ('\r', 'r'), ('\x00', '0')]

/-- A code point in hexadecimal, in braces behind the letter `u`. -/
def codePointForm (c : Char) : List Char :=
  ['\\', 'u', '{'] ++ Nat.toDigits 16 c.toNat ++ ['}']

/-- Whether a character is shown as its code point. -/
def needsCodePoint (c : Char) : Bool :=
  CharClass.isUnprintable c || CharClass.isCombining c

/-- The written form of one character. -/
def escape (c : Char) : List Char :=
  match shortForms.lookup c with
  | some letter => ['\\', letter]
  | none => if needsCodePoint c then codePointForm c else [c]

/-- The written form of a text, with the quotes around it. -/
def quoted (s : List Char) : List Char := '"' :: (s.flatMap escape ++ ['"'])

/-- The written form of a string, with the quotes around it. -/
def quotedString (s : String) : String := String.ofList (quoted s.toList)

/-- A character is plain if it is shown as itself. -/
def IsPlain (c : Char) : Prop := shortForms.lookup c = none ∧ needsCodePoint c = false

theorem escape_of_plain {c : Char} (h : IsPlain c) : escape c = [c] := by
  simp [escape, h.1, h.2]

theorem quoted_of_plain {s : List Char} (h : ∀ c ∈ s, IsPlain c) :
    quoted s = '"' :: (s ++ ['"']) := by
  have unchanged : s.flatMap escape = s := by
    induction s with
    | nil => rfl
    | cons c s ih =>
      rw [List.flatMap_cons, escape_of_plain (h c List.mem_cons_self),
        ih fun d hd => h d (List.mem_cons_of_mem c hd)]
      rfl
  rw [quoted, unchanged]

end KernelTyping.Quoted
