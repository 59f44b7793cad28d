import KernelTyping.Text.Decimal
import KernelTyping.Text.Listing
import KernelTyping.Text.Quoted
import KernelTyping.Ty.Basic

set_option autoImplicit false

/-! # The text of a type

How types are shown to a user: `array(float32, 2d, C)`, `(int32, bool)`, `Literal[int64](3)`.
A tuple of one element has a comma behind it, `(int32,)`, and the empty one is `()`. -/

namespace KernelTyping

/-- The text of a constant: a decimal numeral, `true` or `false`, or a quoted string. -/
def LiteralValue.chars : LiteralValue → List Char
  | .int value => Decimal.integer value.toInt
  | .bool true => "true".toList
  | .bool false => "false".toList
  | .str value => Quoted.quoted value.toList

/-- The text of a constant. -/
def LiteralValue.text (value : LiteralValue) : String := String.ofList value.chars

namespace Ty

/-- The letter for the layout of arrays, which are all contiguous in row-major order. -/
def layoutLetter : Char := 'C'

/-- The text of a tuple of elements with the given texts. -/
def tupleChars : List (List Char) → List Char
  | [only] => '(' :: (only ++ [',', ')'])
  | texts => Listing.parenthesized texts

mutual

/-- The characters of the text of a type. -/
def chars : Ty → List Char
  | .scalar s => s.name.toList
  | .str => "str".toList
  | .unit => "none".toList
  | .tuple elems => tupleChars (charsEach elems)
  | .array elem ndim =>
    "array(".toList ++ elem.chars ++ [',', ' '] ++ Decimal.natural ndim.toNat ++
      ['d', ',', ' ', layoutLetter, ')']
  | .literal base value => "Literal[".toList ++ base.chars ++ [']', '('] ++ value.chars ++ [')']
  | .numberClass of => "class(".toList ++ of.chars ++ [')']
  | .scope id => "Module(".toList ++ id.text.toList ++ [')']
  | .intrinsic id => "Function(".toList ++ id.text.toList ++ [')']

/-- The characters of the text of each type in a list. -/
def charsEach : List Ty → List (List Char)
  | [] => []
  | ty :: rest => ty.chars :: charsEach rest

end

@[simp] theorem charsEach_eq_map (types : List Ty) : charsEach types = types.map chars := by
  induction types with
  | nil => rfl
  | cons ty rest ih => rw [charsEach, ih, List.map_cons]

/-- The text of a type. -/
def text (ty : Ty) : String := String.ofList ty.chars

/-- The characters of the text of an argument list. Unlike a tuple, a single argument has no
comma behind it. -/
def listChars (types : List Ty) : List Char := Listing.parenthesized (types.map chars)

/-- The text of an argument list. -/
def listText (types : List Ty) : String := String.ofList (listChars types)

end Ty

end KernelTyping
