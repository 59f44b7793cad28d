import KernelTyping.Number.Binary64

set_option autoImplicit false

/-! # Numbers in JSON text

A JSON number is an integer if it has neither a fraction nor an exponent and fits a signed or
an unsigned word of 64 bits; any other number is read as floating point. The digits of such a
number make up its significand as long as that fits 64 bits; the digits behind them count only
by their place. Minus zero is a floating-point number, for no integer has that sign. -/

namespace KernelTyping

/-- A number read from JSON text. -/
inductive JsonNumber where
  | integer (value : Int)
  | real (negative : Bool) (magnitude : Binary64)
  deriving DecidableEq

namespace JsonNumber

/-- The value of a decimal digit. -/
def digitValue (c : Char) : Nat := c.toNat - '0'.toNat

/-- Reads digits behind a significand as long as the significand stays below `2 ^ 64`: the
significand, the number of digits read, and the text from the first digit left out. -/
def takeDigits (significand : Nat) : List Char → Nat × Nat × List Char
  | [] => (significand, 0, [])
  | c :: rest =>
    let longer := significand * 10 + digitValue c
    if c.isDigit ∧ longer < UInt64.size then
      let (total, count, behind) := takeDigits longer rest
      (total, count + 1, behind)
    else (significand, 0, c :: rest)

/-- The number of digits at the start of a text, and the text behind them. -/
def skipDigits (s : List Char) : Nat × List Char :=
  ((s.takeWhile Char.isDigit).length, s.dropWhile Char.isDigit)

/-- What has been read of a number: the significand, the power of ten that goes with it, and
the text behind. -/
structure Scanned where
  significand : Nat
  exponent : Int
  rest : List Char

/-- Reads the digits before the point. A zero in front is the only digit. -/
def readWhole : List Char → Option Scanned
  | [] => none
  | c :: rest =>
    if c = '0' then
      match rest with
      | d :: _ => if d.isDigit then none else some ⟨0, 0, rest⟩
      | [] => some ⟨0, 0, rest⟩
    else if c.isDigit then
      let (significand, _, behind) := takeDigits 0 (c :: rest)
      let (left, behind) := skipDigits behind
      some ⟨significand, left, behind⟩
    else none

/-- Reads the point and the digits behind it, of which there must be one, if there is a
point. -/
def readFraction (p : Scanned) : Option (Bool × Scanned) :=
  match p.rest with
  | '.' :: d :: rest =>
    if d.isDigit then
      let (significand, count, behind) := takeDigits p.significand (d :: rest)
      some (true, ⟨significand, p.exponent - count, (skipDigits behind).2⟩)
    else none
  | '.' :: [] => none
  | _ => some (false, p)

/-- Reads the sign of an exponent: whether it is negative. -/
def readExponentSign : List Char → Bool × List Char
  | '+' :: rest => (false, rest)
  | '-' :: rest => (true, rest)
  | rest => (false, rest)

/-- Reads the letter `e` and the exponent behind it, of which there must be one digit, if there
is such a letter. -/
def readExponent (p : Scanned) : Option (Bool × Scanned) :=
  match p.rest with
  | c :: rest =>
    if c = 'e' ∨ c = 'E' then
      let (negative, digits) := readExponentSign rest
      match digits.takeWhile Char.isDigit with
      | [] => none
      | power =>
        let shift : Int := Nat.ofDigitChars 10 power 0
        let exponent := if negative then p.exponent - shift else p.exponent + shift
        some (true, ⟨p.significand, exponent, digits.dropWhile Char.isDigit⟩)
    else some (false, p)
  | [] => some (false, p)

/-- The number of a significand without fraction, exponent and digits left out. -/
def ofSignificand? (negative : Bool) (significand : Nat) : Option JsonNumber :=
  if !negative then some (.integer significand)
  else if significand = 0 ∨ 1 <<< 63 < significand then
    (Binary64.nearest? significand).map (.real true)
  else some (.integer (-significand))

/-- Reads a number behind its sign and gives the text behind the number. -/
def readUnsigned (negative : Bool) (s : List Char) : Option (JsonNumber × List Char) := do
  let whole ← readWhole s
  let (hasFraction, withFraction) ← readFraction whole
  let (hasExponent, final) ← readExponent withFraction
  let number ←
    -- digits that were left out leave an exponent too
    if hasFraction || hasExponent || final.exponent ≠ 0 then
      (Binary64.ofDecimal? final.significand final.exponent).map (.real negative)
    else ofSignificand? negative final.significand
  return (number, final.rest)

/-- Reads a number and gives the text behind it. There is no number if the text does not start
with one or the number is beyond the range of floating point. -/
def read : List Char → Option (JsonNumber × List Char)
  | '-' :: rest => readUnsigned true rest
  | s => readUnsigned false s

end JsonNumber

end KernelTyping
