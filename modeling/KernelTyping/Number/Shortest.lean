import KernelTyping.Number.Binary64
import KernelTyping.Text.Decimal

set_option autoImplicit false

/-! # The shortest decimal of a floating-point number

A number is written with the fewest decimal digits from which it can be read back. Among the
decimals with so few digits it is the nearest, a tie going to the even digit. The decimal is
laid out with a point if its leading digit stands at most sixteen places before or five places
behind the point, and otherwise with an exponent that always has a sign: `1e+16`, `1e-6`. -/

namespace KernelTyping

/-- A decimal number: digits times a power of ten. -/
structure DecimalForm where
  digits : Nat
  exponent : Int
  deriving DecidableEq

/-- The decimal as a rational. -/
def DecimalForm.value (d : DecimalForm) : Rat := d.digits * 10 ^ d.exponent

namespace Binary64

/-- Half the distance to the next number below, which is smaller under a power of two. -/
def halfGapBelow (x : Binary64) : Rat :=
  if x.significand = 1 <<< 52 ∧ minExponent < x.exponent then 2 ^ (x.exponent - 2)
  else 2 ^ (x.exponent - 1)

/-- Half the distance to the next number above. -/
def halfGapAbove (x : Binary64) : Rat := 2 ^ (x.exponent - 1)

/-- Whether a rational rounds to the number. The ends of the interval do if the significand is
even. -/
def readsBack (x : Binary64) (v : Rat) : Bool :=
  let low := x.value - x.halfGapBelow
  let high := x.value + x.halfGapAbove
  if x.significand % 2 = 0 then low ≤ v && v ≤ high else low < v && v < high

/-- The multiple of `10 ^ k` that is to stand for the number, if one next to it reads back. -/
def onGrid? (x : Binary64) (k : Int) : Option DecimalForm :=
  let scaled := x.value / 10 ^ k
  let below : DecimalForm := ⟨scaled.floor.toNat, k⟩
  let above : DecimalForm := ⟨scaled.floor.toNat + 1, k⟩
  match x.readsBack below.value, x.readsBack above.value with
  | true, true => some ⟨(roundEven scaled).toNat, k⟩
  | true, false => some below
  | false, true => some above
  | false, false => none

/-- The number itself as a decimal. -/
def exactDecimal (x : Binary64) : DecimalForm :=
  match x.exponent with
  | .ofNat e => ⟨x.significand <<< e, 0⟩
  | .negSucc e => ⟨x.significand * Nat.pow 5 (e + 1), .negSucc e⟩

/-- The shortest decimal of a number other than zero. Seventeen digits are always enough. -/
def shortest (x : Binary64) : DecimalForm :=
  let lead := leadingExponent 10 x.value
  ((List.range 17).findSome? fun (places : Nat) => x.onGrid? (lead - places)).getD x.exactDecimal

end Binary64

namespace DecimalForm

/-- The digits without trailing zeros, and the exponent that goes with them. -/
def trimmed (d : DecimalForm) : List Char × Int :=
  let digits := Decimal.natural d.digits
  let kept := (digits.reverse.dropWhile (· = '0')).reverse
  (kept, d.exponent + (digits.length - kept.length : Nat))

/-- The exponent of a decimal, behind the letter `e` and with its sign. -/
def exponentChars (exponent : Int) : List Char :=
  'e' :: if exponent < 0 then Decimal.integer exponent else '+' :: Decimal.integer exponent

/-- The text of a decimal: with at least one digit on each side of its point, or with an
exponent if the point stands too far from the leading digit. -/
def chars (d : DecimalForm) : List Char :=
  let (digits, exponent) := d.trimmed
  -- the place of the point, counted from the front of the digits
  let point := exponent + digits.length
  if 0 ≤ exponent ∧ point ≤ 16 then
    digits ++ List.replicate exponent.toNat '0' ++ ['.', '0']
  else if 0 < point ∧ point ≤ 16 then
    digits.take point.toNat ++ ['.'] ++ digits.drop point.toNat
  else if -5 < point ∧ point ≤ 0 then
    ['0', '.'] ++ List.replicate (-point).toNat '0' ++ digits
  else
    match digits with
    | [only] => only :: exponentChars (point - 1)
    | lead :: rest => [lead, '.'] ++ rest ++ exponentChars (point - 1)
    | [] => []

end DecimalForm

/-- The text of a floating-point number without its sign. -/
def Binary64.chars (x : Binary64) : List Char :=
  if x.significand = 0 then ['0', '.', '0'] else x.shortest.chars

end KernelTyping
