set_option autoImplicit false

/-! # Edit distance

The least number of characters that have to be inserted, deleted or replaced to turn one text
into another. It is computed row by row: a row holds the distances from one beginning of the
first text to all beginnings of the second, and the row of the next longer beginning follows
from it. Two rows are enough. They change places after each character of the first text, so
the row that is filled next still holds the distances of an earlier beginning, which are
overwritten from the front to the back. -/

namespace KernelTyping.EditDistance

/-- The row that was filled last, and the one that is filled next. -/
structure Rows (size : Nat) where
  last : Vector Nat size
  next : Vector Nat size

/-- Fills a row behind its entry `j`, with one entry for each character of `rest`. It is the
row of a beginning that ends in `c`, and `above` the row of that beginning without `c`. -/
def fillFrom {size : Nat} (c : Char) (above : Vector Nat size) (j : Nat) :
    (rest : List Char) → j + rest.length < size → (row : Vector Nat size) → Vector Nat size
  | [], _, row => row
  | d :: rest, h, row =>
    have hrest : j + 1 + rest.length < size := by rw [List.length_cons] at h; omega
    have hj : j + 1 < size := by omega
    let deleted := above[j + 1] + 1
    let inserted := row[j] + 1
    let replaced := above[j] + if c = d then 0 else 1
    fillFrom c above (j + 1) rest hrest (row.set (j + 1) (min (min deleted inserted) replaced))

/-- Fills the next row for the character `c` behind the first `i` ones of the first text, and
lets the rows change places. -/
def fillNext (b : List Char) (i : Nat) (c : Char) (rows : Rows (b.length + 1)) :
    Rows (b.length + 1) where
  last := fillFrom c rows.last 0 b (by omega) (rows.next.set 0 (i + 1))
  next := rows.last

/-- Fills a row for each character that is left of the first text, of which `i` are done. -/
def fillAll (b : List Char) : (i : Nat) → (a : List Char) → Rows (b.length + 1) →
    Rows (b.length + 1)
  | _, [], rows => rows
  | i, c :: a, rows => fillAll b (i + 1) a (fillNext b i c rows)

/-- The rows before the first character: from the empty beginning to each beginning of `b`
there are as many insertions as it has characters. -/
def startRows (b : List Char) : Rows (b.length + 1) where
  last := .range (b.length + 1)
  next := .replicate (b.length + 1) 0

/-- The entry for the whole second text in the row that was filled last. -/
def Rows.lastEntry {n : Nat} (rows : Rows (n + 1)) : Nat := rows.last[n]

/-- The edit distance of two texts. -/
def distance (a b : List Char) : Nat := (fillAll b 0 a (startRows b)).lastEntry

end KernelTyping.EditDistance
