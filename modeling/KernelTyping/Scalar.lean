set_option autoImplicit false

/-! # Scalar types

The fixed-width integers, the floating-point formats and the boolean, with their two
spellings: the canonical name (`uint16`) and the two-character storage code (`u2`).
`ofName?` and `ofSpelling?` read them back; `ofName?_name` and `ofSpelling?_code` say that
every scalar is read back from what is written for it. -/

namespace KernelTyping

/-- The widths that an integer can have, in bits. -/
inductive IntWidth where
  | w8
  | w16
  | w32
  | w64
  deriving DecidableEq

/-- The number of bits of a width. -/
def IntWidth.bits : IntWidth → Nat
  | .w8 => 8
  | .w16 => 16
  | .w32 => 32
  | .w64 => 64

/-- The width of so many bits, if integers have it. -/
def IntWidth.ofBits? (bits : Nat) : Option IntWidth :=
  [.w8, .w16, .w32, .w64].find? fun width => width.bits = bits

@[simp] theorem IntWidth.ofBits?_bits (width : IntWidth) :
    IntWidth.ofBits? width.bits = some width := by
  cases width <;> rfl

/-- Whether an integer type holds negative values. -/
inductive Signedness where
  | signed
  | unsigned
  deriving DecidableEq

/-- The widths that a floating-point number can have, in bits. -/
inductive FloatWidth where
  | w16
  | w32
  | w64
  deriving DecidableEq

/-- A scalar type. -/
inductive Scalar where
  | int (width : IntWidth) (sign : Signedness)
  | float (width : FloatWidth)
  | bool
  deriving DecidableEq

namespace Scalar

/-! ## The scalars by name

One constant for each scalar but the boolean, which is its own constructor. -/

def int8 : Scalar := .int .w8 .signed
def int16 : Scalar := .int .w16 .signed
def int32 : Scalar := .int .w32 .signed
def int64 : Scalar := .int .w64 .signed
def uint8 : Scalar := .int .w8 .unsigned
def uint16 : Scalar := .int .w16 .unsigned
def uint32 : Scalar := .int .w32 .unsigned
def uint64 : Scalar := .int .w64 .unsigned
def float16 : Scalar := .float .w16
def float32 : Scalar := .float .w32
def float64 : Scalar := .float .w64

/-- Every scalar type, once. -/
def all : List Scalar :=
  [int8, int16, int32, int64, uint8, uint16, uint32, uint64, float16, float32, float64, bool]

theorem mem_all (s : Scalar) : s ∈ all := by
  rcases s with ⟨width, sign⟩ | width | _
  · cases width <;> cases sign <;> decide
  · cases width <;> decide
  · decide

/-! ## Spellings -/

/-- The canonical name. -/
def name : Scalar → String
  | .int .w8 .signed => "int8"
  | .int .w16 .signed => "int16"
  | .int .w32 .signed => "int32"
  | .int .w64 .signed => "int64"
  | .int .w8 .unsigned => "uint8"
  | .int .w16 .unsigned => "uint16"
  | .int .w32 .unsigned => "uint32"
  | .int .w64 .unsigned => "uint64"
  | .float .w16 => "float16"
  | .float .w32 => "float32"
  | .float .w64 => "float64"
  | .bool => "bool"

/-- The storage code: a letter for the kind and the size in bytes. -/
def code : Scalar → String
  | .int .w8 .signed => "i1"
  | .int .w16 .signed => "i2"
  | .int .w32 .signed => "i4"
  | .int .w64 .signed => "i8"
  | .int .w8 .unsigned => "u1"
  | .int .w16 .unsigned => "u2"
  | .int .w32 .unsigned => "u4"
  | .int .w64 .unsigned => "u8"
  | .float .w16 => "f2"
  | .float .w32 => "f4"
  | .float .w64 => "f8"
  | .bool => "b1"

/-- The scalar of a canonical name; the boolean is also found under `bool_`. -/
def ofName? (text : String) : Option Scalar :=
  if text = "bool_" then some .bool else all.find? fun s => s.name = text

/-- The scalar of a canonical name or a storage code; `?` is a second code of the boolean. -/
def ofSpelling? (text : String) : Option Scalar :=
  (ofName? text).or <|
    if text = "?" then some .bool else all.find? fun s => s.code = text

@[simp] theorem ofName?_name (s : Scalar) : ofName? s.name = some s := by
  rcases s with ⟨width, sign⟩ | width | _
  · cases width <;> cases sign <;> decide
  · cases width <;> decide
  · decide

@[simp] theorem ofSpelling?_name (s : Scalar) : ofSpelling? s.name = some s := by
  simp [ofSpelling?]

@[simp] theorem ofSpelling?_code (s : Scalar) : ofSpelling? s.code = some s := by
  rcases s with ⟨width, sign⟩ | width | _
  · cases width <;> cases sign <;> decide
  · cases width <;> decide
  · decide

/-- Different scalars have different names. -/
theorem name_inj {s t : Scalar} : s.name = t.name ↔ s = t := by
  refine ⟨fun h => ?_, congrArg name⟩
  have hs := ofName?_name s
  rw [h, ofName?_name] at hs
  exact (Option.some.inj hs).symm

/-- The signed integer as wide as a pointer. -/
def intp (pointerWidth : IntWidth) : Scalar := .int pointerWidth .signed

/-- The unsigned integer as wide as a pointer. -/
def uintp (pointerWidth : IntWidth) : Scalar := .int pointerWidth .unsigned

end Scalar

end KernelTyping
