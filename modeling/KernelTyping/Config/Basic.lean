import KernelTyping.Diagnostic
import KernelTyping.Number.Shortest
import KernelTyping.Text.Quoted
import KernelTyping.Ty.Basic

set_option autoImplicit false

/-! # Engine configuration

What the engine has to know about its target: how wide a pointer is. A width can be given as a
number of bits, of which only 32 and 64 are supported, or as a JSON text (see
`KernelTyping.Config.Reader`). `ofPointerBits_eq_ok_iff` says which numbers of bits are taken. -/

namespace KernelTyping

/-- The properties of the target that typing depends on. -/
structure EngineConfig where
  pointerWidth : IntWidth
  deriving DecidableEq

/-- A value in a configuration text, as far as a fault speaks of it. -/
inductive FoundValue where
  | null
  | boolean (value : Bool)
  | integer (value : Int)
  | real (negative : Bool) (magnitude : Binary64)
  | string (value : String)
  | sequence
  | map
  deriving DecidableEq

/-- What should have stood in a configuration text. -/
inductive ExpectedValue where
  | pointerBits
  | config
  deriving DecidableEq

/-- What is wrong with the contents of a configuration text. -/
inductive ConfigFault where
  | unsupportedPointerWidth (bits : Nat)
  | unknownField (name : String)
  | duplicateField
  | wrongType (found : FoundValue) (expected : ExpectedValue)
  | outOfRange (value : Int)
  deriving DecidableEq

/-- Why there is no configuration. -/
inductive ConfigError where
  | unsupportedPointerWidth (bits : Nat)
  | content (fault : ConfigFault)
  | notJson
  deriving DecidableEq

/-! ## Texts -/

/-- A value as a fault shows it. -/
def FoundValue.text : FoundValue → String
  | .null => "null"
  | .boolean true => "boolean `true`"
  | .boolean false => "boolean `false`"
  | .integer value => "integer `" ++ String.ofList (Decimal.integer value) ++ "`"
  | .real negative magnitude =>
    "floating point `" ++ (if negative then "-" else "") ++ String.ofList magnitude.chars ++ "`"
  | .string value => "string " ++ Quoted.quotedString value
  | .sequence => "sequence"
  | .map => "map"

/-- The name of what should have stood in the text. -/
def ExpectedValue.text : ExpectedValue → String
  | .pointerBits => "u32"
  | .config => "struct RawEngineConfig"

/-- The text of an unsupported pointer width. -/
def unsupportedPointerWidthText (bits : Nat) : String :=
  "unsupported pointer width " ++ String.ofList (Decimal.natural bits) ++ "; expected 32 or 64"

/-- The name of the only field of a configuration. -/
def pointerWidthField : String := "pointer_width"

/-- The text of a fault. -/
def ConfigFault.text : ConfigFault → String
  | .unsupportedPointerWidth bits => unsupportedPointerWidthText bits
  | .unknownField name =>
    "unknown field `" ++ name ++ "`, expected `" ++ pointerWidthField ++ "`"
  | .duplicateField => "duplicate field `" ++ pointerWidthField ++ "`"
  | .wrongType found expected => "invalid type: " ++ found.text ++ ", expected " ++ expected.text
  | .outOfRange value =>
    "invalid value: " ++ (FoundValue.integer value).text ++ ", expected " ++
      ExpectedValue.pointerBits.text

/-- The text of a configuration error. -/
def ConfigError.message : ConfigError → String
  | .unsupportedPointerWidth bits => unsupportedPointerWidthText bits
  | .content fault => "invalid engine config: " ++ fault.text
  | .notJson => "invalid engine config: not a JSON text"

/-- The diagnostic of a configuration error. -/
def ConfigError.diagnostic (e : ConfigError) : Diagnostic := ⟨.config, e.message, none⟩

/-! ## Making a configuration -/

namespace EngineConfig

/-- Pointers have 64 bits unless something else is said. -/
def standard : EngineConfig := ⟨.w64⟩

/-- The configuration for pointers of so many bits. Integers have other widths too, but
pointers do not. -/
def ofPointerBits (bits : Nat) : Except ConfigError EngineConfig :=
  match IntWidth.ofBits? bits with
  | some .w32 => .ok ⟨.w32⟩
  | some .w64 => .ok ⟨.w64⟩
  | _ => .error (.unsupportedPointerWidth bits)

theorem ofPointerBits_eq_ok_iff (bits : Nat) (config : EngineConfig) :
    ofPointerBits bits = .ok config ↔
      (bits = 32 ∧ config = ⟨.w32⟩) ∨ (bits = 64 ∧ config = ⟨.w64⟩) := by
  by_cases h32 : bits = 32
  · subst h32
    simp [ofPointerBits, IntWidth.ofBits?, IntWidth.bits, eq_comm]
  · by_cases h64 : bits = 64
    · subst h64
      simp [ofPointerBits, IntWidth.ofBits?, IntWidth.bits, eq_comm]
    · by_cases h8 : bits = 8
      · subst h8
        simp [ofPointerBits, IntWidth.ofBits?, IntWidth.bits]
      · by_cases h16 : bits = 16
        · subst h16
          simp [ofPointerBits, IntWidth.ofBits?, IntWidth.bits]
        · simp [ofPointerBits, IntWidth.ofBits?, IntWidth.bits, h32, h64, eq_comm, h8, h16]

/-- The signed integer as wide as a pointer. -/
def intp (config : EngineConfig) : Ty := .scalar (.intp config.pointerWidth)

/-- The unsigned integer as wide as a pointer. -/
def uintp (config : EngineConfig) : Ty := .scalar (.uintp config.pointerWidth)

end EngineConfig

end KernelTyping
