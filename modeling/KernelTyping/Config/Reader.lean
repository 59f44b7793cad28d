import KernelTyping.Config.Basic
import KernelTyping.Text.JsonNumber
import KernelTyping.Text.JsonString

set_option autoImplicit false

/-! # Configuration texts

A configuration is written as a JSON object with at most the field `pointer_width`, or as a
JSON array of at most the width. The text is read from the left and the first fault found ends
the reading: the name of a field is judged as soon as its string ends, a value as soon as it
has been read (a list or an object at its bracket), and the width after the closing bracket,
before what stands behind it. -/

namespace KernelTyping.ConfigText

/-- Whether a character is blank between the tokens of JSON. -/
def isBlank (c : Char) : Bool := c = ' ' || c = '\t' || c = '\n' || c = '\r'

/-- The text without the blanks at its start. -/
def skipBlanks (s : List Char) : List Char := s.dropWhile isBlank

/-- Reads a JSON string behind its opening quote. -/
def readString (s : List Char) : Except ConfigError (String × List Char) :=
  match JsonString.decodeBody s with
  | some (chars, rest) => .ok (String.ofList chars, rest)
  | none => .error .notJson

/-- Reads a number. -/
def readNumber (s : List Char) : Except ConfigError (FoundValue × List Char) :=
  match JsonNumber.read s with
  | some (.integer value, rest) => .ok (.integer value, rest)
  | some (.real negative magnitude, rest) => .ok (.real negative magnitude, rest)
  | none => .error .notJson

/-- Reads a value as far as it takes to tell what it is: a list or an object up to its opening
bracket, any other value to its end. -/
def readValue : List Char → Except ConfigError (FoundValue × List Char)
  | [] => .error .notJson
  | c :: rest =>
    if c = '"' then (readString rest).map fun (value, rest) => (.string value, rest)
    else if c = '[' then .ok (.sequence, rest)
    else if c = '{' then .ok (.map, rest)
    else if c = '-' ∨ c.isDigit then readNumber (c :: rest)
    else
      match c :: rest with
      | 'n' :: 'u' :: 'l' :: 'l' :: rest => .ok (.null, rest)
      | 't' :: 'r' :: 'u' :: 'e' :: rest => .ok (.boolean true, rest)
      | 'f' :: 'a' :: 'l' :: 's' :: 'e' :: rest => .ok (.boolean false, rest)
      | _ => .error .notJson

/-- Reads the value of the width: an integer that 32 bits can hold. -/
def readBits (s : List Char) : Except ConfigError (Nat × List Char) := do
  match ← readValue (skipBlanks s) with
  | (.integer value, rest) =>
    if 0 ≤ value ∧ value < UInt32.size then return (value.toNat, rest)
    else throw (.content (.outOfRange value))
  | (found, _) => throw (.content (.wrongType found .pointerBits))

/-- The width if a text does not name one. -/
def defaultBits : Nat := 64

/-- Reads the name of a field behind its opening quote and gives the text behind it. -/
def readFieldName (s : List Char) : Except ConfigError (List Char) := do
  let (name, rest) ← readString s
  if name = pointerWidthField then return rest
  else throw (.content (.unknownField name))

/-- Reads a colon, with blanks in front of it, and gives the text behind it. -/
def readColon (s : List Char) : Except ConfigError (List Char) :=
  match skipBlanks s with
  | ':' :: rest => .ok rest
  | _ => .error .notJson

/-- Reads the end of an object behind its field and gives the text behind it. A second field is
a fault in any case. -/
def readObjectEnd (s : List Char) : Except ConfigError (List Char) :=
  match skipBlanks s with
  | '}' :: rest => .ok rest
  | ',' :: rest =>
    match skipBlanks rest with
    | '"' :: rest => do
      -- the name is either unknown or that of the field already read
      let _ ← readFieldName rest
      throw (.content .duplicateField)
    | _ => .error .notJson
  | _ => .error .notJson

/-- Reads an object behind its opening brace. -/
def readObject (s : List Char) : Except ConfigError (Nat × List Char) :=
  match skipBlanks s with
  | '}' :: rest => .ok (defaultBits, rest)
  | '"' :: rest => do
    let rest ← readFieldName rest
    let rest ← readColon rest
    let (bits, rest) ← readBits rest
    let rest ← readObjectEnd rest
    return (bits, rest)
  | _ => .error .notJson

/-- Reads a list behind its opening bracket. -/
def readList (s : List Char) : Except ConfigError (Nat × List Char) :=
  match skipBlanks s with
  | ']' :: rest => .ok (defaultBits, rest)
  | rest => do
    let (bits, rest) ← readBits rest
    match skipBlanks rest with
    | ']' :: rest => return (bits, rest)
    | _ => throw .notJson

/-- Reads the width from an object or a list. -/
def readWidth (s : List Char) : Except ConfigError (Nat × List Char) :=
  match skipBlanks s with
  | '{' :: rest => readObject rest
  | '[' :: rest => readList rest
  | rest => do
    let (found, _) ← readValue rest
    throw (.content (.wrongType found .config))

/-- The configuration for a width that a text names. -/
def judgeBits (bits : Nat) : Except ConfigError EngineConfig :=
  match EngineConfig.ofPointerBits bits with
  | .ok config => .ok config
  | .error _ => .error (.content (.unsupportedPointerWidth bits))

/-- Reads a whole configuration text. -/
def read (s : List Char) : Except ConfigError EngineConfig := do
  let (bits, rest) ← readWidth s
  let config ← judgeBits bits
  match skipBlanks rest with
  | [] => return config
  | _ => throw .notJson

end KernelTyping.ConfigText

namespace KernelTyping

/-- The configuration that a JSON text describes. -/
def EngineConfig.ofJson (text : String) : Except ConfigError EngineConfig :=
  ConfigText.read text.toList

end KernelTyping
