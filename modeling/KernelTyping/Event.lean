import KernelTyping.Ident
import KernelTyping.Text.Quoted

set_option autoImplicit false

/-! # Log events

What the engine tells a log: one event for each thing that can happen, from which its level,
the part of the engine that sends it, its message and its fields follow. -/

namespace KernelTyping

/-- Something that the engine reports to a log. -/
inductive Event where
  | keywordArguments (id : IntrinsicId) (names : List String)
  | noTypingRule (id : IntrinsicId)
  | invalidLiteral (id : IntrinsicId) (error : String)
  | noMatchingOverload (id : IntrinsicId) (args : String)
  | resolved (id : IntrinsicId) (signature : String)
  | noAttributes (ns : NamespaceId)
  | unknownAttribute (ns : NamespaceId) (member : String)
  | registryBuilt (rules namespaces globals : Nat)
  deriving DecidableEq

/-- How grave an event is. -/
inductive Level where
  | error
  | debug
  | trace
  deriving DecidableEq

/-- The name of a level. -/
def Level.text : Level → String
  | .error => "ERROR"
  | .debug => "DEBUG"
  | .trace => "TRACE"

/-- The value of a field of an event. -/
inductive FieldValue where
  | text (value : String)
  | count (value : Nat)
  deriving DecidableEq

namespace Event

/-- The level of an event. -/
def level : Event → Level
  | .keywordArguments _ _ => .error
  | .resolved _ _ => .trace
  | _ => .debug

/-- The part of the engine that sends an event. -/
def target : Event → String
  | .registryBuilt _ _ _ => "simt::registry"
  | _ => "simt::resolve"

/-- The message of an event. -/
def message : Event → String
  | .keywordArguments _ _ => "keyword arguments passed to a built-in intrinsic"
  | .noTypingRule _ => "no typing rule registered"
  | .invalidLiteral _ _ => "invalid literal argument"
  | .noMatchingOverload _ _ => "no matching overload"
  | .resolved _ _ => "resolved"
  | .noAttributes _ => "no attributes registered"
  | .unknownAttribute _ _ => "unknown attribute"
  | .registryBuilt _ _ _ => "intrinsic registry built"

/-- A list of names in a log: each quoted, in square brackets. -/
def nameList (names : List String) : String :=
  "[" ++ ", ".intercalate (names.map Quoted.quotedString) ++ "]"

/-- The fields of an event beside its message, by name. -/
def fields : Event → List (String × FieldValue)
  | .keywordArguments id names =>
    [("intrinsic", .text id.text), ("names", .text (nameList names))]
  | .noTypingRule id => [("intrinsic", .text id.text)]
  | .invalidLiteral id error => [("intrinsic", .text id.text), ("error", .text error)]
  | .noMatchingOverload id args => [("intrinsic", .text id.text), ("args", .text args)]
  | .resolved id signature => [("intrinsic", .text id.text), ("signature", .text signature)]
  | .noAttributes ns => [("namespace", .text ns.text)]
  | .unknownAttribute ns member => [("namespace", .text ns.text), ("member", .text member)]
  | .registryBuilt rules namespaces globals =>
    [("rules", .count rules), ("namespaces", .count namespaces), ("globals", .count globals)]

end Event

end KernelTyping
