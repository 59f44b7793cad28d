import KernelTyping.Attributes
import KernelTyping.Diagnostic
import KernelTyping.Event
import KernelTyping.Rule

set_option autoImplicit false

/-! # The registry and its builder

A registry holds the typing rules of intrinsics, the members of namespaces and the global
names. It is put together by a builder: each key can be registered once, and a registration
that fails changes nothing. A builder becomes a registry if every intrinsic and every
namespace that it refers to is registered; otherwise the first dangling reference is reported,
namespaces before globals, each in ascending order. -/

namespace KernelTyping

/-- Typing rules by intrinsic, members by namespace, and types by global name. -/
structure Registry where
  ruleTable : Table Rule
  namespaceTable : Table AttributeMap
  globalTable : Table Ty

namespace Registry

/-- The typing rule of an intrinsic. -/
def rule? (r : Registry) (id : IntrinsicId) : Option Rule := r.ruleTable.get? id.text

/-- The members of a namespace. -/
def attributes? (r : Registry) (ns : NamespaceId) : Option AttributeMap :=
  r.namespaceTable.get? ns.text

/-- The type of a global name. -/
def global? (r : Registry) (name : String) : Option Ty := r.globalTable.get? name

/-- The typing rules with their intrinsics, ascending. -/
def rules (r : Registry) : List (IntrinsicId × Rule) :=
  r.ruleTable.entries.map fun entry => (⟨entry.1⟩, entry.2)

/-- The namespaces with their members, ascending. -/
def namespaces (r : Registry) : List (NamespaceId × AttributeMap) :=
  r.namespaceTable.entries.map fun entry => (⟨entry.1⟩, entry.2)

/-- The global names with their types, ascending. -/
def globals (r : Registry) : List (String × Ty) := r.globalTable.entries

end Registry

/-- Why a registration or the making of a registry fails. -/
inductive RegistryError where
  | duplicateRule (id : IntrinsicId)
  | duplicateNamespace (ns : NamespaceId)
  | duplicateGlobal (name : String)
  | duplicateMember (ns : NamespaceId) (member : String)
  | unknownIntrinsic (referrer : String) (target : IntrinsicId)
  | unknownNamespace (referrer : String) (target : NamespaceId)
  deriving DecidableEq

namespace RegistryError

/-- The text of a registry error. -/
def message : RegistryError → String
  | .duplicateRule id => "typing rule for `" ++ id.text ++ "` is already registered"
  | .duplicateNamespace ns =>
    "attributes for namespace `" ++ ns.text ++ "` are already registered"
  | .duplicateGlobal name => "global `" ++ name ++ "` is already registered"
  | .duplicateMember ns member =>
    "namespace `" ++ ns.text ++ "` declares member `" ++ member ++ "` more than once"
  | .unknownIntrinsic referrer target =>
    "`" ++ referrer ++ "` refers to intrinsic `" ++ target.text ++ "`, which has no typing rule"
  | .unknownNamespace referrer target =>
    "`" ++ referrer ++ "` refers to namespace `" ++ target.text ++
      "`, which has no attributes"

/-- The category under which a registry error is reported. -/
def category : RegistryError → Category
  | .unknownIntrinsic _ _ | .unknownNamespace _ _ => .danglingReference
  | _ => .duplicateRegistration

/-- The diagnostic of a registry error. -/
def diagnostic (e : RegistryError) : Diagnostic := ⟨e.category, e.message, none⟩

end RegistryError

/-- One thing to register. -/
inductive Registration where
  | rule (id : IntrinsicId) (rule : Rule)
  | attributes (ns : NamespaceId) (members : AttributeMap)
  | global (name : String) (ty : Ty)

/-- What has been registered so far. -/
structure Builder where
  ruleTable : Table Rule
  namespaceTable : Table AttributeMap
  globalTable : Table Ty

namespace Builder

/-- The builder in which nothing is registered. -/
def empty : Builder := ⟨.empty, .empty, .empty⟩

/-! ## Registering -/

/-- Registers one thing. A map with a repeated member is refused before its namespace is
looked at. -/
def register (b : Builder) : Registration → Except RegistryError Builder
  | .rule id rule =>
    if b.ruleTable.contains id.text then .error (.duplicateRule id)
    else .ok { b with ruleTable := b.ruleTable.insert id.text rule }
  | .attributes ns members =>
    match members.repeated with
    -- the member whose second declaration came first is named
    | member :: _ => .error (.duplicateMember ns member)
    | [] =>
      if b.namespaceTable.contains ns.text then .error (.duplicateNamespace ns)
      else .ok { b with namespaceTable := b.namespaceTable.insert ns.text members }
  | .global name ty =>
    if b.globalTable.contains name then .error (.duplicateGlobal name)
    else .ok { b with globalTable := b.globalTable.insert name ty }

/-- Registers one thing if that is possible; otherwise the builder stays as it is and the
error is given. -/
def attempt (b : Builder) (item : Registration) : Builder × Option RegistryError :=
  match b.register item with
  | .ok b' => (b', none)
  | .error e => (b, some e)

/-- Registers a list of things in order up to the first that fails, and gives its error. -/
def registerAll (b : Builder) : List Registration → Builder × Option RegistryError
  | [] => (b, none)
  | item :: rest =>
    match b.register item with
    | .ok b' => b'.registerAll rest
    | .error e => (b, some e)

/-! ## Making a registry -/

/-- The types held by the builder, each with the name of its holder, in the order in which
they are checked. -/
def heldTypes (b : Builder) : List (String × Ty) :=
  (b.namespaceTable.entries.flatMap fun ns =>
    ns.2.members.entries.map fun member => (qualified ns.1 member.1, member.2.ty)) ++
  b.globalTable.entries

/-- The error of a reference to something that is not registered. -/
def danglingError? (b : Builder) (referrer : String) : Ty → Option RegistryError
  | .intrinsic target =>
    if b.ruleTable.contains target.text then none
    else some (.unknownIntrinsic referrer target)
  | .scope target =>
    if b.namespaceTable.contains target.text then none
    else some (.unknownNamespace referrer target)
  | _ => none

/-- The registry of all that is registered, unless a reference dangles; then the error of the
first that does. -/
def build (b : Builder) : Except RegistryError Registry :=
  match b.heldTypes.findSome? fun held => b.danglingError? held.1 held.2 with
  | some e => .error e
  | none => .ok ⟨b.ruleTable, b.namespaceTable, b.globalTable⟩

/-- The events of making a registry: one, with the sizes of the tables, if it is made. -/
def buildEvents (b : Builder) : List Event :=
  match b.build with
  | .ok r => [.registryBuilt r.ruleTable.size r.namespaceTable.size r.globalTable.size]
  | .error _ => []

end Builder

end KernelTyping
