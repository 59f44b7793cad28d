import KernelTyping.Table
import KernelTyping.Ty.Basic

set_option autoImplicit false

/-! # Members of a namespace

A namespace has members, each a type or a namespace inside it. The first declaration of a
member counts; a later one of the same name changes nothing but is remembered, so that the
whole map can be rejected for it. -/

namespace KernelTyping

/-- What a member of a namespace is. -/
inductive AttributeEntry where
  | type (ty : Ty)
  | nested (ns : NamespaceId)
  deriving DecidableEq

/-- The type of a member. -/
def AttributeEntry.ty : AttributeEntry → Ty
  | .type ty => ty
  | .nested ns => .scope ns

/-- The members of one namespace, with the names that were declared again. -/
structure AttributeMap where
  members : Table AttributeEntry
  repeated : List String

namespace AttributeMap

/-- The map without members. -/
def empty : AttributeMap := ⟨.empty, []⟩

/-- Declares a member, or notes that it was declared before. -/
def declare (m : AttributeMap) (name : String) (entry : AttributeEntry) : AttributeMap :=
  if m.members.contains name then { m with repeated := m.repeated ++ [name] }
  else { m with members := m.members.insert name entry }

/-- The map of a list of declarations. -/
def ofList (declarations : List (String × AttributeEntry)) : AttributeMap :=
  declarations.foldl (fun m d => m.declare d.1 d.2) empty

/-- Declares a member of the given type. -/
def withType (m : AttributeMap) (name : String) (ty : Ty) : AttributeMap :=
  m.declare name (.type ty)

/-- Declares a member that is an intrinsic. -/
def withIntrinsic (m : AttributeMap) (name : String) (id : IntrinsicId) : AttributeMap :=
  m.withType name (.intrinsic id)

/-- Declares a member that is a namespace. -/
def withNested (m : AttributeMap) (name : String) (ns : NamespaceId) : AttributeMap :=
  m.declare name (.nested ns)

/-- The member of a name. -/
def get? (m : AttributeMap) (name : String) : Option AttributeEntry := m.members.get? name

/-- The names of the members, ascending. -/
def names (m : AttributeMap) : List String := m.members.keys

/-- The number of members. -/
def size (m : AttributeMap) : Nat := m.members.size

/-- Whether there are no members. -/
def isEmpty (m : AttributeMap) : Bool := m.members.isEmpty

@[simp] theorem get?_empty (name : String) : empty.get? name = none := rfl

theorem get?_declare (m : AttributeMap) (name : String) (entry : AttributeEntry)
    (other : String) :
    (m.declare name entry).get? other =
      (m.get? other).or (if other = name then some entry else none) := by
  have h := Table.get?_insertNew m.members name entry other
  unfold Table.insertNew at h
  unfold declare get?
  cases hcontains : m.members.contains name <;> simpa [hcontains] using h

theorem repeated_declare (m : AttributeMap) (name : String) (entry : AttributeEntry) :
    (m.declare name entry).repeated =
      m.repeated ++ (if (m.get? name).isSome then [name] else []) := by
  unfold declare get?
  rw [← Table.contains]
  cases m.members.contains name <;> simp

/-- The names stand in ascending order. -/
theorem pairwise_names (m : AttributeMap) : m.names.Pairwise fun a b => a < b :=
  m.members.pairwise_keys

theorem mem_names_iff (m : AttributeMap) (name : String) :
    name ∈ m.names ↔ ∃ entry, m.get? name = some entry :=
  (m.members.mem_keys_iff name).trans (m.members.contains_iff name)

end AttributeMap

end KernelTyping
