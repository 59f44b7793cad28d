set_option autoImplicit false

/-! # Identifiers

Intrinsics and namespaces are named by dotted texts such as `cuda.atomic.add`. The two kinds
of identifier are two types, so that an intrinsic and a namespace of one text stay apart. -/

namespace KernelTyping

/-- The name of an intrinsic. -/
structure IntrinsicId where
  text : String
  deriving DecidableEq

/-- The name of a namespace. -/
structure NamespaceId where
  text : String
  deriving DecidableEq

/-- The text of the name `name` inside `container`. -/
def qualified (container name : String) : String := container ++ "." ++ name

/-- The intrinsic `name` of a namespace. -/
def NamespaceId.member (ns : NamespaceId) (name : String) : IntrinsicId :=
  ⟨qualified ns.text name⟩

/-- The namespace `name` inside a namespace. -/
def NamespaceId.child (ns : NamespaceId) (name : String) : NamespaceId :=
  ⟨qualified ns.text name⟩

/-- Intrinsics in ascending order of their texts, by code points; equal ones stay in place. -/
def IntrinsicId.sort (ids : List IntrinsicId) : List IntrinsicId :=
  ids.mergeSort fun a b => decide (a.text ≤ b.text)

end KernelTyping
