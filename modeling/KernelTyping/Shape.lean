import KernelTyping.Ty.Basic

set_option autoImplicit false

/-! # Shapes and element types of arrays

An intrinsic that allocates an array is told its extents and its element type at compile
time. The extents are known if the shape is an integer literal or a tuple of integer literals
(`staticExtents`); the element type is named by a number class or by a string literal. How a
shape and an element type are read can be replaced by the host: an `ArraySpecParser` is a pair
of such readers. -/

namespace KernelTyping

namespace Ty

/-- The extent that an integer literal states. The constant counts only over an integer base. -/
def extent? (ty : Ty) : Option Int64 := if ty.isInteger then ty.literalInt? else none

/-- The extents of a shape that is known at compile time, outermost first. -/
def staticExtents : Ty → Option (List Int64)
  | .tuple dims => dims.mapM extent?
  | other => other.extent?.map fun extent => [extent]

/-- Whether every extent of a shape is known at compile time. -/
def isStaticShape (shape : Ty) : Bool := shape.staticExtents.isSome

/-- The element type that a type names: the class of a number class, or the scalar spelled by
a string literal. -/
def namedElem? : Ty → Option Ty
  | .numberClass elem => some elem
  | .literal _ (.str spelling) => (Scalar.ofSpelling? spelling).map .scalar
  | _ => none

end Ty

/-- A way of reading the arguments of an array allocation: the number of dimensions of a
shape, and the element type that an argument names. -/
structure ArraySpecParser where
  rank : Ty → Option UInt32
  elem : Ty → Option Ty

namespace ArraySpecParser

/-- The usual reading: as many dimensions as there are extents, if 32 bits can hold their
number. -/
def standard : ArraySpecParser where
  rank shape := shape.staticExtents.bind fun extents =>
    if extents.length < UInt32.size then some (UInt32.ofNat extents.length) else none
  elem := Ty.namedElem?

/-- A reading that does not look at its arguments. -/
def constant (rank : Option UInt32) (elem : Option Ty) : ArraySpecParser where
  rank _ := rank
  elem _ := elem

end ArraySpecParser

end KernelTyping
