import KernelTyping.Rule
import KernelTyping.Shape

set_option autoImplicit false

/-! # Typers of the built-in intrinsics

The intrinsics whose typing depends on more than a list of signatures. Each typer finds
nothing for argument types outside its domain; only the grid queries refuse a literal for its
value. -/

namespace KernelTyping.Cuda

/-- The signature of a grid query that asks for so many dimensions: one dimension gives an
`int32`, two or three give a tuple of as many. -/
def gridDims : Typer
  | [ndim] =>
    match ndim.literalInt? with
    | none => .ok none
    | some n =>
      if n = 1 then .ok (some ⟨[.scalar .int32], .scalar .int32⟩)
      else if n = 2 then .ok (some ⟨[.scalar .int32], .uniTuple (.scalar .int32) 2⟩)
      else if n = 3 then .ok (some ⟨[.scalar .int32], .uniTuple (.scalar .int32) 3⟩)
      else .error ⟨.int n, "1, 2, or 3"⟩
  | _ => .ok none

/-- The types that can be selected from. -/
def selectTypes : List Ty :=
  [.scalar .float64, .scalar .float32, .scalar .int16, .scalar .uint16, .scalar .int32,
   .scalar .uint32, .scalar .int64, .scalar .uint64]

/-- The signature of a selection: both operands have one type that can be selected from. -/
def select : Typer
  | [test, a, b] => .ok (if a = b ∧ a ∈ selectTypes then some ⟨[test, a, a], a⟩ else none)
  | _ => .ok none

/-- The element types of arrays with an atomic maximum and minimum. -/
def orderedElemTypes : List Ty :=
  [.scalar .float64, .scalar .float32, .scalar .int32, .scalar .uint32, .scalar .int64,
   .scalar .uint64]

/-- The signature of an atomic update of an array element: an array of one dimension is
indexed by an integer as wide as a pointer, one of more dimensions by what it is indexed with,
and one of none by nothing. -/
def atomicUpdate (intp elem : Ty) (ndim : UInt32) (index : Ty) : Option Signature :=
  if ndim = 0 then none
  else if ndim = 1 then some ⟨[.array elem ndim, intp, elem], elem⟩
  else some ⟨[.array elem ndim, index, elem], elem⟩

/-- The typer of an atomic addition. -/
def atomicAdd (intp : Ty) : Typer
  | [.array elem ndim, index, _] => .ok (atomicUpdate intp elem ndim index)
  | _ => .ok none

/-- The typer of an atomic maximum or minimum. -/
def atomicMaxMin (intp : Ty) : Typer
  | [.array elem ndim, index, _] =>
    .ok (if elem ∈ orderedElemTypes then atomicUpdate intp elem ndim index else none)
  | _ => .ok none

/-- The typer of an atomic compare-and-swap, for `int32` arrays of one dimension. -/
def compareAndSwap : Typer
  | [.array elem ndim, _, _] =>
    .ok (if elem = .scalar .int32 ∧ ndim = 1 then
      some ⟨[.array elem ndim, .scalar .int32, .scalar .int32], .scalar .int32⟩ else none)
  | _ => .ok none

/-- The typer of an array allocation. The shape has to be static, whatever the parser makes of
it. -/
def allocate (parser : ArraySpecParser) : Typer
  | [shape, dtype] =>
    .ok (if shape.isStaticShape then
      match parser.rank shape, parser.elem dtype with
      | some ndim, some elem => some ⟨[shape, dtype], .array elem ndim⟩
      | _, _ => none
    else none)
  | _ => .ok none

/-- The typer of a copy of a constant array: an array like its argument. -/
def arrayLike : Typer
  | [.array elem ndim] => .ok (some ⟨[.array elem ndim], .array elem ndim⟩)
  | _ => .ok none

end KernelTyping.Cuda
