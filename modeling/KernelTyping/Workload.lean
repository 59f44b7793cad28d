import KernelTyping.Cuda.Surface

set_option autoImplicit false

/-! # Call mixes

Lists of calls of the built-in intrinsics, of any length, that load each way of resolution:
tables, literals and atomics. Each mix goes round a few choices, so that the call at a place
does not depend on the length of the mix. -/

namespace KernelTyping

/-- A call without keyword arguments. -/
structure Call where
  id : IntrinsicId
  args : List Ty
  deriving DecidableEq

namespace Workload

/-- The bit manipulation at a place of its mix: three intrinsics over the integer types. -/
def tableCall (i : Nat) : Call :=
  let name := match i % 3 with | 0 => "popc" | 1 => "clz" | _ => "ffs"
  let scalar : Scalar :=
    match i % 8 with
    | 0 => .int8 | 1 => .int16 | 2 => .int32 | 3 => .int64
    | 4 => .uint8 | 5 => .uint16 | 6 => .uint32 | _ => .uint64
  ⟨Cuda.intrinsic name, [.scalar scalar]⟩

/-- The call at a place of the mix that depends on literals: by turns a grid query for one to
three dimensions and an array of one to three dimensions in shared memory. -/
def literalCall (i : Nat) : Call :=
  let ndim := i % 3 + 1
  if i % 2 = 0 then ⟨Cuda.intrinsic "grid", [.intLiteral (Int64.ofNat ndim)]⟩
  else
    ⟨Cuda.sharedMemory.member "array",
      [.uniTuple (.intLiteral 32) ndim, .numberClass (.scalar .float32)]⟩

/-- The atomic update at a place of its mix: three operations on arrays of one to three
dimensions, the last of an element type that it does not support. -/
def atomicCall (i : Nat) : Call :=
  let ndim := i % 3 + 1
  let index : Ty :=
    if ndim = 1 then .scalar .int64 else .uniTuple (.scalar .int64) ndim
  let (name, scalar) : String × Scalar :=
    match i % 3 with
    | 0 => ("add", .int32) | 1 => ("max", .float64) | _ => ("min", .int8)
  ⟨Cuda.atomic.member name,
    [.array (.scalar scalar) (UInt32.ofNat ndim), index, .scalar scalar]⟩

/-- So many calls of a mix. -/
def mix (call : Nat → Call) (count : Nat) : List Call := (List.range count).map call

/-- So many calls resolved by tables. -/
def tableCalls (count : Nat) : List Call := mix tableCall count

/-- So many calls whose result depends on literals. -/
def literalCalls (count : Nat) : List Call := mix literalCall count

/-- So many atomic updates. -/
def atomicCalls (count : Nat) : List Call := mix atomicCall count

/-- Dotted paths as they stand in the text of a kernel; the last leads nowhere. -/
def paths : List (List String) :=
  [["cuda", "threadIdx", "x"], ["cuda", "blockDim", "y"],
   ["cuda", "atomic", "compare_and_swap"], ["cuda", "shared", "array"], ["cuda", "laneid"],
   ["cuda", "missing"]]

end Workload

end KernelTyping
