import KernelTyping.Config.Basic
import KernelTyping.Cuda.Typers
import KernelTyping.Registry

set_option autoImplicit false

/-! # The built-in surface

All that is reachable from the global name `cuda`, and the number classes, as one list of
registrations (`surface`): synchronisation and fences, warp primitives, bit manipulation, grid
queries, selection, array allocation, atomics and thread geometry. Only the atomics and the
names `intp` and `uintp` depend on the configuration, only the array allocations on the
parser. -/

namespace KernelTyping.Cuda

/-! ## Namespaces -/

/-- The root namespace. -/
def root : NamespaceId := ⟨"cuda"⟩

/-- The namespace of arrays in shared memory. -/
def sharedMemory : NamespaceId := root.child "shared"

/-- The namespace of arrays in local memory. -/
def localMemory : NamespaceId := root.child "local"

/-- The namespace of arrays in constant memory. -/
def constantMemory : NamespaceId := root.child "const"

/-- The namespace of atomic operations. -/
def atomic : NamespaceId := root.child "atomic"

/-- The namespace of the triples that give a thread its place. -/
def dim3 : NamespaceId := root.child "dim3"

/-- The intrinsic of a name in the root namespace. -/
def intrinsic (name : String) : IntrinsicId := root.member name

/-! ## Fixed tables -/

/-- The table of one signature without parameters and result. -/
def effect : Rule := .fixedTable [⟨[], .unit⟩]

/-- The table of one signature from `int32` to `int32`. -/
def countToCount : Rule := .fixedTable [⟨[.scalar .int32], .scalar .int32⟩]

/-- The integer types in the order in which bit manipulation tries them. -/
def bitTypes : List Ty :=
  [.scalar .int8, .scalar .int16, .scalar .int32, .scalar .int64, .scalar .uint8,
   .scalar .uint16, .scalar .uint32, .scalar .uint64]

/-- The types of the values that a warp exchanges, in the order in which they are tried. -/
def warpTypes : List Ty :=
  [.scalar .int32, .scalar .int64, .scalar .float32, .scalar .float64]

/-- A value together with whether all lanes agreed. -/
def withPredicate (ty : Ty) : Ty := .tuple [ty, .scalar .bool]

/-- The table of the signatures that keep the type of one operand. -/
def unary (types : List Ty) : Rule := .fixedTable (types.map fun ty => ⟨[ty], ty⟩)

/-- The intrinsics of the root namespace that are typed by a table, in order. -/
def tableRules : List (String × Rule) :=
  [("syncthreads", effect),
   ("syncthreads_count", countToCount),
   ("syncthreads_and", countToCount),
   ("syncthreads_or", countToCount),
   ("threadfence", effect),
   ("threadfence_block", effect),
   ("threadfence_system", effect),
   ("syncwarp", .fixedTable [⟨[.scalar .int32], .unit⟩]),
   ("shfl_sync_intrinsic", .fixedTable (warpTypes.map fun ty =>
      ⟨[.scalar .int32, .scalar .int32, ty, .scalar .int32, .scalar .int32],
        withPredicate ty⟩)),
   ("vote_sync_intrinsic", .fixedTable
      [⟨[.scalar .int32, .scalar .int32, .scalar .bool], withPredicate (.scalar .int32)⟩]),
   ("match_any_sync", .fixedTable (warpTypes.map fun ty =>
      ⟨[.scalar .int32, ty], .scalar .int32⟩)),
   ("match_all_sync", .fixedTable (warpTypes.map fun ty =>
      ⟨[.scalar .int32, ty], withPredicate (.scalar .int32)⟩)),
   ("popc", unary bitTypes),
   ("clz", unary bitTypes),
   ("ffs", unary bitTypes),
   ("brev", unary [.scalar .uint32, .scalar .uint64]),
   ("fma", .fixedTable ([.scalar .float32, .scalar .float64].map fun ty => ⟨[ty, ty, ty], ty⟩))]

/-! ## Computed rules -/

/-- The intrinsics of the root namespace that are typed by a typer, in order. -/
def computedRules : List (String × Rule) :=
  [("grid", .closureFactory fun _ => gridDims),
   ("gridsize", .closureFactory fun _ => gridDims),
   ("selp", .predicate select)]

/-- All intrinsics of the root namespace, in order. -/
def rootRules : List (String × Rule) := tableRules ++ computedRules

/-- The atomic operations, in order. -/
def atomicRules (config : EngineConfig) : List (String × Rule) :=
  [("add", .predicate (atomicAdd config.intp)),
   ("max", .predicate (atomicMaxMin config.intp)),
   ("min", .predicate (atomicMaxMin config.intp)),
   ("compare_and_swap", .predicate compareAndSwap)]

/-! ## Members -/

/-- The declarations of the members of a namespace that are intrinsics. -/
def intrinsicMembers (ns : NamespaceId) (rules : List (String × Rule)) :
    List (String × AttributeEntry) :=
  rules.map fun rule => (rule.1, .type (.intrinsic (ns.member rule.1)))

/-- The declarations of the members of the root namespace that are no intrinsics. -/
def rootValues : List (String × AttributeEntry) :=
  [("threadIdx", .nested dim3),
   ("blockIdx", .nested dim3),
   ("blockDim", .nested dim3),
   ("gridDim", .nested dim3),
   ("warpsize", .type (.scalar .int32)),
   ("laneid", .type (.scalar .int32)),
   ("shared", .nested sharedMemory),
   ("local", .nested localMemory),
   ("const", .nested constantMemory),
   ("atomic", .nested atomic)]

/-- The declarations of the members of a triple. -/
def dim3Members : List (String × AttributeEntry) :=
  [("x", .type (.scalar .int32)), ("y", .type (.scalar .int32)), ("z", .type (.scalar .int32))]

/-- The scalars that have a global name, with that name. -/
def numberClasses : List (String × Scalar) :=
  [("int8", .int8), ("int16", .int16), ("int32", .int32), ("int64", .int64), ("uint8", .uint8),
   ("uint16", .uint16), ("uint32", .uint32), ("uint64", .uint64), ("float16", .float16),
   ("float32", .float32), ("float64", .float64), ("bool_", .bool)]

/-! ## The surface -/

/-- The registrations of the rules of intrinsics in one namespace. -/
def registerRules (ns : NamespaceId) (rules : List (String × Rule)) : List Registration :=
  rules.map fun rule => .rule (ns.member rule.1) rule.2

/-- The registration of the members of a namespace. -/
def registerMembers (ns : NamespaceId) (members : List (String × AttributeEntry)) :
    Registration :=
  .attributes ns (.ofList members)

/-- The registrations of a namespace with nothing but intrinsics. -/
def registerNamespace (ns : NamespaceId) (rules : List (String × Rule)) : List Registration :=
  registerRules ns rules ++ [registerMembers ns (intrinsicMembers ns rules)]

/-- The registration of the global name of a number class. -/
def registerClass (name : String) (of : Ty) : Registration := .global name (.numberClass of)

/-- All registrations of the built-in surface, in order. -/
def surface (config : EngineConfig) (parser : ArraySpecParser) : List Registration :=
  registerRules root rootRules ++
  registerNamespace sharedMemory [("array", .closureFactory fun _ => allocate parser)] ++
  registerNamespace localMemory [("array", .closureFactory fun _ => allocate parser)] ++
  registerNamespace constantMemory [("array_like", .closureFactory fun _ => arrayLike)] ++
  registerNamespace atomic (atomicRules config) ++
  [registerMembers dim3 dim3Members,
   registerMembers root (intrinsicMembers root rootRules ++ rootValues),
   .global root.text (.scope root)] ++
  numberClasses.map (fun entry => registerClass entry.1 (.scalar entry.2)) ++
  [registerClass "intp" config.intp, registerClass "uintp" config.uintp]

/-- Adds the built-in surface to a builder, up to the first thing that is registered
already. -/
def declare (b : Builder) (config : EngineConfig) (parser : ArraySpecParser) :
    Builder × Option RegistryError :=
  b.registerAll (surface config parser)

/-- The builder with the built-in surface alone, unless it clashes with itself. -/
def surfaceBuilder (config : EngineConfig) (parser : ArraySpecParser) :
    Except RegistryError Builder :=
  match declare .empty config parser with
  | (b, none) => .ok b
  | (_, some e) => .error e

/-- The registry of the built-in surface. -/
def registry (config : EngineConfig) (parser : ArraySpecParser) :
    Except RegistryError Registry :=
  (surfaceBuilder config parser).bind Builder.build

/-- The registry of the built-in surface with the usual configuration and parser. -/
def standardRegistry : Except RegistryError Registry := registry .standard .standard

end KernelTyping.Cuda
