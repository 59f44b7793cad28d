import KernelTyping.Ident
import KernelTyping.Scalar

set_option autoImplicit false

/-! # Types

What an argument of an intrinsic call can be at compile time: scalars, tuples, contiguous
arrays, literals that carry their value, and the compile-time names of scalar types,
namespaces and intrinsics. A literal behaves as its base type wherever a plain type is
expected; `unliteral` is that base type, which is never itself a literal
(`isLiteral_unliteral`). Equality of types is decidable (`same_iff_eq`). -/

namespace KernelTyping

/-- A constant known at compile time. -/
inductive LiteralValue where
  | int (value : Int64)
  | bool (value : Bool)
  | str (value : String)
  deriving DecidableEq

/-- The type of an argument or a result. Arrays are contiguous in row-major order and have a
number of dimensions, not extents. The value of a literal need not fit its base. A scope is a
reference to a namespace, a number class the name of a scalar type used as a value. -/
inductive Ty where
  | scalar (s : Scalar)
  | str
  | unit
  | tuple (elems : List Ty)
  | array (elem : Ty) (ndim : UInt32)
  | literal (base : Ty) (value : LiteralValue)
  | numberClass (of : Ty)
  | scope (id : NamespaceId)
  | intrinsic (id : IntrinsicId)

namespace Ty

/-! ## Equality -/

mutual

/-- Whether two types are the same. -/
def same : Ty → Ty → Bool
  | .scalar s, .scalar t => s = t
  | .str, .str => true
  | .unit, .unit => true
  | .tuple as, .tuple bs => sameList as bs
  | .array a m, .array b n => same a b && m = n
  | .literal a v, .literal b w => same a b && v = w
  | .numberClass a, .numberClass b => same a b
  | .scope a, .scope b => a = b
  | .intrinsic a, .intrinsic b => a = b
  | _, _ => false

/-- Whether two lists of types are the same. -/
def sameList : List Ty → List Ty → Bool
  | [], [] => true
  | a :: as, b :: bs => same a b && sameList as bs
  | _, _ => false

end

mutual

theorem same_iff_eq : ∀ a b : Ty, same a b = true ↔ a = b
  | .scalar _, b => by cases b <;> simp [same]
  | .str, b => by cases b <;> simp [same]
  | .unit, b => by cases b <;> simp [same]
  | .tuple as, b => by
    cases b with
    | tuple bs => simp [same, sameList_iff_eq as bs]
    | _ => simp [same]
  | .array a _, b => by
    cases b with
    | array b _ => simp [same, same_iff_eq a b]
    | _ => simp [same]
  | .literal a _, b => by
    cases b with
    | literal b _ => simp [same, same_iff_eq a b]
    | _ => simp [same]
  | .numberClass a, b => by
    cases b with
    | numberClass b => simp [same, same_iff_eq a b]
    | _ => simp [same]
  | .scope _, b => by cases b <;> simp [same]
  | .intrinsic _, b => by cases b <;> simp [same]

theorem sameList_iff_eq : ∀ as bs : List Ty, sameList as bs = true ↔ as = bs
  | [], bs => by cases bs <;> simp [sameList]
  | a :: as, bs => by
    cases bs with
    | nil => simp [sameList]
    | cons b bs => simp [sameList, same_iff_eq a b, sameList_iff_eq as bs]

end

instance : DecidableEq Ty := fun a b => decidable_of_iff (same a b = true) (same_iff_eq a b)

/-! ## Building types -/

/-- The type of an integer constant: its base is `int64`, whatever the value. -/
def intLiteral (value : Int64) : Ty := .literal (.scalar .int64) (.int value)

/-- The type of a boolean constant. -/
def boolLiteral (value : Bool) : Ty := .literal (.scalar .bool) (.bool value)

/-- The type of a string constant. -/
def strLiteral (value : String) : Ty := .literal .str (.str value)

/-- The tuple of `count` elements of one type. -/
def uniTuple (elem : Ty) (count : Nat) : Ty := .tuple (List.replicate count elem)

/-! ## Literals -/

/-- The type that a literal behaves as, with every literal around it removed. -/
def unliteral : Ty → Ty
  | .literal base _ => base.unliteral
  | other => other

/-- The constant of the outermost literal, if the type is a literal. -/
def literalValue? : Ty → Option LiteralValue
  | .literal _ value => some value
  | _ => none

/-- The constant of the outermost literal, if it is an integer. -/
def literalInt? : Ty → Option Int64
  | .literal _ (.int value) => some value
  | _ => none

/-- Whether the type is a literal. -/
def isLiteral (ty : Ty) : Bool := ty.literalValue?.isSome

@[simp] theorem unliteral_literal (base : Ty) (value : LiteralValue) :
    (literal base value).unliteral = base.unliteral := rfl

theorem isLiteral_unliteral (ty : Ty) : ty.unliteral.isLiteral = false := by
  fun_induction unliteral ty with
  | case1 _ _ ih => exact ih
  | case2 other h =>
    cases other with
    | literal base value => exact absurd rfl (h base value)
    | _ => rfl

theorem unliteral_of_not_isLiteral {ty : Ty} (h : ty.isLiteral = false) : ty.unliteral = ty := by
  cases ty with
  | literal base value => simp [isLiteral, literalValue?] at h
  | _ => rfl

@[simp] theorem unliteral_unliteral (ty : Ty) : ty.unliteral.unliteral = ty.unliteral :=
  unliteral_of_not_isLiteral ty.isLiteral_unliteral

/-- Whether the type behaves as an integer, be it a literal or not. -/
def isInteger (ty : Ty) : Bool :=
  match ty.unliteral with
  | .scalar (.int _ _) => true
  | _ => false

end Ty

end KernelTyping
