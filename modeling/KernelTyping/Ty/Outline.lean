import KernelTyping.Ty.Printer

set_option autoImplicit false

/-! # The outline of a type

The outline is the form in which a type is shown to someone who looks at the engine itself: every
constructor by name with all its fields, `Array(ArrayType { dtype: Bool, ndim: 1, … })`. -/

namespace KernelTyping

/-- The outline of a width of integers. -/
def IntWidth.outline : IntWidth → String
  | .w8 => "I8"
  | .w16 => "I16"
  | .w32 => "I32"
  | .w64 => "I64"

/-- The outline of signedness. -/
def Signedness.outline : Signedness → String
  | .signed => "Signed"
  | .unsigned => "Unsigned"

/-- The outline of a width of floating-point numbers. -/
def FloatWidth.outline : FloatWidth → String
  | .w16 => "F16"
  | .w32 => "F32"
  | .w64 => "F64"

/-- The outline of a scalar type. -/
def Scalar.outline : Scalar → String
  | .int width sign => "IntN(" ++ width.outline ++ ", " ++ sign.outline ++ ")"
  | .float width => "FloatN(" ++ width.outline ++ ")"
  | .bool => "Bool"

/-- The outline of a constant: its kind around its text. -/
def LiteralValue.outline : LiteralValue → String
  | .int value => "Int(" ++ (LiteralValue.int value).text ++ ")"
  | .bool value => "Bool(" ++ (LiteralValue.bool value).text ++ ")"
  | .str value => "Str(" ++ (LiteralValue.str value).text ++ ")"

/-- The outline of a list, in square brackets. -/
def outlineOfList (items : List String) : String := "[" ++ ", ".intercalate items ++ "]"

namespace Ty

mutual

/-- The outline of a type. -/
def outline : Ty → String
  | .scalar s => s.outline
  | .str => "Str"
  | .unit => "Unit"
  | .tuple elems => "Tuple(" ++ outlineOfList (outlineEach elems) ++ ")"
  | .array elem ndim =>
    "Array(ArrayType \x7b dtype: " ++ elem.outline ++ ", ndim: " ++
      String.ofList (Decimal.natural ndim.toNat) ++ ", layout: Contiguous \x7d)"
  | .literal base value =>
    "Literal(LiteralType \x7b base: " ++ base.outline ++ ", value: " ++ value.outline ++
      " \x7d)"
  | .numberClass of => "NumberClass(" ++ of.outline ++ ")"
  | .scope id => "Namespace(NamespaceId(" ++ Quoted.quotedString id.text ++ "))"
  | .intrinsic id => "Function(IntrinsicId(" ++ Quoted.quotedString id.text ++ "))"

/-- The outline of each type in a list. -/
def outlineEach : List Ty → List String
  | [] => []
  | ty :: rest => ty.outline :: outlineEach rest

end

@[simp] theorem outlineEach_eq_map (types : List Ty) :
    outlineEach types = types.map outline := by
  induction types with
  | nil => rfl
  | cons ty rest ih => rw [outlineEach, ih, List.map_cons]

end Ty

end KernelTyping
