import KernelTyping.Ty.Printer
import KernelTyping.Ty.Outline

set_option autoImplicit false

/-! # Signatures

A signature lists the parameter types of one overload of an intrinsic and the type of its
result. It is shown as `(int32, bool) -> none`. -/

namespace KernelTyping

/-- The parameter types and the result type of an overload. -/
structure Signature where
  params : List Ty
  ret : Ty
  deriving DecidableEq

namespace Signature

/-- The number of parameters. -/
def arity (sig : Signature) : Nat := sig.params.length

/-- The characters of the text of a signature. -/
def chars (sig : Signature) : List Char :=
  Ty.listChars sig.params ++ [' ', '-', '>', ' '] ++ sig.ret.chars

/-- The text of a signature. -/
def text (sig : Signature) : String := String.ofList sig.chars

/-- The outline of a signature. -/
def outline (sig : Signature) : String :=
  "Signature \x7b params: " ++ outlineOfList (sig.params.map Ty.outline) ++ ", ret: " ++
    sig.ret.outline ++ " \x7d"

end Signature

end KernelTyping
