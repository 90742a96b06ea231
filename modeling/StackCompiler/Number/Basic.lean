import StackCompiler.Number.Binary64

/-!
# Numbers

A number of a document is an integer of any size or a binary floating point number. `Number.isLt`
compares exactly.
-/

namespace StackCompiler

inductive Number where
  | int (n : Int)
  | float (x : Binary64)
  deriving DecidableEq, Repr

namespace Number

/-- Whether a number is below another one. -/
def isLt : Number → Number → Bool
  | int m, int n => m < n
  | int m, float y => Binary64.ratioIsLt m 1 y
  | float x, int n => x.isLtRatio n 1
  | float x, float y => x.isLt y

/-- The number less an integer; a floating point number is rounded. -/
def subInt : Number → Int → Number
  | int m, k => int (m - k)
  | float x, k => float (x.subInt k)

end Number
end StackCompiler
