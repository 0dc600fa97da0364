namespace FieldTypes.Text

/-! Sets of characters, kept as closed ranges of code points in increasing
order.  A look-up stops at the first range that lies above the code point. -/

structure CodeRange where
  first : Nat
  last : Nat
deriving DecidableEq, Repr

def CodeRange.contains (range : CodeRange) (code : Nat) : Bool :=
  range.first ≤ code && code ≤ range.last

def inRanges : List CodeRange → Nat → Bool
  | [], _ => false
  | range :: later, code =>
      if code < range.first then false
      else code ≤ range.last || inRanges later code

end FieldTypes.Text
