import FieldTypes.Text.CodeRanges

namespace FieldTypes.Text

/-! The Unicode property White_Space. -/

def blankRanges : List CodeRange :=
  [
    ⟨9, 13⟩, ⟨32, 32⟩, ⟨133, 133⟩, ⟨160, 160⟩, ⟨5760, 5760⟩, ⟨8192, 8202⟩, ⟨8232, 8233⟩,
    ⟨8239, 8239⟩, ⟨8287, 8287⟩, ⟨12288, 12288⟩ ]

/-- Whether the character has the Unicode property White_Space. -/
def isBlank (character : Char) : Bool :=
  inRanges blankRanges character.toNat

/-- The text without the white space at its two ends. -/
def trimmed (text : List Char) : List Char :=
  ((text.dropWhile isBlank).reverse.dropWhile isBlank).reverse

end FieldTypes.Text
