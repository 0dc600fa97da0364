import FieldTypes.Text.Blank

namespace FieldTypes.Text

/-! A reader takes characters from the front of a text.  It gives back a value
together with the characters that it left, and a proof that these are fewer than
some limit.  Loops over readers end because of that proof. -/

structure Read (α : Type) (limit : Nat) where
  value : α
  rest : List Char
  within : rest.length < limit

namespace Read

def widen {α : Type} {limit wider : Nat} (enough : limit ≤ wider) (read : Read α limit) :
    Read α wider :=
  ⟨read.value, read.rest, Nat.lt_of_lt_of_le read.within enough⟩

def map {α β : Type} {limit : Nat} (transform : α → β) (read : Read α limit) :
    Read β limit :=
  ⟨transform read.value, read.rest, read.within⟩

end Read

def skipBlank (text : List Char) : List Char :=
  text.dropWhile isBlank

theorem length_dropWhile_le (accepts : Char → Bool) (text : List Char) :
    (text.dropWhile accepts).length ≤ text.length :=
  (List.dropWhile_sublist accepts).length_le

theorem length_skipBlank_le (text : List Char) : (skipBlank text).length ≤ text.length :=
  length_dropWhile_le isBlank text

/-- Takes the character if it comes next after any white space. -/
def symbol? (expected : Char) (text : List Char) : Option (Read Unit text.length) :=
  match found : skipBlank text with
  | [] => none
  | character :: rest =>
      if character = expected then
        some ⟨(), rest, by
          have shorter := length_skipBlank_le text
          rw [found, List.length_cons] at shorter
          omega⟩
      else none

/-! Positions in a text are counted in bytes of UTF-8. -/

def byteLength : List Char → Nat
  | [] => 0
  | character :: rest => character.utf8Size + byteLength rest

/-- Where the unread part of a text begins. -/
def byteOffset (text rest : List Char) : Nat :=
  byteLength text - byteLength rest

theorem byteLength_append : ∀ left right : List Char,
    byteLength (left ++ right) = byteLength left + byteLength right
  | [], right => (Nat.zero_add _).symm
  | character :: rest, right => by
      rw [List.cons_append, byteLength, byteLength, byteLength_append rest right,
        Nat.add_assoc]

end FieldTypes.Text
