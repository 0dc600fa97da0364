import FieldTypes.Number.Shortest

namespace FieldTypes.Toml

/-! What a document means.  A table keeps its entries in the order of the
document, and no key occurs in it twice. -/

inductive Value where
  | text (content : String)
  | integer (number : Int)
  | decimal (number : Binary64)
  | boolean (truth : Bool)
  /-- A date, a time of day, or both, as it was written. -/
  | moment (content : String)
  | list (items : List Value)
  | table (entries : List (String × Value))

end FieldTypes.Toml
