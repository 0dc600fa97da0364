import FieldTypes.Text.Json

/-! The notation of JSON as a grammar.  White space may stand around every part, so that a
value has many texts, and the indented text that is printed is one of them. -/

namespace FieldTypes.Text.Json

def IsSpace (character : Char) : Prop :=
  character = ' ' ∨ character = '\n' ∨ character = '\r' ∨ character = '\t'

/-- A character in a string literal: it stands for itself, or it is escaped. -/
inductive SpellsCharacter : List Char → Char → Prop
  | plain {character : Char} : 32 ≤ character.toNat → character ≠ '"' → character ≠ '\\' →
      SpellsCharacter [character] character
  | quotationMark : SpellsCharacter ['\\', '"'] '"'
  | backslash : SpellsCharacter ['\\', '\\'] '\\'
  | solidus : SpellsCharacter ['\\', '/'] '/'
  | backspace : SpellsCharacter ['\\', 'b'] '\x08'
  | formFeed : SpellsCharacter ['\\', 'f'] '\x0c'
  | lineFeed : SpellsCharacter ['\\', 'n'] '\n'
  | carriageReturn : SpellsCharacter ['\\', 'r'] '\r'
  | tab : SpellsCharacter ['\\', 't'] '\t'
  | code {first second third fourth : Fin 16} {character : Char} :
      character.toNat = ((first * 16 + second) * 16 + third) * 16 + (fourth : Nat) →
      SpellsCharacter
        ['\\', 'u', Nat.digitChar first, Nat.digitChar second, Nat.digitChar third,
          Nat.digitChar fourth]
        character

inductive SpellsCharacters : List Char → List Char → Prop
  | nil : SpellsCharacters [] []
  | cons {piece text rest : List Char} {character : Char} : SpellsCharacter piece character →
      SpellsCharacters text rest → SpellsCharacters (piece ++ text) (character :: rest)

/-- What a text can spell: a value, or all that stands between two brackets. -/
inductive Part where
  | value (value : Json)
  | items (items : List Json)
  | fields (fields : List (String × Json))

inductive Spells : List Char → Part → Prop
  | padded {before text after : List Char} {part : Part} : (∀ space ∈ before, IsSpace space) →
      Spells text part → (∀ space ∈ after, IsSpace space) → Spells (before ++ text ++ after) part
  | null : Spells "null".toList (.value .null)
  | boolean_true : Spells "true".toList (.value (.boolean true))
  | boolean_false : Spells "false".toList (.value (.boolean false))
  | number (value : Nat) : Spells (Nat.toDigits 10 value) (.value (.number value))
  | text {value : String} {between : List Char} : SpellsCharacters between value.toList →
      Spells ('"' :: between ++ ['"']) (.value (.text value))
  | list {items : List Json} {between : List Char} : Spells between (.items items) →
      Spells ('[' :: between ++ [']']) (.value (.list items))
  | object {fields : List (String × Json)} {between : List Char} :
      Spells between (.fields fields) → Spells ('{' :: between ++ ['}']) (.value (.object fields))
  | noItems : Spells [] (.items [])
  | lastItem {item : Json} {text : List Char} : Spells text (.value item) →
      Spells text (.items [item])
  | item {item next : Json} {later : List Json} {text rest : List Char} :
      Spells text (.value item) → Spells rest (.items (next :: later)) →
      Spells (text ++ ',' :: rest) (.items (item :: next :: later))
  | noFields : Spells [] (.fields [])
  | lastField {name : String} {value : Json} {key text : List Char} :
      Spells key (.value (.text name)) → Spells text (.value value) →
      Spells (key ++ ':' :: text) (.fields [(name, value)])
  | field {name : String} {value : Json} {next : String × Json} {later : List (String × Json)}
      {key text rest : List Char} :
      Spells key (.value (.text name)) → Spells text (.value value) →
      Spells rest (.fields (next :: later)) →
      Spells (key ++ ':' :: text ++ ',' :: rest) (.fields ((name, value) :: next :: later))

/-! ## Strings -/

theorem controlEscape_eq {character : Char} (control : character.toNat < 32) :
    controlEscape character =
      ['\\', 'u', '0', '0', Nat.digitChar (character.toNat / 16),
        Nat.digitChar (character.toNat % 16)] := by
  have digits : ∀ code < 32, List.replicate (4 - (hexadecimal code).length) '0' ++
      hexadecimal code = ['0', '0', Nat.digitChar (code / 16), Nat.digitChar (code % 16)] := by
    decide
  rw [controlEscape, List.append_assoc, digits _ control]
  rfl

theorem spells_literalCharacter (character : Char) :
    SpellsCharacter (literalCharacter character) character := by
  rw [literalCharacter]
  split
  · next same => exact same ▸ .quotationMark
  split
  · next same => exact same ▸ .backslash
  split
  · next same => exact same ▸ .backspace
  split
  · next same => exact same ▸ .formFeed
  split
  · next same => exact same ▸ .lineFeed
  split
  · next same => exact same ▸ .carriageReturn
  split
  · next same => exact same ▸ .tab
  split
  · next control =>
      rw [controlEscape_eq control]
      refine @SpellsCharacter.code 0 0 ⟨character.toNat / 16, by omega⟩
        ⟨character.toNat % 16, by omega⟩ character ?_
      simp
      omega
  · next noQuotationMark noBackslash _ _ _ _ _ noControl =>
      exact .plain (Nat.le_of_not_lt noControl) noQuotationMark noBackslash

theorem spells_flatMap_literalCharacter (characters : List Char) :
    SpellsCharacters (characters.flatMap literalCharacter) characters := by
  induction characters with
  | nil => exact .nil
  | cons character rest induction => exact .cons (spells_literalCharacter character) induction

theorem spells_literal (text : String) : Spells (literal text).toList (.value (.text text)) := by
  rw [literal, String.toList_ofList]
  exact .text (spells_flatMap_literalCharacter text.toList)

/-! ## Layout -/

theorem isSpace_newLine (depth : Nat) : ∀ character ∈ (newLine depth).toList,
    IsSpace character := by
  intro character member
  rw [newLine, String.toList_ofList] at member
  rcases List.mem_cons.mp member with rfl | member
  · exact .inr (.inl rfl)
  · exact .inl (List.eq_of_mem_replicate member)

/-- Between the brackets stand the lines, with white space around them. -/
theorem exists_between_of_enclosed {depth : Nat} {opening closing : String}
    {lines : List String} {part : Part}
    (spells : Spells (("," ++ newLine (depth + 1)).intercalate lines).toList part) :
    ∃ between, (enclosed depth opening closing lines).toList =
      opening.toList ++ between ++ closing.toList ∧ Spells between part := by
  cases lines with
  | nil => exact ⟨[], by simp [enclosed], spells⟩
  | cons line rest =>
      refine ⟨_, ?_, .padded (isSpace_newLine (depth + 1)) spells (isSpace_newLine depth)⟩
      simp only [enclosed, String.toList_append, List.append_assoc]

theorem Spells.after_space {space text : String} {part : Part} (spells : Spells text.toList part)
    (blank : ∀ character ∈ space.toList, IsSpace character) :
    Spells (space ++ text).toList part := by
  have padded := spells.padded blank (List.forall_mem_nil _)
  rwa [List.append_nil, ← String.toList_append] at padded

theorem isSpace_space : ∀ character ∈ " ".toList, IsSpace character :=
  List.forall_mem_singleton.mpr (.inl rfl)

mutual
theorem spells_indented (depth : Nat) : ∀ value : Json,
    Spells (value.indented depth).toList (.value value)
  | .null => .null
  | .boolean true => .boolean_true
  | .boolean false => .boolean_false
  | .number value => by
      rw [indented, leaf, Nat.repr, String.toList_ofList]
      exact .number value
  | .text value => spells_literal value
  | .list items => by
      rcases exists_between_of_enclosed (spells_indentedItems (depth + 1) items) with
        ⟨between, same, spells⟩
      rw [indented, same]
      exact .list spells
  | .object fields => by
      rcases exists_between_of_enclosed (spells_indentedFields (depth + 1) fields) with
        ⟨between, same, spells⟩
      rw [indented, same]
      exact .object spells

theorem spells_indentedItems (depth : Nat) : ∀ items : List Json,
    Spells (("," ++ newLine depth).intercalate (indentedItems depth items)).toList (.items items)
  | [] => .noItems
  | [item] => .lastItem (spells_indented depth item)
  | item :: next :: later => by
      have rest := (spells_indentedItems depth (next :: later)).after_space (isSpace_newLine depth)
      have all := Spells.item (spells_indented depth item) rest
      simpa [indentedItems] using all

theorem spells_indentedFields (depth : Nat) : ∀ fields : List (String × Json),
    Spells (("," ++ newLine depth).intercalate (indentedFields depth fields)).toList
      (.fields fields)
  | [] => .noFields
  | [(name, value)] => by
      have own := (spells_indented depth value).after_space isSpace_space
      simpa [indentedFields] using Spells.lastField (spells_literal name) own
  | (name, value) :: next :: later => by
      have own := (spells_indented depth value).after_space isSpace_space
      have rest := (spells_indentedFields depth (next :: later)).after_space (isSpace_newLine depth)
      have all := Spells.field (spells_literal name) own rest
      simpa [indentedFields] using all
end

/-- The text that is printed for a value spells it. -/
theorem spells_pretty (value : Json) : Spells value.pretty.toList (.value value) :=
  spells_indented 0 value

end FieldTypes.Text.Json
