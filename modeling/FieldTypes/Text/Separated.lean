namespace FieldTypes.Text

/-! Texts that consist of parts with a separator between any two of them. -/

/-- Cuts a text at every separator.  There is one part more than there are
separators. -/
def cutAt (separator : Char) : List Char → List (List Char)
  | [] => [[]]
  | character :: rest =>
      if character = separator then [] :: cutAt separator rest
      else match cutAt separator rest with
        | [] => [[character]]
        | first :: others => (character :: first) :: others

theorem cutAt_ne_nil (separator : Char) (text : List Char) : cutAt separator text ≠ [] := by
  cases text with
  | nil => simp [cutAt]
  | cons character rest =>
      rw [cutAt]
      split
      · simp
      · split <;> simp

end FieldTypes.Text
