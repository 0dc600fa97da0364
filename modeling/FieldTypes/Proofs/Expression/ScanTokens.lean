import FieldTypes.Proofs.Expression.Scan
import FieldTypes.Proofs.Expression.Readers

/-! What a scan makes of single characters and of names.  As long as the cursor stands at an
unread part of the text, no cut goes through a character, every turn of a loop makes
progress, and the scan leaves what the readers of white space, symbols and names leave. -/

namespace FieldTypes

namespace Text

variable {text rest before : List Char}

theorem byteOffset_append (before rest : List Char) :
    byteOffset (before ++ rest) rest = byteLength before := by
  rw [byteOffset, byteLength_append, Nat.add_sub_cancel]

theorem byteLength_le_of_suffix (suffix : rest <:+ text) : byteLength rest ≤ byteLength text := by
  rcases suffix with ⟨before, rfl⟩
  rw [byteLength_append]
  exact Nat.le_add_left ..

theorem byteLength_lt_of_suffix (suffix : rest <:+ text) (shorter : rest.length < text.length) :
    byteLength rest < byteLength text := by
  rcases suffix with ⟨before, rfl⟩
  cases before with
  | nil => exact absurd shorter (Nat.lt_irrefl _)
  | cons character later =>
      have positive := character.utf8Size_pos
      rw [byteLength_append, byteLength]
      omega

/-- Behind a character less is left. -/
theorem byteLength_lt_of_cons_suffix {character : Char} (suffix : character :: rest <:+ text) :
    byteLength rest < byteLength text :=
  byteLength_lt_of_suffix ((List.suffix_cons character rest).trans suffix) suffix.length_le

theorem skipBlank_suffix (text : List Char) : skipBlank text <:+ text :=
  List.dropWhile_suffix _

end Text

namespace Expression

open Text

theorem cutAtByte?_eq_some_iff {text before rest : List Char} {offset : Nat} :
    cutAtByte? text offset = some (before, rest) ↔
      text = before ++ rest ∧ offset = byteLength before := by
  induction text generalizing offset before with
  | nil =>
      cases offset with
      | zero =>
          rw [cutAtByte?, Option.some.injEq, Prod.mk.injEq]
          constructor
          · rintro ⟨rfl, rfl⟩
            exact ⟨rfl, rfl⟩
          · rintro ⟨empty, -⟩
            rcases List.append_eq_nil_iff.mp empty.symm with ⟨rfl, rfl⟩
            exact ⟨rfl, rfl⟩
      | succ offset =>
          refine iff_of_false (fun cut => by cases cut) ?_
          rintro ⟨empty, bytes⟩
          rcases List.append_eq_nil_iff.mp empty.symm with ⟨rfl, -⟩
          cases bytes
  | cons character later induction =>
      have positive := character.utf8Size_pos
      cases offset with
      | zero =>
          rw [cutAtByte?, Option.some.injEq, Prod.mk.injEq]
          constructor
          · rintro ⟨rfl, rfl⟩
            exact ⟨rfl, rfl⟩
          · rintro ⟨whole, bytes⟩
            cases before with
            | nil => exact ⟨rfl, whole⟩
            | cons first more =>
                have firstPositive := first.utf8Size_pos
                rw [byteLength] at bytes
                omega
      | succ offset =>
          rw [cutAtByte?]
          cases before with
          | nil =>
              refine iff_of_false ?_ (fun both => by cases both.2)
              split
              · simp
              · simp
          | cons first more =>
              rw [byteLength, List.cons_append, List.cons.injEq]
              split
              · next inside =>
                  refine iff_of_false (fun cut => by cases cut) ?_
                  rintro ⟨⟨rfl, -⟩, bytes⟩
                  omega
              · next beyond =>
                  rw [Option.map_eq_some_iff]
                  constructor
                  · rintro ⟨⟨inner, innerRest⟩, found, same⟩
                    cases same
                    rcases induction.mp found with ⟨rfl, bytes⟩
                    refine ⟨⟨rfl, rfl⟩, ?_⟩
                    dsimp only
                    omega
                  · rintro ⟨⟨rfl, whole⟩, bytes⟩
                    exact ⟨(more, rest), induction.mpr ⟨whole, by omega⟩, rfl⟩

/-- The cursor in front of an unread part of the text. -/
def cursorAt (text rest : List Char) (nesting : Nat) : Cursor :=
  ⟨byteOffset text rest, nesting⟩

theorem ahead_cursorAt {text rest : List Char} (suffix : rest <:+ text) (nesting : Nat) :
    (cursorAt text rest nesting).ahead text = byteLength rest := by
  rw [Cursor.ahead, cursorAt, byteOffset]
  exact Nat.sub_sub_self (byteLength_le_of_suffix suffix)

namespace Scan

/-! ## Steps in a row -/

section

variable {First Second State : Type} {cursor next : Cursor} {value : First} {halt : Halt}

theorem bind_of_ok {scan : Scan First} (passed : scan cursor = .ok (value, next))
    (later : First → Scan Second) : (scan >>= later) cursor = later value next := by
  have steps : (scan >>= later) cursor = (scan cursor).bind fun parts => later parts.1 parts.2 :=
    rfl
  rw [steps, passed]
  rfl

theorem bind_of_error {scan : Scan First} (halted : scan cursor = .error halt)
    (later : First → Scan Second) : (scan >>= later) cursor = .error halt := by
  have steps : (scan >>= later) cursor = (scan cursor).bind fun parts => later parts.1 parts.2 :=
    rfl
  rw [steps, halted]
  rfl

theorem bind_congr_start {scan other : Scan First} {start : Cursor}
    (same : scan cursor = other start) (later : First → Scan Second) :
    (scan >>= later) cursor = (other >>= later) start := by
  have steps : (scan >>= later) cursor = (scan cursor).bind fun parts => later parts.1 parts.2 :=
    rfl
  rw [steps, same]
  rfl

theorem get_bind (later : Cursor → Scan Second) (cursor : Cursor) :
    (get >>= later) cursor = later cursor cursor :=
  rfl

variable {text : List Char} {turn : State → Scan (Turn State First)} {state later : State}

theorem loop_of_last (turned : turn state cursor = .ok (.last value, next)) :
    loop text turn state cursor = .ok (value, next) := by
  rw [loop, turned]

theorem loop_of_again (turned : turn state cursor = .ok (.again later, next))
    (progress : next.ahead text < cursor.ahead text) :
    loop text turn state cursor = loop text turn later next := by
  rw [loop, turned]
  exact if_pos progress

theorem loop_of_error (halted : turn state cursor = .error halt) :
    loop text turn state cursor = .error halt := by
  rw [loop, halted]

end

/-! ## Characters -/

variable {text rest other : List Char} {nesting : Nat} {character : Char}

theorem unread_cursorAt (suffix : rest <:+ text) :
    unread text (cursorAt text rest nesting) = .ok (rest, cursorAt text rest nesting) := by
  rcases suffix with ⟨before, rfl⟩
  have cut : cutAtByte? (before ++ rest) (cursorAt (before ++ rest) rest nesting).offset =
      some (before, rest) :=
    cutAtByte?_eq_some_iff.mpr ⟨rfl, byteOffset_append before rest⟩
  rw [unread, get_bind, cut]
  rfl

theorem peek_cursorAt (suffix : rest <:+ text) (nesting : Nat) :
    peek text (cursorAt text rest nesting) = .ok (rest.head?, cursorAt text rest nesting) := by
  rw [peek, bind_of_ok (unread_cursorAt suffix)]
  rfl

theorem pass_cursorAt {word : List Char} (suffix : word ++ rest <:+ text) :
    pass (byteLength word) (cursorAt text (word ++ rest) nesting) =
      .ok ((), cursorAt text rest nesting) := by
  have shorter := byteLength_le_of_suffix suffix
  have moved : byteOffset text (word ++ rest) + byteLength word = byteOffset text rest := by
    rw [byteLength_append] at shorter
    rw [byteOffset, byteOffset, byteLength_append]
    omega
  show Except.ok ((), (⟨byteOffset text (word ++ rest) + byteLength word, nesting⟩ : Cursor)) = _
  rw [moved, cursorAt]

theorem pass_character (suffix : character :: rest <:+ text) :
    pass character.utf8Size (cursorAt text (character :: rest) nesting) =
      .ok ((), cursorAt text rest nesting) := by
  have one : byteLength [character] = character.utf8Size := Nat.add_zero _
  have passed : pass (byteLength [character]) (cursorAt text ([character] ++ rest) nesting) = _ :=
    pass_cursorAt suffix
  rw [← one]
  exact passed

theorem refuse_cursorAt {Result : Type} (cause : Cause) :
    (refuse cause : Scan Result) (cursorAt text rest nesting) =
      .error (.refused (Failure.inText text ⟨rest, cause⟩)) :=
  rfl

theorem unexpected_cursorAt {Result : Type} (suffix : rest <:+ text) :
    (unexpected text : Scan Result) (cursorAt text rest nesting) =
      .error (.refused ((Failure.unexpected rest).inText text)) := by
  rw [unexpected, bind_of_ok (peek_cursorAt suffix _)]
  cases rest <;> rfl

/-- A turn that passes a character makes progress. -/
theorem ahead_lt_of_cons (suffix : character :: rest <:+ text) :
    (cursorAt text rest nesting).ahead text <
      (cursorAt text (character :: rest) nesting).ahead text := by
  rw [ahead_cursorAt suffix, ahead_cursorAt ((List.suffix_cons _ _).trans suffix)]
  exact byteLength_lt_of_cons_suffix (List.suffix_refl _)

theorem skipBlanks_cursorAt (suffix : rest <:+ text) :
    skipBlanks text (cursorAt text rest nesting) =
      .ok ((), cursorAt text (skipBlank rest) nesting) := by
  rw [skipBlanks]
  induction rest with
  | nil =>
      apply loop_of_last
      rw [blankTurn, bind_of_ok (peek_cursorAt suffix _)]
      rfl
  | cons character later induction =>
      have peeked := peek_cursorAt suffix nesting
      cases blank : isBlank character with
      | false =>
          rw [skipBlank_cons blank]
          apply loop_of_last
          rw [blankTurn, bind_of_ok peeked]
          dsimp only [List.head?_cons]
          rw [blank]
          rfl
      | true =>
          have turned : blankTurn text () (cursorAt text (character :: later) nesting) =
              .ok (.again (), cursorAt text later nesting) := by
            rw [blankTurn, bind_of_ok peeked]
            dsimp only [List.head?_cons]
            rw [blank, if_pos rfl, bind_of_ok (pass_character suffix)]
            rfl
          rw [loop_of_again turned (ahead_lt_of_cons suffix),
            induction ((List.suffix_cons _ _).trans suffix),
            (Skips.cons blank (.refl later)).skipBlank_eq]

/-! ## Symbols

The readers keep the white space in front of a symbol that is not there, and a scan has
passed it.  So the cursor may stand elsewhere, as long as the same comes next behind white
space. -/

variable {mark : Read Unit rest.length}

theorem eat_of_symbol? (suffix : other <:+ text) (same : skipBlank other = skipBlank rest)
    (found : symbol? character rest = some mark) :
    eat text character (cursorAt text other nesting) =
      .ok (true, cursorAt text mark.rest nesting) := by
  have next : skipBlank other = character :: mark.rest := same.trans (skipBlank_of_symbol? found)
  have here : character :: mark.rest <:+ text := next ▸ (skipBlank_suffix other).trans suffix
  rw [eat, bind_of_ok (skipBlanks_cursorAt suffix), next, bind_of_ok (peek_cursorAt here _),
    if_pos (by rfl), bind_of_ok (pass_character here)]
  rfl

theorem eat_of_symbol?_eq_none (suffix : other <:+ text)
    (same : skipBlank other = skipBlank rest) (missing : symbol? character rest = none) :
    eat text character (cursorAt text other nesting) =
      .ok (false, cursorAt text (skipBlank other) nesting) := by
  have here := (skipBlank_suffix other).trans suffix
  have different : (skipBlank other).head? ≠ some character := by
    intro first
    rcases List.head?_eq_some_iff.mp first with ⟨later, next⟩
    rcases symbol?_of_skipBlank (same.symm.trans next) with ⟨within, found⟩
    cases missing.symm.trans found
  rw [eat, bind_of_ok (skipBlanks_cursorAt suffix), bind_of_ok (peek_cursorAt here _),
    if_neg different]
  rfl

theorem expect_of_symbol? (suffix : other <:+ text) (same : skipBlank other = skipBlank rest)
    (found : symbol? character rest = some mark) (nesting : Nat) :
    expect text character (cursorAt text other nesting) =
      .ok ((), cursorAt text mark.rest nesting) := by
  rw [expect, bind_of_ok (eat_of_symbol? suffix same found)]
  rfl

theorem expect_of_symbol?_eq_none (suffix : other <:+ text)
    (same : skipBlank other = skipBlank rest) (missing : symbol? character rest = none) :
    expect text character (cursorAt text other nesting) =
      .error (.refused ((Failure.unexpected (skipBlank rest)).inText text)) := by
  rw [expect, bind_of_ok (eat_of_symbol?_eq_none suffix same missing), same]
  exact unexpected_cursorAt (same ▸ (skipBlank_suffix other).trans suffix)

/-! ## Names -/

theorem between_cursorAt {taken : List Char} (suffix : taken ++ rest <:+ text) (cursor : Cursor) :
    between text (cursorAt text (taken ++ rest) nesting).offset
        (cursorAt text rest nesting).offset cursor = .ok (taken, cursor) := by
  rcases suffix with ⟨before, rfl⟩
  have start : byteOffset (before ++ (taken ++ rest)) (taken ++ rest) = byteLength before :=
    byteOffset_append before _
  have stop : byteOffset (before ++ (taken ++ rest)) rest =
      byteLength before + byteLength taken := by
    rw [← List.append_assoc, byteOffset_append, byteLength_append]
  have outer : cutAtByte? (before ++ (taken ++ rest)) (byteLength before) =
      some (before, taken ++ rest) := cutAtByte?_eq_some_iff.mpr ⟨rfl, rfl⟩
  have inner : cutAtByte? (taken ++ rest) (byteLength taken) = some (taken, rest) :=
    cutAtByte?_eq_some_iff.mpr ⟨rfl, rfl⟩
  rw [between, cursorAt, cursorAt, start, stop, outer]
  dsimp only
  rw [Nat.add_sub_cancel_left, inner]
  rfl

/-- Whether a segment starts behind the characters that a splitting has taken. -/
def startsBehind (segmentStarts : Bool) (taken : List Char) : Bool :=
  (taken.getLast?.map (· == '.')).getD segmentStarts

theorem loop_nameTurn (suffix : rest <:+ text) (segmentStarts : Bool) :
    loop text (nameTurn text) segmentStarts (cursorAt text rest nesting) =
      .ok (startsBehind segmentStarts (splitName segmentStarts rest).1,
        cursorAt text (splitName segmentStarts rest).2 nesting) := by
  induction rest generalizing segmentStarts with
  | nil =>
      apply loop_of_last
      rw [nameTurn, bind_of_ok (peek_cursorAt suffix _)]
      rfl
  | cons character later induction =>
      have peeked := peek_cursorAt suffix nesting
      cases belongs : belongsToName segmentStarts character with
      | false =>
          rw [splitName_cons_of_not_belongs belongs]
          apply loop_of_last
          rw [nameTurn, bind_of_ok peeked]
          dsimp only [List.head?_cons]
          rw [belongs]
          rfl
      | true =>
          have turned : nameTurn text segmentStarts (cursorAt text (character :: later) nesting) =
              .ok (.again (character == '.'), cursorAt text later nesting) := by
            rw [nameTurn, bind_of_ok peeked]
            dsimp only [List.head?_cons]
            rw [belongs, if_pos rfl, bind_of_ok (pass_character suffix)]
            rfl
          rw [loop_of_again turned (ahead_lt_of_cons suffix),
            induction ((List.suffix_cons _ _).trans suffix), splitName_cons_of_belongs belongs]
          dsimp only
          rw [startsBehind, startsBehind, List.getLast?_cons]
          cases (splitName (character == '.') later).1.getLast? <;> rfl

/-- A name is left out exactly if nothing or a dot at its end was taken. -/
theorem startsBehind_iff {taken : List Char} :
    startsBehind true taken = true ↔ taken = [] ∨ taken.getLast? = some '.' := by
  rw [startsBehind]
  cases last : taken.getLast? with
  | none => simpa using last
  | some character =>
      have notEmpty : taken ≠ [] := by
        rintro rfl
        cases last
      simp [notEmpty]

theorem outcome_readName (text : List Char) :
    outcome (readName text) =
      if startsBehind true (splitName true text).1 = true then
        .error (.unexpected (splitName true text).2)
      else .ok (String.ofList (splitName true text).1, (splitName true text).2) := by
  unfold readName
  split
  · next rest split =>
      rw [split, if_pos (startsBehind_iff.mpr (.inl rfl))]
      rfl
  · next first later rest split =>
      have taken : (splitName true text).1 = first :: later := by rw [split]
      have after : (splitName true text).2 = rest := by rw [split]
      rw [taken, after]
      split
      · next last =>
          rw [if_pos (startsBehind_iff.mpr (.inr last))]
          rfl
      · next complete =>
          rw [if_neg]
          · rfl
          · intro starts
            rcases startsBehind_iff.mp starts with empty | last
            · cases empty
            · exact complete last

/-- The result of a reader as a scan has it. -/
def settled {Result : Type} (text : List Char) (nesting : Nat) :
    Except Failure (Result × List Char) → Except Halt (Result × Cursor)
  | .error failure => .error (.refused (failure.inText text))
  | .ok (value, rest) => .ok (value, cursorAt text rest nesting)

theorem name_cursorAt (suffix : rest <:+ text) (nesting : Nat) :
    name text (cursorAt text rest nesting) =
      settled text nesting (outcome (readName (skipBlank rest))) := by
  have here := (skipBlank_suffix rest).trans suffix
  have whole := splitName_append true (skipBlank rest)
  rw [name, bind_of_ok (skipBlanks_cursorAt suffix), get_bind,
    bind_of_ok (loop_nameTurn here true), get_bind, outcome_readName]
  generalize splitName true (skipBlank rest) = parts at whole
  rcases parts with ⟨taken, after⟩
  dsimp only at whole
  rw [← whole] at here
  dsimp only
  by_cases incomplete : startsBehind true taken = true
  · rw [if_pos (.inr incomplete), if_pos incomplete]
    exact unexpected_cursorAt ((List.suffix_append taken after).trans here)
  · have notEmpty : taken ≠ [] := fun empty => incomplete (startsBehind_iff.mpr (.inl empty))
    have moved : ¬ (cursorAt text after nesting).offset =
        (cursorAt text (skipBlank rest) nesting).offset := by
      have more := byteLength_le_of_suffix here
      have positive := byteLength_lt_of_suffix (List.suffix_append taken after) (by
        rw [List.length_append]
        exact Nat.lt_add_of_pos_left (List.length_pos_iff.mpr notEmpty))
      rw [cursorAt, cursorAt, byteOffset, byteOffset, ← whole]
      dsimp only
      omega
    rw [if_neg (not_or.mpr ⟨moved, incomplete⟩), if_neg incomplete, ← whole,
      bind_of_ok (between_cursorAt here _)]
    rfl

end Scan

end Expression

end FieldTypes
