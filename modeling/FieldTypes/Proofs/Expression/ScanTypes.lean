import FieldTypes.Proofs.Expression.ScanArguments
import FieldTypes.Proofs.Expression.Mentions

/-! A scan gives what the readers give.  The readers say by their form that they go on with
less text and stop at a number of brackets; a scan has to find out.  By induction on the
brackets that may still open, no call and no turn ever halts for another reason than a fault
of the text, and the fault is the same. -/

namespace FieldTypes.Expression

open Text

namespace Scan

variable {text rest other : List Char} {limit nesting : Nat}
  {scan : Scan (DeclaredType × Nat)}

theorem settles_element (meaning? : String → Option Meaning)
    {inner? : Option (Reader DeclaredType)}
    (innermost : inner? = none ↔ maximalDepth ≤ nesting)
    (agrees : ∀ inner, inner? = some inner →
      Agrees text (byteLength other) (nesting + 1) scan inner)
    (faces : Faces text rest other) :
    SettlesNear text other nesting measured (Expression.element meaning? inner? rest)
      (element text meaning? scan (cursorAt text other nesting)) := by
  have inside := faces.skipBlank
  have named := name_cursorAt inside.other_suffix nesting
  rw [inside.same] at named
  rw [element, bind_of_ok (skipBlanks_cursorAt faces.other_suffix), get_bind]
  unfold Expression.element
  split
  · next failure failed =>
      rw [failed] at named
      exact bind_of_error named _
  · next found nameFound =>
      rw [nameFound] at named
      have here := nameAt_of_readName nameFound
      have behind : found.rest <:+ other :=
        here.isSuffix.trans faces.skipBlank_suffix
      have less : byteLength found.rest < byteLength other :=
        Nat.lt_of_lt_of_le (byteLength_lt_of_suffix here.isSuffix found.within)
          (byteLength_le_of_suffix faces.skipBlank_suffix)
      have listed := settles_typeArguments innermost agrees
        (.refl (behind.trans faces.other_suffix)) less
      rw [bind_of_ok named]
      split
      · next failure failed =>
          rw [failed] at listed
          exact bind_of_error listed _
      · next arguments argumentsFound =>
          rw [argumentsFound] at listed
          rcases listed with ⟨next, nextInside, nextFaces, ended⟩
          have types : (arguments.value.map allMeasured).map Prod.fst = arguments.value := by
            rw [Option.map_map]
            exact Option.map_id'
          have depths : (arguments.value.map allMeasured).map (fun read => read.2 + 1) =
              arguments.value.map (DeclaredType.greatestDepth · + 1) :=
            Option.map_map ..
          rw [bind_of_ok ended, types, depths]
          split
          · next cause unusable =>
              rw [unusable, faces.same]
              rfl
          · next type made =>
              refine ⟨next, nextInside.trans behind, nextFaces, ?_⟩
              rw [made, depth_of_applied made]
              rfl

theorem settles_dimensions (nesting : Nat) : ∀ {rest other : List Char} (type : DeclaredType),
    Faces text rest other → Settles text other nesting measured (dimensions type rest)
      (loop text (dimensionsTurn text) (measured type) (cursorAt text other nesting)) := by
  intro rest other type faces
  rw [dimensions]
  split
  · next missing =>
      refine ⟨faces.skipBlank_suffix, loop_of_last ?_⟩
      rw [dimensionsTurn, bind_of_ok (eat_of_symbol?_eq_none faces.other_suffix faces.same missing),
        faces.same]
      rfl
  · next opened opening =>
      have inside := faces.behind opening
      have turned : dimensionsTurn text (measured type) (cursorAt text other nesting) =
          (expect text ']' >>= fun _ => checkDepth (type.depth + 1) >>= fun _ =>
            pure (.again (.array type, type.depth + 1))) (cursorAt text opened.rest nesting) := by
        rw [dimensionsTurn, bind_of_ok (eat_of_symbol? faces.other_suffix faces.same opening)]
        rfl
      split
      · next missing =>
          apply loop_of_error
          rw [turned]
          exact bind_of_error (expect_of_symbol?_eq_none inside.other_suffix rfl missing) _
      · next closed closing =>
          have behind := inside.behind closing
          have shorter := Nat.lt_trans closed.within opened.within
          rw [bind_of_ok (expect_of_symbol? inside.other_suffix rfl closing _)] at turned
          split
          · next deep =>
              rw [checkDepth, if_pos deep] at turned
              apply loop_of_error
              rw [turned]
              exact bind_of_error (refuse_cursorAt .tooDeep) _
          · next shallow =>
              have suffix := (inside.behind_suffix closing).trans (faces.behind_suffix opening)
              have less := Nat.lt_trans (inside.byteLength_lt closing) (faces.byteLength_lt opening)
              have array : measured (.array type) = (.array type, type.depth + 1) := by
                rw [measured, DeclaredType.depth]
              have later := settles_dimensions nesting (.array type) behind
              rw [checkDepth, if_neg shallow, ← array] at turned
              rw [loop_of_again turned (by
                rw [ahead_cursorAt behind.other_suffix, ahead_cursorAt faces.other_suffix]
                exact less)]
              dsimp only
              split
              · next failure failed =>
                  rw [failed] at later
                  exact later
              · next read found =>
                  rw [found] at later
                  exact ⟨later.1.trans suffix, later.2⟩
termination_by rest => rest.length

theorem settles_withDimensions (meaning? : String → Option Meaning)
    {inner? : Option (Reader DeclaredType)}
    (innermost : inner? = none ↔ maximalDepth ≤ nesting)
    (agrees : ∀ inner, inner? = some inner →
      Agrees text (byteLength other) (nesting + 1) scan inner)
    (faces : Faces text rest other) :
    Settles text other nesting measured
      (withDimensions (Expression.element meaning? inner?) rest)
      ((element text meaning? scan >>= loop text (dimensionsTurn text))
        (cursorAt text other nesting)) := by
  have first := settles_element meaning? innermost agrees faces
  unfold withDimensions
  split
  · next failure failed =>
      rw [failed] at first
      exact bind_of_error first _
  · next read found =>
      rw [found] at first
      rcases first with ⟨next, nextInside, nextFaces, ended⟩
      have later := (settles_dimensions nesting read.value nextFaces).of_suffix
        nextInside
      rw [bind_of_ok ended]
      split
      · next failure failed =>
          rw [failed] at later
          exact later
      · next whole wholeFound =>
          rw [wholeFound] at later
          exact later

/-- A call for a type ends as the reader does that may open the same brackets. -/
theorem settles_type (meaning? : String → Option Meaning) {levels : Nat}
    (all : levels + nesting = maximalDepth) (faces : Faces text rest other) :
    Settles text other nesting measured (typeWithin meaning? levels rest)
      (type text meaning? (levels + 1) (cursorAt text other nesting)) := by
  induction levels generalizing nesting rest other with
  | zero =>
      have innermost : oneFurther meaning? 0 = none ↔ maximalDepth ≤ nesting :=
        iff_of_true rfl (by omega)
      rw [typeWithin_eq]
      exact settles_withDimensions meaning? innermost nofun faces
  | succ levels induction =>
      have innermost : oneFurther meaning? (levels + 1) = none ↔ maximalDepth ≤ nesting :=
        iff_of_false nofun (by omega)
      rw [typeWithin_eq]
      refine settles_withDimensions meaning? innermost ?_ faces
      rintro inner same start place placeFaces near
      cases same
      have progress : (cursorAt text place (nesting + 1)).ahead text <
          (cursorAt text other nesting).ahead text := by
        rw [ahead_cursorAt placeFaces.other_suffix, ahead_cursorAt faces.other_suffix]
        exact near
      rw [descend, get_bind, if_pos progress]
      exact induction (by omega) placeFaces

/-- The cursor is at the end of the text exactly if nothing is unread. -/
theorem offset_cursorAt_eq_iff (suffix : rest <:+ text) (nesting : Nat) :
    (cursorAt text rest nesting).offset = byteLength text ↔ rest = [] := by
  have within := byteLength_le_of_suffix suffix
  rw [cursorAt, byteOffset]
  cases rest with
  | nil => exact iff_of_true rfl rfl
  | cons character later =>
      have positive := character.utf8Size_pos
      rw [byteLength] at within ⊢
      exact iff_of_false (by dsimp only; omega) (List.cons_ne_nil _ _)

theorem whole_eq_readWhole (text : List Char) (meaning? : String → Option Meaning) :
    (whole text meaning? (maximalDepth + 1) ⟨0, 0⟩).map (·.1) =
      (readWhole meaning? text).mapError (.refused <| ·.inText text) := by
  have start : (⟨0, 0⟩ : Cursor) = cursorAt text text 0 := by
    rw [cursorAt, byteOffset, Nat.sub_self]
  have faces := Faces.refl (List.suffix_refl text)
  have read := settles_type meaning? (Nat.add_zero maximalDepth) faces
  rw [start, whole]
  unfold readWhole
  split
  · next failure failed =>
      rw [failed] at read
      rw [bind_of_error read]
      rfl
  · next found wholeFound =>
      rw [wholeFound] at read
      have ending := (skipBlank_suffix found.rest).trans read.1
      have ended := offset_cursorAt_eq_iff ending 0
      rw [bind_of_ok read.2, bind_of_ok (skipBlanks_cursorAt read.1), get_bind]
      generalize skipBlank found.rest = unread at ended
      cases unread with
      | nil =>
          rw [if_pos (ended.mpr rfl)]
          rfl
      | cons character later =>
          rw [if_neg (fun atEnd => List.cons_ne_nil _ _ (ended.mp atEnd))]
          rfl

end Scan

/-- One call more than there may be brackets is enough for every text. -/
theorem scan_eq_parse (registry : Registry) (scope : Scope) (text : String) :
    scan (maximalDepth + 1) registry scope text =
      (parse registry scope text).mapError .refused := by
  rw [scan, parse, Scan.whole_eq_readWhole]
  cases readWhole (scope.meaning? registry) text.toList <;> rfl

end FieldTypes.Expression
