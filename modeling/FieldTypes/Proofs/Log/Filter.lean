import FieldTypes.Log.Filter

/-! What a filter makes of a text.  Each directive that is put into a filter takes the place of
the one that was there for its target, and leaves the others alone.  So a filter has one
directive for each target, which is the last one that the text has for it.  A text is taken
apart at its commas and refused if a part is no directive. -/

namespace FieldTypes.Log

open Text

/-! ## The order of targets -/

section

variable {left middle right : Option String}

theorem targetBefore_some_iff {left right : String} :
    targetBefore (some left) (some right) = true ↔
      byteLength right.toList < byteLength left.toList ∨
        byteLength left.toList = byteLength right.toList ∧ right < left := by
  simp [targetBefore]

theorem not_targetBefore_self (target? : Option String) :
    targetBefore target? target? = false := by
  cases target? with
  | none => rfl
  | some target =>
      rw [← Bool.not_eq_true, targetBefore_some_iff]
      rintro (longer | ⟨-, before⟩)
      · exact Nat.lt_irrefl _ longer
      · exact String.lt_irrefl _ before

theorem targetBefore_trans (first : targetBefore left middle = true)
    (second : targetBefore middle right = true) : targetBefore left right = true := by
  cases left with
  | none => cases first
  | some left =>
      cases middle with
      | none => cases second
      | some middle =>
          cases right with
          | none => rfl
          | some right =>
              rw [targetBefore_some_iff] at first second ⊢
              rcases first with longer | ⟨same, before⟩
              · exact .inl (by omega)
              · rcases second with longer | ⟨sameAgain, beforeAgain⟩
                · exact .inl (by omega)
                · exact .inr ⟨by omega, String.lt_trans beforeAgain before⟩

/-- Of two targets one comes first. -/
theorem targetBefore_of_not_targetBefore (different : left ≠ right)
    (notBefore : ¬ targetBefore left right = true) : targetBefore right left = true := by
  cases left with
  | none =>
      cases right with
      | none => exact absurd rfl different
      | some right => rfl
  | some left =>
      cases right with
      | none => exact absurd rfl notBefore
      | some right =>
          rw [targetBefore_some_iff] at notBefore ⊢
          rw [not_or, Nat.not_lt] at notBefore
          rcases notBefore with ⟨notLonger, notLater⟩
          rcases Nat.lt_or_eq_of_le notLonger with shorter | sameLength
          · exact .inl shorter
          · rcases Std.lt_trichotomy left right with before | same | behind
            · exact .inr ⟨sameLength.symm, before⟩
            · exact absurd (congrArg some same) different
            · exact absurd ⟨sameLength, behind⟩ notLater

end

/-! ## The last directive for a target -/

/-- The level of the last directive for the target. -/
def lastLevel? (directives : List Directive) (target? : Option String) : Option Level :=
  (directives.filter (·.target? = target?)).getLast?.map (·.level)

theorem lastLevel?_append (directives others : List Directive) (target? : Option String) :
    lastLevel? (directives ++ others) target? =
      (lastLevel? others target?).or (lastLevel? directives target?) := by
  rw [lastLevel?, List.filter_append, List.getLast?_append, Option.map_or, ← lastLevel?,
    ← lastLevel?]

theorem lastLevel?_singleton (directive : Directive) (target? : Option String) :
    lastLevel? [directive] target? =
      if directive.target? = target? then some directive.level else none := by
  rw [lastLevel?, List.filter_cons, List.filter_nil]
  by_cases here : directive.target? = target?
  · simp [here]
  · simp [here]

namespace Filter

variable {filter : Filter} {added other : Directive} {directives : List Directive}

/-! ## One directive more -/

/-- The directives stand in the order of their targets. -/
def Ordered (filter : Filter) : Prop :=
  filter.directives.Pairwise fun first later =>
    targetBefore first.target? later.target? = true

theorem eq_or_mem_of_mem_place (member : other ∈ place added directives) :
    other = added ∨ other ∈ directives := by
  induction directives with
  | nil => exact .inl (List.mem_singleton.mp member)
  | cons first rest induction =>
      rw [place] at member
      split at member
      · rcases List.mem_cons.mp member with same | within
        · exact .inl same
        · exact .inr (List.mem_cons_of_mem _ within)
      · split at member
        · exact List.mem_cons.mp member
        · rcases List.mem_cons.mp member with rfl | within
          · exact .inr List.mem_cons_self
          · exact (induction within).imp_right (List.mem_cons_of_mem _)

theorem Ordered.insert (ordered : filter.Ordered) (added : Directive) :
    (filter.insert added).Ordered := by
  rcases filter with ⟨directives⟩
  change List.Pairwise _ directives at ordered
  change List.Pairwise _ (place added directives)
  induction directives with
  | nil => exact List.pairwise_singleton _ _
  | cons first rest induction =>
      rcases List.pairwise_cons.mp ordered with ⟨beforeRest, restOrdered⟩
      rw [place]
      split
      · next same =>
          refine List.pairwise_cons.mpr ⟨fun later member => ?_, restOrdered⟩
          rw [same]
          exact beforeRest later member
      · next different =>
          split
          · next before =>
              refine List.pairwise_cons.mpr ⟨fun later member => ?_, ordered⟩
              rcases List.mem_cons.mp member with rfl | within
              · exact before
              · exact targetBefore_trans before (beforeRest later within)
          · next notBefore =>
              refine List.pairwise_cons.mpr ⟨fun later member => ?_, induction restOrdered⟩
              rcases eq_or_mem_of_mem_place member with rfl | within
              · exact targetBefore_of_not_targetBefore different notBefore
              · exact beforeRest later within

theorem level?_cons (first : Directive) (rest : List Directive) (target? : Option String) :
    level? ⟨first :: rest⟩ target? =
      if first.target? = target? then some first.level else level? ⟨rest⟩ target? := by
  rw [level?, List.find?_cons]
  by_cases here : first.target? = target?
  · rw [if_pos here, beq_iff_eq.mpr here, Option.map_some]
  · rw [if_neg here, beq_eq_false_iff_ne.mpr here, level?]

/-- The new directive is the one for its target.  For other targets nothing changes. -/
theorem level?_insert (filter : Filter) (added : Directive) (target? : Option String) :
    (filter.insert added).level? target? =
      if added.target? = target? then some added.level else filter.level? target? := by
  rcases filter with ⟨directives⟩
  change level? ⟨place added directives⟩ target? = _
  induction directives with
  | nil => rw [place, level?_cons]
  | cons first rest induction =>
      rw [place]
      split
      · next same =>
          rw [level?_cons, level?_cons, ← same]
          split <;> rfl
      · next different =>
          split
          · rw [level?_cons]
          · rw [level?_cons, level?_cons, induction]
            split
            · next here => rw [if_neg fun same => different (same.trans here.symm)]
            · rfl

/-! ## All directives of a list -/

theorem Ordered.foldl_insert (ordered : filter.Ordered) (directives : List Directive) :
    (directives.foldl Filter.insert filter).Ordered := by
  induction directives generalizing filter with
  | nil => exact ordered
  | cons first rest induction => exact induction (ordered.insert first)

/-- What the list has nothing about stays as the filter had it. -/
theorem level?_foldl_insert (filter : Filter) (directives : List Directive)
    (target? : Option String) :
    (directives.foldl Filter.insert filter).level? target? =
      (lastLevel? directives target?).or (filter.level? target?) := by
  induction directives generalizing filter with
  | nil => rfl
  | cons first rest induction =>
      rw [List.foldl_cons, induction, level?_insert, ← List.singleton_append, lastLevel?_append,
        lastLevel?_singleton, Option.or_assoc]
      split <;> rfl

theorem ordered_ofDirectives (directives : List Directive) : (ofDirectives directives).Ordered :=
  Ordered.foldl_insert List.Pairwise.nil directives

theorem level?_ofDirectives (directives : List Directive) (target? : Option String) :
    (ofDirectives directives).level? target? = lastLevel? directives target? := by
  rw [ofDirectives, level?_foldl_insert]
  exact Option.or_none

/-- A filter has no target twice. -/
theorem Ordered.targets_nodup (ordered : filter.Ordered) :
    (filter.directives.map (·.target?)).Nodup := by
  rw [List.nodup_iff_pairwise_ne, List.pairwise_map]
  refine ordered.imp fun before same => ?_
  rw [same, not_targetBefore_self] at before
  cases before

end Filter

/-! ## Texts of directives -/

theorem cutAt_eq_splitOn (separator : Char) (text : List Char) :
    cutAt separator text = text.splitOn separator := by
  induction text with
  | nil => rfl
  | cons character rest induction =>
      rw [cutAt, List.splitOn_cons_eq_if_modifyHead, induction]
      by_cases same : character = separator
      · rw [if_pos same, if_pos (beq_iff_eq.mpr same)]
      · rw [if_neg same, if_neg (fun equal => same (beq_iff_eq.mp equal))]
        cases cut : rest.splitOn separator with
        | nil => exact absurd (induction.trans cut) (cutAt_ne_nil separator rest)
        | cons first others => rfl

/-- The parts of a text between its commas, without the empty ones. -/
def parts (text : String) : List (List Char) :=
  (text.toList.splitOn ',').filter (· ≠ [])

theorem parts_joined (left right : String) :
    parts (left ++ "," ++ right) = parts left ++ parts right := by
  have joined : (left ++ "," ++ right).toList = left.toList ++ ',' :: right.toList := by
    rw [String.toList_append, String.toList_append, List.append_assoc]
    rfl
  rw [parts, joined, List.splitOn_append_cons_self, List.filter_append, parts, parts]

/-- What the parts of a text are read as, in their order. -/
def directivesOf (part? : List Char → Option Directive) (text : String) : List Directive :=
  (parts text).filterMap part?

/-- How a reader makes a filter of a text when it reads the parts as the given one does: it
reads each part for itself and refuses the text if one of them cannot be read, and then it
keeps the last directive for each target. -/
structure ReadsDirectives (read? : String → Option Filter)
    (part? : List Char → Option Directive) : Prop where
  isSome_iff : ∀ text, (read? text).isSome = true ↔
    ∀ part ∈ parts text, (part? part).isSome = true
  targets_nodup : ∀ {text filter}, read? text = some filter →
    (filter.directives.map (·.target?)).Nodup
  level?_eq : ∀ {text filter}, read? text = some filter → ∀ target?,
    filter.level? target? = lastLevel? (directivesOf part? text) target?

namespace Filter

theorem readDirectives?_eq (cut : List (List Char)) :
    readDirectives? cut =
      if (cut.filter (· ≠ [])).all fun part => (Directive.read? part).isSome then
        some ((cut.filter (· ≠ [])).filterMap Directive.read?)
      else none := by
  induction cut with
  | nil => rfl
  | cons part rest induction =>
      rw [readDirectives?]
      cases part with
      | nil => exact induction
      | cons character later =>
          rw [List.isEmpty_cons, if_neg Bool.false_ne_true, List.filter_cons_of_pos (by simp),
            List.all_cons]
          cases outcome : Directive.read? (character :: later) with
          | none => rfl
          | some directive =>
              rw [Option.isSome_some, Bool.true_and, List.filterMap_cons_some outcome, induction]
              dsimp only
              split <;> rfl

theorem read?_eq (text : String) :
    read? text =
      if (parts text).all fun part => (Directive.read? part).isSome then
        some (ofDirectives (directivesOf Directive.read? text))
      else none := by
  rw [read?, cutAt_eq_splitOn, readDirectives?_eq, ← parts, ← directivesOf]
  split <;> rfl

theorem readsDirectives : ReadsDirectives Filter.read? Directive.read? where
  isSome_iff text := by
    rw [read?_eq, Option.isSome_ite, List.all_eq_true]
  targets_nodup found := by
    rw [read?_eq, Option.ite_none_right_eq_some] at found
    rcases found with ⟨-, ⟨⟩⟩
    exact (ordered_ofDirectives _).targets_nodup
  level?_eq found := by
    rw [read?_eq, Option.ite_none_right_eq_some] at found
    rcases found with ⟨-, ⟨⟩⟩
    exact level?_ofDirectives _

end Filter

end FieldTypes.Log
