import FieldTypes.Log.Settings
import FieldTypes.Proofs.Log.Filter
import Mathlib.Data.List.TakeWhile

/-! What is logged when the environment has directives as well as the configured level.  Where
both can be read, each target has its last directive from the environment, or else the last
that is configured.  Where only one of them can be read, it stands as if there was no other,
and where neither can, warnings are logged.  For this it does not matter what the parts of a
text are read as. -/

namespace FieldTypes.Log

open Text

/-- Nothing but white space. -/
def IsBlankText (text : String) : Prop :=
  ∀ character ∈ text.toList, isBlank character = true

theorem trimmed_eq_nil_iff {text : List Char} :
    trimmed text = [] ↔ ∀ character ∈ text, isBlank character = true := by
  rw [trimmed, List.reverse_eq_nil_iff, List.dropWhile_eq_nil_iff]
  constructor
  · intro blank character member
    rw [← List.takeWhile_append_dropWhile (p := isBlank) (l := text)] at member
    rcases List.mem_append.mp member with before | behind
    · exact List.mem_takeWhile_imp before
    · exact blank character (List.mem_reverse.mpr behind)
  · intro blank character member
    exact blank character ((List.dropWhile_sublist isBlank).mem (List.mem_reverse.mp member))

/-! ## Joined texts -/

namespace ReadsDirectives

variable {read? : String → Option Filter} {part? : List Char → Option Directive}
  (reads : ReadsDirectives read? part?) {left right : String} {filter : Filter}

include reads

/-- Each of two texts must be readable for both to be readable as one. -/
theorem isSome_joined_iff :
    (read? (left ++ "," ++ right)).isSome = true ↔
      (read? left).isSome = true ∧ (read? right).isSome = true := by
  rw [reads.isSome_iff, parts_joined, List.forall_mem_append, ← reads.isSome_iff,
    ← reads.isSome_iff]

/-- The text behind the comma has the last word on each of its targets. -/
theorem level?_joined (found : read? (left ++ "," ++ right) = some filter)
    (target? : Option String) :
    filter.level? target? = (lastLevel? (directivesOf part? right) target?).or
      (lastLevel? (directivesOf part? left) target?) := by
  rw [reads.level?_eq found, directivesOf, parts_joined, List.filterMap_append,
    lastLevel?_append, ← directivesOf, ← directivesOf]

end ReadsDirectives

namespace Settings

/-! ## The configured level -/

/-- The words that are taken as a level: those of the levels that log something, and another
one for warnings. -/
inductive IsSynonym : String → Level → Prop
  | own (level : Level) : level ≠ .off → IsSynonym level.word level
  | warning : IsSynonym "warning" .warn

theorem mem_synonyms_iff {word : String} {level : Level} :
    (word, level) ∈ synonyms ↔ IsSynonym word level := by
  constructor
  · intro member
    simp only [synonyms, List.mem_cons, Prod.mk.injEq, List.not_mem_nil, or_false] at member
    rcases member with ⟨rfl, rfl⟩ | ⟨rfl, rfl⟩ | ⟨rfl, rfl⟩ | ⟨rfl, rfl⟩ | ⟨rfl, rfl⟩ | ⟨rfl, rfl⟩
    · exact .own .trace nofun
    · exact .own .debug nofun
    · exact .own .info nofun
    · exact .own .warn nofun
    · exact .warning
    · exact .own .error nofun
  · intro synonym
    cases synonym with
    | own _ logs => cases level <;> simp_all [synonyms, Level.word]
    | warning => simp [synonyms]

/-- What a configured level stands for: warnings if it is blank, a level if it is a word for it
in any case, and otherwise itself.  White space at its ends does not count. -/
inductive StandsFor (level : String) : String → Prop
  | warnings : IsBlankText level → StandsFor level "warn"
  | synonym {word : String} {found : Level} : IsSynonym word found →
      Level.lowerCase (trimmed level.toList) = word.toList → StandsFor level found.word
  | directives : ¬ IsBlankText level → (∀ word found, IsSynonym word found →
      Level.lowerCase (trimmed level.toList) ≠ word.toList) →
      StandsFor level (String.ofList (trimmed level.toList))

theorem standsFor_directives (level : String) : StandsFor level (directives level) := by
  rw [directives]
  split
  · next blank => exact .warnings (trimmed_eq_nil_iff.mp blank)
  · next present =>
      cases known : synonyms.lookup (String.ofList (Level.lowerCase (trimmed level.toList))) with
      | some found =>
          rcases List.lookup_eq_some_iff.mp known with ⟨before, after, whole, -⟩
          have member : (String.ofList (Level.lowerCase (trimmed level.toList)), found) ∈
              synonyms := by
            rw [whole]
            exact List.mem_append_right _ List.mem_cons_self
          exact .synonym (mem_synonyms_iff.mp member) String.toList_ofList.symm
      | none =>
          refine .directives (fun blank => present (trimmed_eq_nil_iff.mpr blank)) ?_
          intro word found synonym same
          have different := List.lookup_eq_none_iff.mp known _ (mem_synonyms_iff.mpr synonym)
          rw [same, String.ofList_toList] at different
          simp at different

/-! ## The filter in an environment -/

variable {read? : String → Option Filter} {part? : List Char → Option Directive}
  {settings : Settings} {environment : String}

theorem filterBy_of_blank {environment? : Option String}
    (blank : ∀ environment ∈ environment?, IsBlankText environment) :
    settings.filterBy read? environment? = settings.configuredBy read? := by
  cases environment? with
  | none => rfl
  | some environment =>
      have empty := trimmed_eq_nil_iff.mpr (blank environment rfl)
      rw [filterBy]
      split
      · rfl
      · next present => exact absurd empty present

theorem filterBy_of_not_blank (present : ¬ IsBlankText environment) :
    settings.filterBy read? (some environment) =
      settings.overriddenBy read? (String.ofList (trimmed environment.toList)) := by
  rw [filterBy]
  split
  · next empty => exact absurd (trimmed_eq_nil_iff.mp empty) present
  · rfl

section

variable (reads : ReadsDirectives read? part?)

include reads

/-- Two texts that can be read are read as one. -/
theorem overriddenBy_of_both (own : (read? (directives settings.level)).isSome = true)
    (added : (read? environment).isSome = true) :
    read? (directives settings.level ++ "," ++ environment) =
      some (settings.overriddenBy read? environment) := by
  rcases Option.isSome_iff_exists.mp (reads.isSome_joined_iff.mpr ⟨own, added⟩) with
    ⟨filter, joined⟩
  rw [overriddenBy, joined]

theorem overriddenBy_of_not_both (unread : ¬ ((read? (directives settings.level)).isSome = true ∧
      (read? environment).isSome = true)) :
    settings.overriddenBy read? environment =
      (read? environment).getD (settings.configuredBy read?) := by
  rw [← reads.isSome_joined_iff, Option.not_isSome_iff_eq_none] at unread
  rw [overriddenBy, unread]

end

/-- The filter of a program is made by a reader that reads the parts of a text for themselves.
With any such reader, directives of the environment and of the configured level that can both be
read make a filter with one directive for each target, the last one of the environment if it
has one and otherwise the last one that is configured.  If only one of the two can be read, the
filter is made of that one, and if neither can, it is for warnings.  An environment without
directives leaves the configured level as it is.  White space at the ends of both texts does
not count. -/
theorem overrides_target_by_target :
    (∀ settings : Settings, settings.filter = settings.filterBy Filter.read?) ∧
    ReadsDirectives Filter.read? Directive.read? ∧
    ∀ (read? : String → Option Filter) (part? : List Char → Option Directive),
      ReadsDirectives read? part? → ∀ settings : Settings,
      StandsFor settings.level (directives settings.level) ∧
      (∀ environment?, (∀ environment ∈ environment?, IsBlankText environment) →
        settings.filterBy read? environment? =
          (read? (directives settings.level)).getD (.everything .warn)) ∧
      ∀ environment, ¬ IsBlankText environment →
        let own := directives settings.level
        let added := String.ofList (trimmed environment.toList)
        let filter := settings.filterBy read? (some environment)
        ((read? own).isSome = true → (read? added).isSome = true →
          (filter.directives.map (·.target?)).Nodup ∧
          ∀ target?, filter.level? target? = (lastLevel? (directivesOf part? added) target?).or
            (lastLevel? (directivesOf part? own) target?)) ∧
        (∀ found, read? own = none → read? added = some found → filter = found) ∧
        (∀ found, read? own = some found → read? added = none → filter = found) ∧
        (read? own = none → read? added = none → filter = .everything .warn) := by
  refine ⟨fun settings => rfl, Filter.readsDirectives, ?_⟩
  intro read? part? reads settings
  refine ⟨standsFor_directives settings.level, fun environment? => filterBy_of_blank, ?_⟩
  intro environment present own added filter
  have overridden : filter = settings.overriddenBy read? added := filterBy_of_not_blank present
  refine ⟨fun ownRead addedRead => ?_, fun found ownUnread addedRead => ?_,
    fun found ownRead addedUnread => ?_, fun ownUnread addedUnread => ?_⟩
  · have joined := overriddenBy_of_both reads ownRead addedRead
    rw [overridden]
    exact ⟨reads.targets_nodup joined, reads.level?_joined joined⟩
  · rw [overridden, overriddenBy_of_not_both reads (by simp [own, ownUnread]), addedRead,
      Option.getD_some]
  · rw [overridden, overriddenBy_of_not_both reads (by simp [addedUnread]), addedUnread,
      Option.getD_none, configuredBy, ownRead, Option.getD_some]
  · rw [overridden, overriddenBy_of_not_both reads (by simp [addedUnread]), addedUnread,
      Option.getD_none, configuredBy, ownUnread, Option.getD_none]

/-- The environment turns one target off and adds another.  With a level that there is not, it
changes nothing. -/
theorem overrides_target_by_target_of_reify :
    let settings : Settings := { defaults with level := "info,reify=debug" }
    ReadsDirectives Filter.read? Directive.read? ∧
    ¬ IsBlankText " reify=off,cli " ∧ ¬ IsBlankText "reify=loud" ∧
    (Filter.read? "info,reify=debug").isSome = true ∧
    (Filter.read? "reify=off,cli").isSome = true ∧ Filter.read? "reify=loud" = none ∧
    settings.filter (some " reify=off,cli ") =
      ⟨[⟨some "reify", .off⟩, ⟨some "cli", .trace⟩, ⟨none, .info⟩]⟩ ∧
    (∀ target?, (settings.filter (some " reify=off,cli ")).level? target? =
      (lastLevel? (directivesOf Directive.read? "reify=off,cli") target?).or
        (lastLevel? (directivesOf Directive.read? "info,reify=debug") target?)) ∧
    some (settings.filter (some "reify=loud")) = Filter.read? "info,reify=debug" := by
  intro settings
  have general := overrides_target_by_target.2.2 Filter.read? Directive.read?
    Filter.readsDirectives settings
  have ownText : directives settings.level = "info,reify=debug" := by decide +kernel
  have addedText : String.ofList (trimmed " reify=off,cli ".toList) = "reify=off,cli" := by
    decide +kernel
  have present : ¬ IsBlankText " reify=off,cli " := fun blank =>
    absurd (blank 'r' (by decide)) (by decide)
  have presentLoud : ¬ IsBlankText "reify=loud" := fun blank =>
    absurd (blank 'r' (by decide)) (by decide)
  have ownRead : (Filter.read? "info,reify=debug").isSome = true := by decide +kernel
  have addedRead : (Filter.read? "reify=off,cli").isSome = true := by decide +kernel
  have loudUnread : Filter.read? "reify=loud" = none := by decide +kernel
  refine ⟨Filter.readsDirectives, present, presentLoud, ownRead, addedRead, loudUnread,
    by decide +kernel, ?_, ?_⟩
  · have both := (general.2.2 " reify=off,cli " present).1
    rw [ownText, addedText] at both
    exact (both ownRead addedRead).2
  · have loudText : String.ofList (trimmed "reify=loud".toList) = "reify=loud" := by
      decide +kernel
    rcases Option.isSome_iff_exists.mp ownRead with ⟨own, found⟩
    have alone := (general.2.2 "reify=loud" presentLoud).2.2.1 own
    rw [ownText, loudText] at alone
    rw [found]
    exact congrArg some (alone found loudUnread)

end Settings

end FieldTypes.Log
