import FieldTypes.Registry.Workspace
import FieldTypes.Proofs.Resolution.Progress

/-! Fields stay with one class of one registry, in a program that makes, copies and
replaces registries as it likes.  Two registries are told apart by the moments at
which they were made.  These are written down beside the workspace, where the
program cannot see them; the identities that it hands out turn out to tell the same
registries apart. -/

namespace FieldTypes

/-- A field knows its class by the registry and by the place in it. -/
theorem FieldDefinition.isDeclaredOn_iff {owner home : Registry} {ownerId homeId : ClassId}
    {ownerClass homeClass : ClassDefinition} (ownerHolds : owner.Holds ownerId ownerClass)
    (homeHolds : home.Holds homeId homeClass) {field : FieldDefinition}
    (member : field ∈ ownerClass.fields) :
    field.isDeclaredOn homeClass = true ↔
      owner.identity = home.identity ∧ ownerId = homeId := by
  rw [isDeclaredOn, Bool.and_eq_true, beq_iff_eq, beq_iff_eq,
    ownerHolds.fieldRegistry_eq field member, ownerHolds.owner_eq field member,
    homeHolds.registry_eq, homeHolds.id_eq]

theorem Resolver.resolve_own_ne_foreignField (resolver : Resolver) {field : FieldDefinition}
    (holds : resolver.registry.Holds resolver.definition.id resolver.definition)
    (own : field ∈ resolver.definition.fields) (name owner target : String) :
    resolver.resolve field ≠ .error (.foreignField name owner target) := by
  intro failed
  have outcome := resolver.resolve_own_field holds own
  split at outcome
  · rw [outcome] at failed
    cases failed
  · rcases outcome with ⟨type, resolved⟩
    rw [resolved] at failed
    cases failed

namespace Workspace

/-! ## Requests -/

/-- What can be asked of a workspace.  Only the first three make a registry. -/
inductive Request where
  | createEmpty (name : String)
  | createBuiltIn (name : String)
  | copy (source target : String)
  | intern (name className : String)
  | define (name : String) (batch : List ClassDeclaration)
deriving Repr

def perform (workspace : Workspace) : Request → Workspace
  | .createEmpty name => workspace.createEmpty name
  | .createBuiltIn name => workspace.createBuiltIn name
  | .copy source target => workspace.copy source target
  | .intern name className => workspace.intern name className
  | .define name batch => workspace.define name batch

/-- The name under which a request puts a registry that was not there before. -/
def made? (workspace : Workspace) : Request → Option String
  | .createEmpty name | .createBuiltIn name => some name
  | .copy source target => workspace.registry? source |>.map fun _ => target
  | .intern .. | .define .. => none

variable {workspace : Workspace} {name : String} {registry : Registry} {request : Request}

theorem lookup_filter_ne {entries : List (String × Registry)} {other : String}
    (different : other ≠ name) :
    (entries.filter (·.1 != name)).lookup other = entries.lookup other := by
  induction entries with
  | nil => rfl
  | cons entry rest induction =>
      rcases entry with ⟨key, value⟩
      by_cases dropped : key = name
      · rw [List.filter_cons_of_neg (by simp [dropped]), induction, List.lookup_cons,
          beq_eq_false_iff_ne.mpr (dropped ▸ different)]
      · rw [List.filter_cons_of_pos (by simp [dropped]), List.lookup_cons, List.lookup_cons,
          induction]

theorem registry?_put (workspace : Workspace) (name : String) (registry : Registry)
    (other : String) :
    Workspace.registry? (workspace.put name registry) other =
      if other = name then some registry else workspace.registry? other := by
  rw [put, registry?, List.lookup_cons]
  by_cases equal : other = name
  · rw [if_pos equal, beq_iff_eq.mpr equal]
  · rw [if_neg equal, beq_eq_false_iff_ne.mpr equal, lookup_filter_ne equal, registry?]

theorem registry?_create (workspace : Workspace) (name : String) (make : RegistryId → Registry)
    (other : String) :
    Workspace.registry? (workspace.create name make) other =
      if other = name then some (make ⟨workspace.nextIdentity⟩)
      else workspace.registry? other := by
  rw [create, registry?_put]
  rfl

theorem registry?_eq_ite {found : Option Registry}
    (stands : workspace.registry? name = found) (other : String) :
    workspace.registry? other = if other = name then found else workspace.registry? other := by
  split
  · next equal => rw [equal, stands]
  · rfl

/-- Interning and defining are changes of one registry. -/
theorem registry?_intern (workspace : Workspace) (name className other : String) :
    Workspace.registry? (workspace.intern name className) other =
      if other = name then workspace.registry? name |>.map (·.change (.intern className))
      else workspace.registry? other := by
  rw [intern]
  cases found : workspace.registry? name with
  | none => exact registry?_eq_ite found other
  | some registry => exact registry?_put workspace name _ other

theorem registry?_define (workspace : Workspace) (name : String)
    (batch : List ClassDeclaration) (other : String) :
    Workspace.registry? (workspace.define name batch) other =
      if other = name then workspace.registry? name |>.map (·.change (.define batch))
      else workspace.registry? other := by
  rw [define]
  cases found : workspace.registry? name with
  | none => exact registry?_eq_ite found other
  | some registry =>
      dsimp only
      rw [Option.map_some, Registry.change]
      cases registry.define batch with
      | error failure => exact registry?_eq_ite found other
      | ok outcome => exact registry?_put workspace name _ other

/-! ## One request -/

/-- The registry that a request makes has the next identity. -/
theorem registry?_perform_of_made
    (wellFormed : ∀ {name registry}, workspace.registry? name = some registry →
      registry.WellFormed)
    (makes : workspace.made? request = some name)
    (stands : Workspace.registry? (workspace.perform request) name = some registry) :
    registry.identity = ⟨workspace.nextIdentity⟩ ∧ registry.WellFormed := by
  cases request with
  | createEmpty target =>
      cases makes
      rw [perform, createEmpty, registry?_create, if_pos rfl] at stands
      cases stands
      exact ⟨rfl, Registry.wellFormed_empty _⟩
  | createBuiltIn target =>
      cases makes
      rw [perform, createBuiltIn, registry?_create, if_pos rfl] at stands
      rw [← Option.some.inj stands]
      exact ⟨Registry.identity_withBuiltIns _, Registry.wellFormed_withBuiltIns _⟩
  | copy source target =>
      rcases Option.map_eq_some_iff.mp makes with ⟨original, found, rfl⟩
      rw [perform, copy, found] at stands
      dsimp only at stands
      rw [registry?_create, if_pos rfl] at stands
      cases stands
      exact ⟨rfl, (wellFormed found).copy _⟩
  | intern _ _ => cases makes
  | define _ _ => cases makes

/-- Any other registry was there before, and has at most grown. -/
theorem registry?_perform_of_not_made
    (wellFormed : ∀ {name registry}, workspace.registry? name = some registry →
      registry.WellFormed)
    (makesNot : workspace.made? request ≠ some name)
    (stands : Workspace.registry? (workspace.perform request) name = some registry) :
    ∃ earlier, workspace.registry? name = some earlier ∧ earlier.GrowsTo registry ∧
      registry.WellFormed := by
  have kept : workspace.registry? name = some registry →
      ∃ earlier, workspace.registry? name = some earlier ∧ earlier.GrowsTo registry ∧
        registry.WellFormed :=
    fun before => ⟨registry, before, .refl registry, wellFormed before⟩
  have changed : ∀ change found, workspace.registry? name = found →
      found.map (Registry.change · change) = some registry →
      ∃ earlier, workspace.registry? name = some earlier ∧
        earlier.GrowsTo registry ∧ registry.WellFormed := by
    rintro change _ rfl after
    rcases Option.map_eq_some_iff.mp after with ⟨earlier, before, rfl⟩
    exact ⟨earlier, before, .change (wellFormed before).indexed change,
      (wellFormed before).change change⟩
  cases request with
  | createEmpty target =>
      rw [perform, createEmpty, registry?_create,
        if_neg fun equal => makesNot (by rw [made?, equal])] at stands
      exact kept stands
  | createBuiltIn target =>
      rw [perform, createBuiltIn, registry?_create,
        if_neg fun equal => makesNot (by rw [made?, equal])] at stands
      exact kept stands
  | copy source target =>
      rw [perform, copy] at stands
      cases found : workspace.registry? source with
      | none =>
          rw [found] at stands
          exact kept stands
      | some original =>
          rw [found] at stands
          dsimp only at stands
          rw [registry?_create,
            if_neg fun equal => makesNot (by rw [made?, found, equal]; rfl)] at stands
          exact kept stands
  | intern target className =>
      rw [perform, registry?_intern] at stands
      split at stands
      · next equal => exact changed _ _ rfl (equal ▸ stands)
      · exact kept stands
  | define target batch =>
      rw [perform, registry?_define] at stands
      split at stands
      · next equal => exact changed _ _ rfl (equal ▸ stands)
      · exact kept stands

theorem nextIdentity_perform (workspace : Workspace) (request : Request) :
    (workspace.perform request).nextIdentity =
      if (workspace.made? request).isSome = true then workspace.nextIdentity + 1
      else workspace.nextIdentity := by
  cases request with
  | createEmpty target => rfl
  | createBuiltIn target => rfl
  | copy source target =>
      rw [perform, copy, made?]
      cases workspace.registry? source <;> rfl
  | intern target className =>
      rw [perform, intern, made?]
      cases workspace.registry? target <;> rfl
  | define target batch =>
      rw [perform, define, made?]
      cases workspace.registry? target with
      | none => rfl
      | some registry =>
          dsimp only
          cases registry.define batch <;> rfl

end Workspace

/-! ## A run -/

/-- A workspace, how many requests have been performed, and when the registry under
each name was made. -/
structure Chronicle where
  workspace : Workspace
  moment : Nat
  birth? : String → Option Nat

namespace Chronicle

open Workspace

def start : Chronicle :=
  ⟨.empty, 0, fun _ => none⟩

def record (chronicle : Chronicle) (request : Request) : Chronicle where
  workspace := chronicle.workspace.perform request
  moment := chronicle.moment + 1
  birth? name :=
    if chronicle.workspace.made? request = some name then some chronicle.moment
    else chronicle.birth? name

def after (requests : List Request) : Chronicle :=
  requests.foldl record start

variable {chronicle later : Chronicle} {name other : String} {registry grown : Registry}

/-- At any one moment no two names share a birth or an identity, and both are older
than whatever is made next. -/
structure Sound (chronicle : Chronicle) : Prop where
  wellFormed : ∀ {name registry}, chronicle.workspace.registry? name = some registry →
    registry.WellFormed
  born : ∀ {name registry}, chronicle.workspace.registry? name = some registry →
    ∃ birth, chronicle.birth? name = some birth ∧ birth < chronicle.moment
  identity_lt : ∀ {name registry}, chronicle.workspace.registry? name = some registry →
    registry.identity.number < chronicle.workspace.nextIdentity
  name_eq_of_birth : ∀ {name other registry another},
    chronicle.workspace.registry? name = some registry →
    chronicle.workspace.registry? other = some another →
    chronicle.birth? name = chronicle.birth? other → name = other
  name_eq_of_identity : ∀ {name other registry another},
    chronicle.workspace.registry? name = some registry →
    chronicle.workspace.registry? other = some another →
    registry.identity = another.identity → name = other

theorem Sound.birth_ne_moment (sound : chronicle.Sound)
    (stands : chronicle.workspace.registry? name = some registry) :
    chronicle.birth? name ≠ some chronicle.moment := by
  rcases sound.born stands with ⟨birth, born, older⟩
  rw [born]
  exact fun same => Nat.ne_of_lt older (Option.some.inj same)

/-- What a request makes of the registry under one name. -/
theorem Sound.record_cases (sound : chronicle.Sound) {request : Request}
    (stands : Workspace.registry? (chronicle.record request).workspace name = some registry) :
    registry.WellFormed ∧
      ((chronicle.workspace.made? request = some name ∧
          (chronicle.record request).birth? name = some chronicle.moment ∧
          registry.identity = ⟨chronicle.workspace.nextIdentity⟩ ∧
          (chronicle.record request).workspace.nextIdentity =
            chronicle.workspace.nextIdentity + 1) ∨
        (chronicle.workspace.made? request ≠ some name ∧
          (chronicle.record request).birth? name = chronicle.birth? name ∧
          ∃ earlier, chronicle.workspace.registry? name = some earlier ∧
            earlier.GrowsTo registry)) := by
  by_cases makes : chronicle.workspace.made? request = some name
  · rcases registry?_perform_of_made sound.wellFormed makes stands with ⟨identity, wellFormed⟩
    refine ⟨wellFormed, .inl ⟨makes, if_pos makes, identity, ?_⟩⟩
    rw [record, nextIdentity_perform, makes, Option.isSome_some, if_pos rfl]
  · rcases registry?_perform_of_not_made sound.wellFormed makes stands with
      ⟨earlier, before, growth, wellFormed⟩
    exact ⟨wellFormed, .inr ⟨makes, if_neg makes, earlier, before, growth⟩⟩

theorem nextIdentity_le_record (chronicle : Chronicle) (request : Request) :
    chronicle.workspace.nextIdentity ≤ (chronicle.record request).workspace.nextIdentity := by
  rw [record, nextIdentity_perform]
  split <;> omega

theorem sound_start : start.Sound where
  wellFormed stands := by cases stands
  born stands := by cases stands
  identity_lt stands := by cases stands
  name_eq_of_birth stands := by cases stands
  name_eq_of_identity stands := by cases stands

theorem Sound.record (sound : chronicle.Sound) (request : Request) :
    (chronicle.record request).Sound where
  wellFormed stands := (sound.record_cases stands).1
  born stands := by
    rcases (sound.record_cases stands).2 with ⟨-, birth, -⟩ | ⟨-, birth, earlier, before, -⟩
    · exact ⟨chronicle.moment, birth, Nat.lt_succ_self _⟩
    · rcases sound.born before with ⟨moment, born, older⟩
      exact ⟨moment, birth.trans born, Nat.lt_succ_of_lt older⟩
  identity_lt stands := by
    rcases (sound.record_cases stands).2 with
      ⟨-, -, identity, next⟩ | ⟨-, -, earlier, before, growth⟩
    · rw [identity, next]
      exact Nat.lt_succ_self _
    · rw [growth.identity_eq]
      exact Nat.lt_of_lt_of_le (sound.identity_lt before) (nextIdentity_le_record _ _)
  name_eq_of_birth {name other registry another} stands standsToo same := by
    rcases (sound.record_cases stands).2 with
      ⟨makes, birth, -⟩ | ⟨-, birth, earlier, before, -⟩ <;>
    rcases (sound.record_cases standsToo).2 with
      ⟨makesToo, birthToo, -⟩ | ⟨-, birthToo, earlierToo, beforeToo, -⟩
    · exact Option.some.inj (makes.symm.trans makesToo)
    · rw [birth, birthToo] at same
      exact absurd same.symm (sound.birth_ne_moment beforeToo)
    · rw [birth, birthToo] at same
      exact absurd same (sound.birth_ne_moment before)
    · rw [birth, birthToo] at same
      exact sound.name_eq_of_birth before beforeToo same
  name_eq_of_identity {name other registry another} stands standsToo same := by
    rcases (sound.record_cases stands).2 with
      ⟨makes, -, identity, -⟩ | ⟨-, -, earlier, before, growth⟩ <;>
    rcases (sound.record_cases standsToo).2 with
      ⟨makesToo, -, identityToo, -⟩ | ⟨-, -, earlierToo, beforeToo, growthToo⟩
    · exact Option.some.inj (makes.symm.trans makesToo)
    · have older := sound.identity_lt beforeToo
      rw [← growthToo.identity_eq, ← same, identity] at older
      exact absurd older (Nat.lt_irrefl _)
    · have older := sound.identity_lt before
      rw [← growth.identity_eq, same, identityToo] at older
      exact absurd older (Nat.lt_irrefl _)
    · rw [growth.identity_eq, growthToo.identity_eq] at same
      exact sound.name_eq_of_identity before beforeToo same

theorem Sound.foldl_record (sound : chronicle.Sound) (requests : List Request) :
    (requests.foldl Chronicle.record chronicle).Sound := by
  induction requests generalizing chronicle with
  | nil => exact sound
  | cons request rest induction => exact induction (sound.record request)

/-! ## Two moments of one run -/

/-- A later moment of the same run.  A registry is the same at both moments if it was
made at one moment, and then it has grown; otherwise the identities differ. -/
structure Follows (later chronicle : Chronicle) : Prop where
  moment_le : chronicle.moment ≤ later.moment
  nextIdentity_le : chronicle.workspace.nextIdentity ≤ later.workspace.nextIdentity
  growsTo : ∀ {name other registry grown},
    chronicle.workspace.registry? name = some registry →
    later.workspace.registry? other = some grown →
    chronicle.birth? name = later.birth? other → registry.GrowsTo grown
  identity_ne : ∀ {name other registry grown},
    chronicle.workspace.registry? name = some registry →
    later.workspace.registry? other = some grown →
    chronicle.birth? name ≠ later.birth? other → registry.identity ≠ grown.identity

theorem Sound.follows (sound : chronicle.Sound) : chronicle.Follows chronicle where
  moment_le := Nat.le_refl _
  nextIdentity_le := Nat.le_refl _
  growsTo {name other registry grown} stands standsToo same := by
    have equal := sound.name_eq_of_birth stands standsToo same
    rw [equal, standsToo] at stands
    cases stands
    exact .refl registry
  identity_ne stands standsToo different same :=
    different (congrArg chronicle.birth? (sound.name_eq_of_identity stands standsToo same))

theorem Follows.record (follows : later.Follows chronicle) (sound : chronicle.Sound)
    (laterSound : later.Sound) (request : Request) :
    (later.record request).Follows chronicle where
  moment_le := Nat.le_succ_of_le follows.moment_le
  nextIdentity_le := Nat.le_trans follows.nextIdentity_le (nextIdentity_le_record _ _)
  growsTo stands standsToo same := by
    rcases (laterSound.record_cases standsToo).2 with
      ⟨-, birth, -⟩ | ⟨-, birth, earlier, before, growth⟩
    · rcases sound.born stands with ⟨moment, born, older⟩
      rw [born, birth, Option.some.injEq] at same
      have notLater := follows.moment_le
      omega
    · exact (follows.growsTo stands before (same.trans birth)).trans growth
  identity_ne stands standsToo different := by
    rcases (laterSound.record_cases standsToo).2 with
      ⟨-, -, identity, -⟩ | ⟨-, birth, earlier, before, growth⟩
    · intro same
      have older := sound.identity_lt stands
      rw [same, identity] at older
      exact absurd follows.nextIdentity_le (Nat.not_le_of_lt older)
    · rw [growth.identity_eq]
      exact follows.identity_ne stands before (birth ▸ different)

theorem Follows.foldl_record (follows : later.Follows chronicle) (sound : chronicle.Sound)
    (laterSound : later.Sound) (requests : List Request) :
    (requests.foldl Chronicle.record later).Follows chronicle := by
  induction requests generalizing later with
  | nil => exact follows
  | cons request rest induction =>
      exact induction (follows.record sound laterSound request) (laterSound.record request)

theorem sound_after (requests : List Request) : (after requests).Sound :=
  sound_start.foldl_record requests

theorem follows_after_take (requests : List Request) {first second : Nat}
    (ordered : first ≤ second) :
    (after (requests.take second)).Follows (after (requests.take first)) := by
  have split := (List.take_append_drop first (requests.take second)).symm
  rw [List.take_take, Nat.min_eq_left ordered] at split
  rw [split, after, List.foldl_append]
  exact (sound_after _).follows.foldl_record (sound_after _) (sound_after _) _

/-- Whatever their order in the run, two registries are told apart by their births as
by their identities, and one that was made only once has no class with two
definitions. -/
theorem compare_after_take {requests : List Request} {first second : Nat}
    {registry another : Registry}
    (stands : Workspace.registry? (after (requests.take first)).workspace name = some registry)
    (standsToo :
      Workspace.registry? (after (requests.take second)).workspace other = some another) :
    if (after (requests.take first)).birth? name = (after (requests.take second)).birth? other
    then registry.identity = another.identity ∧
      ∀ id definition definitionToo, registry.definition? id = some definition →
        another.definition? id = some definitionToo → definition = definitionToo
    else registry.identity ≠ another.identity := by
  rcases Nat.le_total first second with ordered | ordered
  · have follows := follows_after_take requests ordered
    split
    · next same =>
        have growth := follows.growsTo stands standsToo same
        refine ⟨growth.identity_eq.symm, fun id definition definitionToo defined definedToo => ?_⟩
        exact Option.some.inj ((growth.definition?_eq defined).symm.trans definedToo)
    · next different => exact follows.identity_ne stands standsToo different
  · have follows := follows_after_take requests ordered
    split
    · next same =>
        have growth := follows.growsTo standsToo stands same.symm
        refine ⟨growth.identity_eq, fun id definition definitionToo defined definedToo => ?_⟩
        exact Option.some.inj (defined.symm.trans (growth.definition?_eq definedToo))
    · next different =>
        exact (follows.identity_ne standsToo stands (Ne.symm different)).symm

section

variable {requests : List Request} {first second : Nat} {owner home : Registry}
  {ownerId homeId : ClassId} {ownerClass homeClass : ClassDefinition}
  (taken : Workspace.registry? (after (requests.take first)).workspace name = some owner)
  (stands : Workspace.registry? (after (requests.take second)).workspace other = some home)

include taken stands

theorem identity_eq_iff_birth_eq :
    owner.identity = home.identity ↔
      (after (requests.take first)).birth? name =
        (after (requests.take second)).birth? other := by
  have comparison := compare_after_take taken stands
  split at comparison
  · next same => exact iff_of_true comparison.1 same
  · next different => exact iff_of_false comparison different

theorem definition_eq_iff_birth_eq (ownerDefined : owner.definition? ownerId = some ownerClass)
    (homeDefined : home.definition? homeId = some homeClass) :
    ownerClass = homeClass ↔
      (after (requests.take first)).birth? name =
          (after (requests.take second)).birth? other ∧ ownerId = homeId := by
  have ownerHolds := ((sound_after _).wellFormed taken).holds ownerDefined
  have homeHolds := ((sound_after _).wellFormed stands).holds homeDefined
  constructor
  · intro equal
    rw [← identity_eq_iff_birth_eq taken stands, ← ownerHolds.registry_eq,
      ← homeHolds.registry_eq, ← ownerHolds.id_eq, ← homeHolds.id_eq, equal]
    exact ⟨rfl, rfl⟩
  · intro parts
    rcases parts with ⟨same, rfl⟩
    have comparison := compare_after_take taken stands
    rw [if_pos same] at comparison
    exact comparison.2 ownerId ownerClass homeClass ownerDefined homeDefined

end

/-- A field is refused as foreign exactly by the classes of other registries and by
the other classes of its own, and two definitions are equal exactly if they are the
same class of the same registry, however much else about them coincides. -/
theorem foreign_iff_and_equal_iff (requests : List Request) (first second : Nat)
    {name other : String} {owner home : Registry} {ownerId homeId : ClassId}
    {ownerClass homeClass : ClassDefinition}
    (taken : Workspace.registry? (after (requests.take first)).workspace name = some owner)
    (stands : Workspace.registry? (after (requests.take second)).workspace other = some home)
    (ownerDefined : owner.definition? ownerId = some ownerClass)
    (homeDefined : home.definition? homeId = some homeClass) :
    (∀ field ∈ ownerClass.fields, ∀ arguments resolver,
      home.resolver homeId arguments = .ok resolver →
      ((∃ fieldName fieldOwner target,
          resolver.resolve field = .error (.foreignField fieldName fieldOwner target)) ↔
        (after (requests.take first)).birth? name ≠
            (after (requests.take second)).birth? other ∨ ownerId ≠ homeId)) ∧
    (ownerClass = homeClass ↔
      (after (requests.take first)).birth? name =
          (after (requests.take second)).birth? other ∧ ownerId = homeId) := by
  have ownerHolds := ((sound_after _).wellFormed taken).holds ownerDefined
  have homeHolds := ((sound_after _).wellFormed stands).holds homeDefined
  have sameClass := definition_eq_iff_birth_eq taken stands ownerDefined homeDefined
  refine ⟨fun field member arguments resolver made => ?_, sameClass⟩
  rcases (Registry.resolver_eq_ok_iff homeDefined).mp made with ⟨rfl, rfl, -, -⟩
  rw [ne_eq, ne_eq, ← Decidable.not_and_iff_not_or_not, ← sameClass]
  constructor
  · intro refusal equal
    rcases refusal with ⟨fieldName, fieldOwner, target, refused⟩
    exact resolver.resolve_own_ne_foreignField (by rw [homeHolds.id_eq]; exact homeHolds)
      (equal ▸ member) fieldName fieldOwner target refused
  · intro different
    refine ⟨field.name, field.ownerName, resolver.definition.name, ?_⟩
    rw [Resolver.resolve, if_neg]
    intro declared
    rcases (FieldDefinition.isDeclaredOn_iff ownerHolds homeHolds member).mp declared with
      ⟨sameIdentity, sameId⟩
    exact different
      (sameClass.mpr ⟨(identity_eq_iff_birth_eq taken stands).mp sameIdentity, sameId⟩)

/-! The family, and in its place, under its own name, the copy of a copy. -/

def familyRun : List Request :=
  [.createBuiltIn "main", .intern "main" "family.Child",
    .define "main" [Registry.familyParent, Registry.familyChild],
    .copy "main" "spare", .intern "spare" "family.Pet", .copy "spare" "main"]

/-- The replaced family has the same names under the same ids, and its fields are
foreign to what stands in its place. -/
theorem foreign_iff_and_equal_iff_of_family :
    let home := ((Registry.family.copy ⟨1⟩).change (.intern "family.Pet")).copy ⟨2⟩
    let ownerClass := Registry.definitionOf ⟨0⟩ ⟨18⟩ Registry.familyParent
    let homeClass := Registry.definitionOf ⟨2⟩ ⟨18⟩ Registry.familyParent
    Workspace.registry? (after (familyRun.take 3)).workspace "main" = some Registry.family ∧
      Workspace.registry? (after (familyRun.take 6)).workspace "main" = some home ∧
      Registry.family.definition? ⟨18⟩ = some ownerClass ∧
      home.definition? ⟨18⟩ = some homeClass ∧
      (after (familyRun.take 3)).birth? "main" = some 0 ∧
      (after (familyRun.take 6)).birth? "main" = some 5 ∧
      (∀ field ∈ ownerClass.fields, ∀ arguments resolver,
        home.resolver ⟨18⟩ arguments = .ok resolver →
        ((∃ fieldName fieldOwner target,
            resolver.resolve field = .error (.foreignField fieldName fieldOwner target)) ↔
          (after (familyRun.take 3)).birth? "main" ≠
              (after (familyRun.take 6)).birth? "main" ∨ (⟨18⟩ : ClassId) ≠ ⟨18⟩)) ∧
      (ownerClass = homeClass ↔
        (after (familyRun.take 3)).birth? "main" =
            (after (familyRun.take 6)).birth? "main" ∧ (⟨18⟩ : ClassId) = ⟨18⟩) := by
  intro home ownerClass homeClass
  have taken : Workspace.registry? (after (familyRun.take 3)).workspace "main" =
      some Registry.family := by
    decide +kernel
  have stands : Workspace.registry? (after (familyRun.take 6)).workspace "main" = some home := by
    decide +kernel
  have ownerDefined : Registry.family.definition? ⟨18⟩ = some ownerClass := by decide +kernel
  have homeDefined : home.definition? ⟨18⟩ = some homeClass := by decide +kernel
  exact ⟨taken, stands, ownerDefined, homeDefined, by decide +kernel, by decide +kernel,
    foreign_iff_and_equal_iff familyRun 3 6 taken stands ownerDefined homeDefined⟩

end Chronicle

end FieldTypes
