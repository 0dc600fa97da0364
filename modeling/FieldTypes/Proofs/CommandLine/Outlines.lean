import FieldTypes.Proofs.CommandLine.ExitCode
import FieldTypes.Proofs.Expression.Origins
import FieldTypes.Proofs.Registry.Splitting
import FieldTypes.Proofs.Resolution.Nodes

/-! Outlines have names where types have ids, and nothing is lost by it: a registry has no
name twice, so an outline can be read back, and as long as all classes in a type have names
its outline is written like the type itself.  In a report the outline and the text next to it
therefore show one and the same type. -/

namespace FieldTypes

/-- A node without a class, or with a class that has a name. -/
def Head.HasName (registry : Registry) : Head → Prop
  | .plain id | .applied id _ => (registry.nameOf? id).isSome = true
  | .primitive _ | .array => True

namespace ResolvedType

variable {registry : Registry}

/-- Every class in the type has a name. -/
def HasNames (registry : Registry) (type : ResolvedType) : Prop :=
  ∀ node ∈ type.nodes, ∀ id, node.rawClass? = some id → (registry.nameOf? id).isSome = true

theorem hasNames_iff {type : ResolvedType} :
    type.HasNames registry ↔ ∀ node ∈ type.nodes, node.head.HasName registry := by
  apply forall₂_congr
  intro node _
  cases node with
  | primitive _ | array _ => exact iff_of_true nofun trivial
  | plain id | parameterized id _ =>
      constructor
      · intro named
        exact named id rfl
      · rintro named _ ⟨⟩
        exact named

@[simp] theorem hasNames_primitive (kind : Primitive) : (primitive kind).HasNames registry := by
  simp [hasNames_iff, nodes, head, Head.HasName]

@[simp] theorem hasNames_plain (id : ClassId) :
    (plain id).HasNames registry ↔ (registry.nameOf? id).isSome = true := by
  simp [hasNames_iff, nodes, head, Head.HasName]

@[simp] theorem hasNames_array (component : ResolvedType) :
    (array component).HasNames registry ↔ component.HasNames registry := by
  simp [hasNames_iff, nodes, head, Head.HasName]

@[simp] theorem hasNames_parameterized (raw : ClassId) (arguments : List ResolvedType) :
    (parameterized raw arguments).HasNames registry ↔
      (registry.nameOf? raw).isSome = true ∧
        ∀ argument ∈ arguments, argument.HasNames registry := by
  simp only [hasNames_iff, nodes, allNodes_eq_flatMap, List.forall_mem_cons,
    List.forall_mem_flatMap]
  exact Iff.rfl

end ResolvedType

/-! ## Resolved types with names -/

namespace Registry

variable {registry : Registry} {bound? : String → Option ResolvedType} {place : Place}
  {type : DeclaredType} {result : ResolvedType}

theorem hasNames_of_substitute {variableNames : String → Prop}
    (within : type.Within (fun id => (registry.nameOf? id).isSome = true) variableNames)
    (bound : ∀ name argument, bound? name = some argument → argument.HasNames registry)
    (passed : registry.substitute bound? place type = .ok result) : result.HasNames registry := by
  rw [ResolvedType.hasNames_iff, forall_nodes_of_substitute passed]
  intro node member
  have here := within node member
  cases node with
  | plain id | parameterized id _ => exact List.forall_mem_singleton.mpr here
  | primitive _ | array _ => exact List.forall_mem_singleton.mpr trivial
  | typeVariable name =>
      refine DeclaredType.forall_headsUnder_typeVariable.mpr fun argument found => ?_
      exact ResolvedType.hasNames_iff.mp (bound name argument found)
  | anyWildcard | extendsWildcard _ | superWildcard _ => exact List.forall_mem_nil _

theorem isSome_nameOf?_of_arity? {id : ClassId} (known : (registry.arity? id).isSome = true) :
    (registry.nameOf? id).isSome = true := by
  rw [arity?, Option.isSome_map, Option.isSome_iff_exists] at known
  rcases known with ⟨definition, defined⟩
  exact Option.isSome_iff_exists.mpr (exists_nameOf?_of_definition? defined)

theorem Denotes.hasNames (indexed : registry.Indexed) {text : String}
    (denotes : registry.Denotes text result) : result.HasNames registry := by
  rcases denotes with ⟨declared, read, concrete⟩
  have within := Expression.within_of_parse indexed (fun _ _ own => by cases own) read
  exact hasNames_of_substitute within (fun _ _ bound => by cases bound) concrete

end Registry

/-! ## Outlines -/

namespace Outline

variable {registry : Registry} {type : ResolvedType} {id : ClassId} {name : String}

mutual
/-- The type that an outline stands for, by the names in it. -/
def resolved? (registry : Registry) : Outline → Option ResolvedType
  | .primitive name => (Primitive.ofKeyword? name).map .primitive
  | .plain name => (registry.idOf? name).map .plain
  | .parameterized rawType arguments =>
      (registry.idOf? rawType).bind fun raw =>
        (resolvedAll? registry arguments).map (.parameterized raw)
  | .array component => (resolved? registry component).map .array

def resolvedAll? (registry : Registry) : List Outline → Option (List ResolvedType)
  | [] => some []
  | outline :: rest =>
      (resolved? registry outline).bind fun type =>
        (resolvedAll? registry rest).map (type :: ·)
end

theorem nameIn_of_nameOf? (named : registry.nameOf? id = some name) :
    nameIn registry id = name := by
  rw [nameIn, named, Option.getD_some]

theorem idOf?_nameIn (indexed : registry.Indexed)
    (named : (registry.nameOf? id).isSome = true) :
    registry.idOf? (nameIn registry id) = some id := by
  rcases Option.isSome_iff_exists.mp named with ⟨name, named⟩
  rw [nameIn_of_nameOf? named, indexed.idOf?_iff, named]

theorem ofAllResolved_eq_map (nameOf : ClassId → String) (types : List ResolvedType) :
    ofAllResolved nameOf types = types.map (ofResolved nameOf) := by
  induction types with
  | nil => rfl
  | cons type rest induction => rw [ofAllResolved, induction, List.map_cons]

theorem resolvedAll?_map {types : List ResolvedType} {outlineOf : ResolvedType → Outline}
    (each : ∀ type ∈ types, (outlineOf type).resolved? registry = some type) :
    resolvedAll? registry (types.map outlineOf) = some types := by
  induction types with
  | nil => rfl
  | cons type rest induction =>
      rcases List.forall_mem_cons.mp each with ⟨here, later⟩
      rw [List.map_cons, resolvedAll?, here, Option.bind_some, induction later, Option.map_some]

/-- An outline can be read back. -/
theorem resolved?_inRegistry (indexed : registry.Indexed) (named : type.HasNames registry) :
    (inRegistry registry type).resolved? registry = some type := by
  rw [inRegistry]
  induction type with
  | primitive kind =>
      rw [ofResolved, resolved?, Primitive.ofKeyword?_eq_some_iff.mpr rfl, Option.map_some]
  | plain id =>
      rw [ofResolved, resolved?, idOf?_nameIn indexed ((ResolvedType.hasNames_plain id).mp named),
        Option.map_some]
  | array component induction =>
      rw [ofResolved, resolved?, induction ((ResolvedType.hasNames_array component).mp named),
        Option.map_some]
  | parameterized raw arguments induction =>
      rcases (ResolvedType.hasNames_parameterized raw arguments).mp named with
        ⟨rawNamed, argumentsNamed⟩
      rw [ofResolved, resolved?, idOf?_nameIn indexed rawNamed, Option.bind_some,
        ofAllResolved_eq_map, resolvedAll?_map, Option.map_some]
      intro argument member
      exact induction argument member (argumentsNamed argument member)

theorem inRegistry_inj (indexed : registry.Indexed) {other : ResolvedType}
    (named : type.HasNames registry) (otherNamed : other.HasNames registry) :
    inRegistry registry type = inRegistry registry other ↔ type = other := by
  constructor
  · intro same
    have back := resolved?_inRegistry indexed named
    rw [same, resolved?_inRegistry indexed otherNamed] at back
    exact (Option.some.inj back).symm
  · exact congrArg _

mutual
theorem json_inj : ∀ left right : Outline, left.json = right.json ↔ left = right
  | .primitive _, right => by cases right <;> simp [json]
  | .plain _, right => by cases right <;> simp [json]
  | .parameterized _ arguments, right => by cases right <;> simp [json, jsons_inj arguments]
  | .array component, right => by cases right <;> simp [json, json_inj component]

theorem jsons_inj : ∀ left right : List Outline, jsons left = jsons right ↔ left = right
  | [], right => by cases right <;> simp [jsons]
  | left :: lefts, right => by
      cases right <;> simp [jsons, json_inj left, jsons_inj lefts]
end

/-! An outline is written with the names in it, and all is well if these are the names under
which the classes are displayed. -/

mutual
theorem text_ofResolved (nameOf : ClassId → String) : ∀ type : ResolvedType,
    (ofResolved nameOf type).text = type.textUnder nameOf
  | .primitive _ | .plain _ => rfl
  | .parameterized _ arguments => by
      rw [ofResolved, text, texts_ofAllResolved nameOf arguments, ResolvedType.textUnder]
  | .array component => by
      rw [ofResolved, text, text_ofResolved nameOf component, ResolvedType.textUnder]

theorem texts_ofAllResolved (nameOf : ClassId → String) : ∀ types : List ResolvedType,
    texts (ofAllResolved nameOf types) = ResolvedType.textsUnder nameOf types
  | [] => rfl
  | type :: rest => by
      rw [ofAllResolved, texts, text_ofResolved nameOf type, texts_ofAllResolved nameOf rest,
        ResolvedType.textsUnder]
end

theorem nameIn_eq_displayName (named : (registry.nameOf? id).isSome = true) :
    nameIn registry id = registry.displayName id := by
  rcases Option.isSome_iff_exists.mp named with ⟨name, named⟩
  rw [nameIn_of_nameOf? named, Registry.displayName_of_nameOf? named]

theorem textUnder_nameIn (named : type.HasNames registry) :
    type.textUnder (nameIn registry) = registry.resolvedText type := by
  rw [Registry.resolvedText]
  induction type with
  | primitive kind => rfl
  | plain id => exact nameIn_eq_displayName ((ResolvedType.hasNames_plain id).mp named)
  | array component induction =>
      rw [ResolvedType.textUnder, ResolvedType.textUnder,
        induction ((ResolvedType.hasNames_array component).mp named)]
  | parameterized raw arguments induction =>
      rcases (ResolvedType.hasNames_parameterized raw arguments).mp named with
        ⟨rawNamed, argumentsNamed⟩
      have same : arguments.map (·.textUnder (nameIn registry)) =
          arguments.map (·.textUnder registry.displayName) :=
        List.map_congr_left fun argument member =>
          induction argument member (argumentsNamed argument member)
      rw [ResolvedType.textUnder, ResolvedType.textUnder, ResolvedType.textsUnder_eq_map,
        ResolvedType.textsUnder_eq_map, same, nameIn_eq_displayName rawNamed]

theorem text_inRegistry (named : type.HasNames registry) :
    (inRegistry registry type).text = registry.resolvedText type := by
  rw [inRegistry, text_ofResolved, textUnder_nameIn named]

end Outline

/-! ## Reports -/

namespace Registry

variable {registry : Registry} {id : ClassId} {arguments : List ResolvedType}
  {resolver : Resolver}

section

variable (wellFormed : registry.WellFormed)
  (made : registry.resolver id arguments = .ok resolver)
  (named : ∀ argument ∈ arguments, argument.HasNames registry)

include wellFormed made named

theorem hasNames_classType : resolver.classType.HasNames registry := by
  have classNamed : (registry.nameOf? id).isSome = true :=
    Option.isSome_iff_exists.mpr (exists_nameOf?_of_definition? (parts_of_resolver made).1)
  rw [wellFormed.classType_eq made]
  split
  · exact (ResolvedType.hasNames_parameterized id arguments).mpr ⟨classNamed, named⟩
  · exact (ResolvedType.hasNames_plain id).mpr classNamed

theorem hasNames_of_resolve {field : FieldDefinition}
    (own : field ∈ resolver.definition.fields) {type : ResolvedType}
    (resolved : resolver.resolve field = .ok type) : type.HasNames registry := by
  rcases parts_of_resolver made with ⟨defined, rfl, rfl⟩
  have fits := (wellFormed.holds defined).types_fit field own
  -- A definition mentions no class but those whose parameters were counted, and these are
  -- defined, so that they have names.
  have within := fits.within.mono (fun _ => isSome_nameOf?_of_arity?) fun _ parameter => parameter
  rw [Resolver.resolve] at resolved
  split at resolved
  · apply hasNames_of_substitute within _ resolved
    intro name argument bound
    exact named argument (Resolver.mem_of_bound? bound)
  · cases resolved

end

end Registry

namespace CommandLine

variable {registry : Registry} {type : ResolvedType}

/-- The outline and the text both show the type, and the outline shows no other. -/
structure Shows (registry : Registry) (type : ResolvedType) (outline : Outline)
    (text : String) : Prop where
  named : type.HasNames registry
  outline_iff : ∀ other : ResolvedType, other.HasNames registry →
    (Outline.inRegistry registry other = outline ↔ other = type)
  text_eq : text = registry.resolvedText type
  outline_text : outline.text = text

theorem shows_inRegistry (indexed : registry.Indexed) (named : type.HasNames registry) :
    Shows registry type (Outline.inRegistry registry type) (registry.resolvedText type) where
  named := named
  outline_iff _ otherNamed := Outline.inRegistry_inj indexed otherNamed named
  text_eq := rfl
  outline_text := Outline.text_inRegistry named

/-- The outcome puts out the class of a resolver.  The outline and the text that are put out
for the class show the same type, and so do those for each field that resolves. -/
def ShowsTypes (registry : Registry) (resolver : Resolver) (asJson : Bool) (outcome : Outcome) :
    Prop :=
  ∃ outline display shown, Shows registry resolver.classType outline display ∧
    List.Forall₂ (fun field entry => ∀ type, resolver.resolve field = .ok type →
        ∃ descriptor text, Shows registry type descriptor text ∧
          entry = typeEntry registry field text descriptor)
      resolver.definition.fields shown ∧
    outcome.PutsOutClass asJson resolver.definition.name outline display shown

theorem showsTypes_make (wellFormed : registry.WellFormed) {id : ClassId}
    {arguments : List ResolvedType} {resolver : Resolver}
    (made : registry.resolver id arguments = .ok resolver)
    (named : ∀ argument ∈ arguments, argument.HasNames registry) (code : Nat) (asJson : Bool) :
    ShowsTypes registry resolver asJson
      (.reported code asJson (ResolveReport.make resolver).lines
        (ResolveReport.make resolver).json) := by
  rcases Registry.parts_of_resolver made with ⟨-, rfl, -⟩
  rcases exists_putsOutClass_of_tells (tells_make resolver) code asJson with
    ⟨shown, fields, putsOut⟩
  refine ⟨_, _, shown, shows_inRegistry wellFormed.indexed
    (Registry.hasNames_classType wellFormed made named), ?_, putsOut⟩
  apply forall₂_imp_of_mem _ fields
  intro field own entry entryShown type resolved
  have typeNamed := Registry.hasNames_of_resolve wellFormed made named own resolved
  refine ⟨_, _, shows_inRegistry wellFormed.indexed typeNamed, ?_⟩
  cases entryShown with
  | failed outcome => cases resolved.symm.trans outcome
  | resolved outcome =>
      cases resolved.symm.trans outcome
      rfl

/-- A request to resolve a class ends with a message if there is no resolver for it, and else
with a report that shows types. -/
theorem showsTypes_or_message (wellFormed : registry.WellFormed) (className : String)
    (arguments : List String) (asJson : Bool) :
    let outcome := (resolved className arguments asJson registry).2
    (∃ id types resolver, registry.lookup? className = some id ∧
      typeArguments registry arguments = .ok types ∧
      registry.resolver id types = .ok resolver ∧
      ShowsTypes registry resolver asJson outcome) ∨
    (¬ ∃ id types resolver, registry.lookup? className = some id ∧
      typeArguments registry arguments = .ok types ∧
      registry.resolver id types = .ok resolver) ∧
      ∃ message, outcome = .fault asJson message ∨ outcome = .refusal message := by
  rw [resolved]
  cases found : registry.lookup? className with
  | none => exact .inr ⟨by simp, _, .inl rfl⟩
  | some id =>
      cases passed : typeArguments registry arguments with
      | error failure => exact .inr ⟨by simp, _, .inr rfl⟩
      | ok types =>
          dsimp only
          cases made : registry.resolver id types with
          | error failure => exact .inr ⟨by simp [made], _, .inl rfl⟩
          | ok resolver =>
              have named : ∀ type ∈ types, type.HasNames registry := by
                intro type member
                rcases exists_mem_of_forall₂ (typeArguments_eq_ok_iff.mp passed).flip member with
                  ⟨text, -, denotes, -⟩
                exact denotes.hasNames wellFormed.indexed
              exact .inl ⟨id, types, resolver, rfl, rfl, made,
                showsTypes_make wellFormed made named _ asJson⟩

/-- Types over named classes have equal outlines only if they are equal, in JSON as well, and
the text of an outline is the text of its type.  So a report of the command shows the same
types by its outlines and by its texts. -/
theorem outline_loses_nothing (reachable : registry.Reachable) :
    (∀ left right : ResolvedType, left.HasNames registry → right.HasNames registry →
      (Outline.inRegistry registry left = Outline.inRegistry registry right ↔ left = right) ∧
      ((Outline.inRegistry registry left).json = (Outline.inRegistry registry right).json ↔
        left = right)) ∧
    (∀ type : ResolvedType, type.HasNames registry →
      (Outline.inRegistry registry type).text = registry.resolvedText type) ∧
    ∀ className arguments asJson,
      let outcome := (resolved className arguments asJson registry).2
      (∃ id types resolver, registry.lookup? className = some id ∧
        typeArguments registry arguments = .ok types ∧
        registry.resolver id types = .ok resolver ∧
        ShowsTypes registry resolver asJson outcome) ∨
      (¬ ∃ id types resolver, registry.lookup? className = some id ∧
        typeArguments registry arguments = .ok types ∧
        registry.resolver id types = .ok resolver) ∧
        ∃ message, outcome = .fault asJson message ∨ outcome = .refusal message := by
  have wellFormed := reachable.wellFormed
  refine ⟨?_, fun type => Outline.text_inRegistry, showsTypes_or_message wellFormed⟩
  intro left right leftNamed rightNamed
  have same := Outline.inRegistry_inj wellFormed.indexed leftNamed rightNamed
  exact ⟨same, (Outline.json_inj _ _).trans same⟩

/-- The outline of an array of parents, and a report in which it stands. -/
theorem outline_loses_nothing_of_family :
    let parents : ResolvedType := .array (.parameterized ⟨18⟩ [.array (.primitive .int)])
    let outline := Outline.inRegistry Registry.family parents
    Registry.family.Reachable ∧ parents.HasNames Registry.family ∧
      outline.text = "family.Parent<int[]>[]" ∧
      (resolved "Child" ["int[]"] true Registry.family).2.code = 0 ∧
      (∀ left right : ResolvedType,
        left.HasNames Registry.family → right.HasNames Registry.family →
        (Outline.inRegistry Registry.family left = Outline.inRegistry Registry.family right ↔
          left = right) ∧
        ((Outline.inRegistry Registry.family left).json =
            (Outline.inRegistry Registry.family right).json ↔ left = right)) ∧
      (∀ type : ResolvedType, type.HasNames Registry.family →
        (Outline.inRegistry Registry.family type).text = Registry.family.resolvedText type) ∧
      ∀ className arguments asJson,
        let outcome := (resolved className arguments asJson Registry.family).2
        (∃ id types resolver, Registry.family.lookup? className = some id ∧
          typeArguments Registry.family arguments = .ok types ∧
          Registry.family.resolver id types = .ok resolver ∧
          ShowsTypes Registry.family resolver asJson outcome) ∨
        (¬ ∃ id types resolver, Registry.family.lookup? className = some id ∧
          typeArguments Registry.family arguments = .ok types ∧
          Registry.family.resolver id types = .ok resolver) ∧
          ∃ message, outcome = .fault asJson message ∨ outcome = .refusal message := by
  intro parents outline
  have named : parents.HasNames Registry.family := by
    rw [ResolvedType.hasNames_array, ResolvedType.hasNames_parameterized]
    exact ⟨by decide +kernel, by simp⟩
  exact ⟨Registry.family_reachable, named, by decide +kernel, by decide +kernel,
    outline_loses_nothing Registry.family_reachable⟩

end CommandLine

end FieldTypes
