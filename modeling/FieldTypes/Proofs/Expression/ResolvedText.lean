import FieldTypes.Proofs.Expression.RoundTrip
import FieldTypes.Proofs.Resolution.Arities
import FieldTypes.Proofs.Resolution.Renumbering

/-! The text of a resolved type stands for that type.  It is the text of a declared type as
well, one without variables and wildcards, which gives the resolved type when it is made
concrete.  What remains is that the text can be read: this takes names that are names and
not keywords, and arguments that the grammar has a place for. -/

namespace FieldTypes

namespace ResolvedType

/-! ## Resolved types as declared types -/

mutual
/-- The declared type that is written in the same way. -/
def declared : ResolvedType → DeclaredType
  | .primitive kind => .primitive kind
  | .plain id => .plain id
  | .parameterized raw arguments => .parameterized raw (declaredAll arguments)
  | .array component => .array component.declared

def declaredAll : List ResolvedType → List DeclaredType
  | [] => []
  | argument :: rest => argument.declared :: declaredAll rest
end

theorem declaredAll_eq_map (types : List ResolvedType) :
    declaredAll types = types.map declared := by
  induction types with
  | nil => rfl
  | cons type rest induction => rw [declaredAll, induction, List.map_cons]

section

variable (nameOf : ClassId → String) (variableText : String → String)

mutual
theorem textUnder_declared : ∀ type : ResolvedType,
    type.declared.textUnder nameOf variableText = type.textUnder nameOf
  | .primitive _ | .plain _ => rfl
  | .parameterized _ arguments => by
      rw [declared, DeclaredType.textUnder, textUnder, textsUnder_declaredAll arguments]
  | .array component => by
      rw [declared, DeclaredType.textUnder, textUnder, textUnder_declared component]

theorem textsUnder_declaredAll : ∀ types : List ResolvedType,
    DeclaredType.textsUnder nameOf variableText (declaredAll types) = textsUnder nameOf types
  | [] => rfl
  | type :: rest => by
      rw [declaredAll, DeclaredType.textsUnder, textsUnder, textUnder_declared type,
        textsUnder_declaredAll rest]
end

end

mutual
theorem depth_declared : ∀ type : ResolvedType, type.declared.depth = type.depth
  | .primitive _ | .plain _ => rfl
  | .parameterized _ arguments => by
      rw [declared, DeclaredType.depth, depth, greatestDepth_declaredAll arguments]
  | .array component => by rw [declared, DeclaredType.depth, depth, depth_declared component]

theorem greatestDepth_declaredAll : ∀ types : List ResolvedType,
    DeclaredType.greatestDepth (declaredAll types) = greatestDepth types
  | [] => rfl
  | type :: rest => by
      rw [declaredAll, DeclaredType.greatestDepth, greatestDepth, depth_declared type,
        greatestDepth_declaredAll rest]
end

theorem declared_ne_primitive {type : ResolvedType} (reference : type.isPrimitive = false)
    (kind : Primitive) : type.declared ≠ .primitive kind := by
  intro same
  cases type with
  | primitive _ => cases reference
  | plain _ | parameterized _ _ | array _ => cases same

/-! ## Types that a text can stand for -/

variable {registry : Registry}

/-- A class that has a name, or a class with arguments, as many as it has type parameters,
but at least one and none of them primitive. -/
def NodeIsWritable (registry : Registry) : ResolvedType → Prop
  | .plain id => (registry.nameOf? id).isSome = true
  | .parameterized raw arguments =>
      registry.arity? raw = some arguments.length ∧ arguments ≠ [] ∧
        ∀ argument ∈ arguments, argument.isPrimitive = false
  | .primitive _ | .array _ => True

instance (registry : Registry) : DecidablePred (NodeIsWritable registry)
  | .plain id => inferInstanceAs (Decidable ((registry.nameOf? id).isSome = true))
  | .parameterized raw arguments =>
      inferInstanceAs (Decidable (registry.arity? raw = some arguments.length ∧
        arguments ≠ [] ∧ ∀ argument ∈ arguments, argument.isPrimitive = false))
  | .primitive _ | .array _ => isTrue trivial

def Writable (registry : Registry) (type : ResolvedType) : Prop :=
  ∀ node ∈ type.nodes, node.NodeIsWritable registry

instance (registry : Registry) (type : ResolvedType) : Decidable (type.Writable registry) :=
  inferInstanceAs (Decidable (∀ node ∈ type.nodes, node.NodeIsWritable registry))

@[simp] theorem writable_plain (id : ClassId) :
    (plain id).Writable registry ↔ (registry.nameOf? id).isSome = true :=
  List.forall_mem_singleton

@[simp] theorem writable_array (component : ResolvedType) :
    (array component).Writable registry ↔ component.Writable registry := by
  rw [Writable, nodes, List.forall_mem_cons]
  exact and_iff_right trivial

@[simp] theorem writable_parameterized (raw : ClassId) (arguments : List ResolvedType) :
    (parameterized raw arguments).Writable registry ↔
      (registry.arity? raw = some arguments.length ∧ arguments ≠ [] ∧
        ∀ argument ∈ arguments, argument.isPrimitive = false) ∧
      ∀ argument ∈ arguments, argument.Writable registry := by
  rw [Writable, nodes, allNodes_eq_flatMap, List.forall_mem_cons, List.forall_mem_flatMap]
  exact Iff.rfl

theorem Writable.hasArities {type : ResolvedType} (writable : type.Writable registry) :
    type.HasArities registry :=
  fun _ _ member => (writable _ member).1

end ResolvedType

namespace Registry

variable {registry : Registry} {type : ResolvedType}

/-- Nothing is left to substitute in a resolved type. -/
theorem substitute_declared {bound? : String → Option ResolvedType} {place : Place}
    (arities : type.HasArities registry) :
    registry.substitute bound? place type.declared = .ok type := by
  induction type with
  | primitive kind => rfl
  | plain id => rfl
  | parameterized raw arguments induction =>
      rcases (ResolvedType.hasArities_parameterized raw arguments).mp arities with
        ⟨arity, argumentsToo⟩
      rw [ResolvedType.declared, ResolvedType.declaredAll_eq_map,
        substitute_parameterized_eq_ok_iff, List.length_map]
      have each : List.Forall₂ (fun argument result =>
          registry.substitute bound? place argument.declared = .ok result) arguments arguments :=
        List.forall₂_same.mpr fun argument member =>
          induction argument member (argumentsToo argument member)
      exact ⟨arity, arguments, List.forall₂_map_left_iff.mpr each, rfl⟩
  | array component induction =>
      rw [ResolvedType.declared, substitute_array_eq_ok_iff]
      exact ⟨component, induction ((ResolvedType.hasArities_array component).mp arities), rfl⟩

/-- The names of classes are names in the grammar, and no keywords. -/
def HasProperNames (registry : Registry) : Prop :=
  ∀ id name, registry.nameOf? id = some name →
    Expression.isName name = true ∧ ∀ kind : Primitive, kind.keyword ≠ name

theorem hasProperNames_of_slots (proper : ∀ slot ∈ registry.slots,
    Expression.isName slot.name = true ∧ ∀ kind ∈ Primitive.all, kind.keyword ≠ slot.name) :
    registry.HasProperNames := by
  intro id name named
  rcases Option.map_eq_some_iff.mp named with ⟨slot, found, rfl⟩
  rcases proper slot (List.mem_of_getElem? found) with ⟨isName, noKeyword⟩
  exact ⟨isName, fun kind => noKeyword kind kind.mem_all⟩

/-- Without type parameters and own class, a full name means the class that has it. -/
theorem HasProperNames.names_full (proper : registry.HasProperNames)
    (indexed : registry.Indexed) {id : ClassId} {name : String}
    (named : registry.nameOf? id = some name) :
    Expression.Scope.empty.Names registry name (.classNamed id) := by
  refine .other (proper id name named).2 List.not_mem_nil ?_ (lookup?_of_nameOf? indexed named)
  rintro other ⟨full, own, -⟩
  cases own

end Registry

/-! ## Reading the text -/

namespace Expression

open Registry

variable {registry : Registry} {type : ResolvedType}

/-- Arguments follow one another with a comma and a space in between. -/
theorem derives_declaredAll {names : String → Meaning → Prop} {nameOf : ClassId → String}
    {arguments : List ResolvedType} (present : arguments ≠ [])
    (references : ∀ argument ∈ arguments, argument.isPrimitive = false)
    (each : ∀ argument ∈ arguments, ∀ {tail}, NameEnds tail →
      Derives names (.type argument.declared)
        ((Phrase.type argument.declared).text nameOf ++ tail) tail)
    {tail : List Char} (ends : NameEnds tail) :
    Derives names (.arguments (ResolvedType.declaredAll arguments))
      ((Phrase.arguments (ResolvedType.declaredAll arguments)).text nameOf ++ tail) tail := by
  induction arguments with
  | nil => exact absurd rfl present
  | cons argument rest induction =>
      rcases List.forall_mem_cons.mp references with ⟨reference, referencesToo⟩
      rcases List.forall_mem_cons.mp each with ⟨here, eachToo⟩
      have notPrimitive := ResolvedType.declared_ne_primitive reference
      rw [ResolvedType.declaredAll]
      cases rest with
      | nil =>
          rw [ResolvedType.declaredAll, text_last]
          exact .last (.reference (here ends) notPrimitive)
      | cons next later =>
          rw [text_more _ (by rw [ResolvedType.declaredAll]; exact List.cons_ne_nil _ _)]
          exact .more (.reference (here (nameEnds_punctuation (by decide))) notPrimitive)
            (.refl _) ((induction (List.cons_ne_nil _ _) referencesToo eachToo).of_skipBlank_eq
              (skips_space _).skipBlank_eq)

/-- In front of whatever ends a name, the text of a type is a phrase for this type. -/
theorem derives_declared (proper : registry.HasProperNames) (wellFormed : registry.WellFormed)
    (writable : type.Writable registry) : ∀ {tail}, NameEnds tail →
      Derives (Scope.empty.Names registry) (.type type.declared)
        ((Phrase.type type.declared).text registry.displayName ++ tail) tail := by
  have dotted : ∀ {id name}, registry.nameOf? id = some name → DottedName name.toList :=
    fun named => isName_iff.mp (proper _ _ named).1
  have means : ∀ {id name}, registry.nameOf? id = some name →
      Scope.empty.Names registry (String.ofList name.toList) (.classNamed id) := by
    intro id name named
    rw [String.ofList_toList]
    exact proper.names_full wellFormed.indexed named
  induction type with
  | primitive kind =>
      intro tail ends
      have meant : Scope.empty.Names registry (String.ofList kind.keyword.toList)
          (.primitive kind) := .keyword String.ofList_toList.symm
      exact .bare (.refl _) (nameAt_of_dotted (dottedName_keyword kind) ends) meant
  | plain id =>
      intro tail ends
      rcases Option.isSome_iff_exists.mp ((ResolvedType.writable_plain id).mp writable) with
        ⟨name, named⟩
      rw [ResolvedType.declared, Phrase.text, DeclaredType.textUnder,
        displayName_of_nameOf? named]
      exact .bare (.refl _) (nameAt_of_dotted (dotted named) ends) (means named)
  | parameterized raw arguments induction =>
      intro tail ends
      rcases (ResolvedType.writable_parameterized raw arguments).mp writable with
        ⟨⟨arity, present, references⟩, argumentsToo⟩
      rcases arity?_eq_some_iff.mp arity with ⟨definition, defined, -⟩
      have named := (wellFormed.holds defined).nameOf?_eq
      rw [ResolvedType.declared, text_applied, displayName_of_nameOf? named]
      exact .applied (.refl _)
        (nameAt_of_dotted (dotted named) (nameEnds_punctuation (by decide))) (means named)
        (.refl _)
        (derives_declaredAll present references
          (fun argument member => induction argument member (argumentsToo argument member))
          (nameEnds_punctuation (by decide)))
        (.refl _)
  | array component induction =>
      intro tail ends
      rw [ResolvedType.declared, text_array]
      exact .array
        (induction ((ResolvedType.writable_array component).mp writable)
          (nameEnds_punctuation (by decide)))
        (.refl _) (.refl _)

/-- Reading the text of a resolved type leads back to it, up to the depth that is read. -/
theorem denotes_resolvedText (proper : registry.HasProperNames) (wellFormed : registry.WellFormed)
    (writable : type.Writable registry) (shallow : type.depth ≤ maximalDepth) :
    registry.Denotes (registry.resolvedText type) type := by
  refine ⟨type.declared, parse_eq_ok_iff.mpr ⟨⟨[], ?_, .refl []⟩, ?_⟩,
    substitute_declared writable.hasArities⟩
  · have derived := derives_declared proper wellFormed writable nameEnds_nil
    rwa [List.append_nil, Phrase.text, ResolvedType.textUnder_declared] at derived
  · rwa [ResolvedType.depth_declared]

end Expression

end FieldTypes
