import FieldTypes.Proofs.Expression.Acceptance
import FieldTypes.Proofs.Registry.Reachable
import FieldTypes.Types.Rendering

/-! A type that was read is read again from its own text.  That text has the full
names of classes, so every name in it has to be found once more in spite of the
keywords, the type parameters and the own class that come first. -/

namespace FieldTypes.Expression

open Text

/-! ## Texts of phrases -/

/-- The text of a type that consists of a name. -/
def Meaning.text (nameOf : ClassId → String) : Meaning → String
  | .primitive kind => kind.keyword
  | .typeVariable name => name
  | .classNamed id => nameOf id

def Phrase.text (nameOf : ClassId → String) : Phrase → List Char
  | .type written => (written.textUnder nameOf id).toList
  | .argument written => (written.textUnder nameOf id).toList
  | .arguments written =>
      (commaSeparated (DeclaredType.textsUnder nameOf id written)).toList

variable {names : String → Meaning → Prop} {nameOf : ClassId → String}
  {text rest : List Char}

theorem textUnder_bareType (meaning : Meaning) :
    meaning.bareType.textUnder nameOf id = meaning.text nameOf := by
  cases meaning <;> rw [Meaning.bareType, DeclaredType.textUnder, Meaning.text]
  rfl

theorem text_applied (id : ClassId) (arguments : List DeclaredType) (tail : List Char) :
    (Phrase.type (.parameterized id arguments)).text nameOf ++ tail =
      (nameOf id).toList ++ '<' :: ((Phrase.arguments arguments).text nameOf ++ '>' :: tail) := by
  simp [Phrase.text, DeclaredType.textUnder]

theorem text_array (component : DeclaredType) (tail : List Char) :
    (Phrase.type (.array component)).text nameOf ++ tail =
      (Phrase.type component).text nameOf ++ '[' :: ']' :: tail := by
  simp [Phrase.text, DeclaredType.textUnder]

theorem text_unbounded (tail : List Char) :
    (Phrase.argument .anyWildcard).text nameOf ++ tail = '?' :: tail := by
  simp [Phrase.text, DeclaredType.textUnder]

theorem text_extendsBound (bound : DeclaredType) (tail : List Char) :
    (Phrase.argument (.extendsWildcard bound)).text nameOf ++ tail =
      '?' :: ' ' :: ("extends".toList ++ ' ' :: ((Phrase.type bound).text nameOf ++ tail)) := by
  simp [Phrase.text, DeclaredType.textUnder]

theorem text_superBound (bound : DeclaredType) (tail : List Char) :
    (Phrase.argument (.superWildcard bound)).text nameOf ++ tail =
      '?' :: ' ' :: ("super".toList ++ ' ' :: ((Phrase.type bound).text nameOf ++ tail)) := by
  simp [Phrase.text, DeclaredType.textUnder]

theorem text_last (argument : DeclaredType) :
    (Phrase.arguments [argument]).text nameOf = (Phrase.argument argument).text nameOf := by
  simp [Phrase.text, DeclaredType.textsUnder, commaSeparated]

theorem text_more (argument : DeclaredType) {arguments : List DeclaredType}
    (present : arguments ≠ []) (tail : List Char) :
    (Phrase.arguments (argument :: arguments)).text nameOf ++ tail =
      (Phrase.argument argument).text nameOf ++
        ',' :: ' ' :: ((Phrase.arguments arguments).text nameOf ++ tail) := by
  cases arguments with
  | nil => exact absurd rfl present
  | cons next later => simp [Phrase.text, DeclaredType.textsUnder, commaSeparated]

theorem skips_space (text : List Char) : Skips (' ' :: text) text :=
  .cons (by decide) (.refl text)

/-- A phrase is derived from its own text when the names in that text still mean
what they stand for. -/
theorem Derives.again
    (named : ∀ name meaning, DottedName name → names (String.ofList name) meaning →
      DottedName (meaning.text nameOf).toList ∧ names (meaning.text nameOf) meaning)
    {phrase : Phrase} (derived : Derives names phrase text rest) :
    ∀ {tail}, NameEnds tail → Derives names phrase (phrase.text nameOf ++ tail) tail := by
  induction derived with
  | @bare _ _ name _ meaning _ here meant =>
      intro tail ends
      rcases named name meaning here.dotted meant with ⟨dotted, meant⟩
      rw [Phrase.text, textUnder_bareType]
      exact .bare (.refl _) (nameAt_of_dotted dotted ends) (by rwa [String.ofList_toList])
  | @applied _ _ name _ _ _ _ id _ _ here meant _ _ _ induction =>
      intro tail _
      rcases named name (.classNamed id) here.dotted meant with ⟨dotted, meant⟩
      rw [text_applied]
      exact .applied (.refl _) (nameAt_of_dotted dotted (nameEnds_punctuation (by decide)))
        (by rwa [String.ofList_toList]) (.refl _)
        (induction (nameEnds_punctuation (by decide))) (.refl _)
  | array _ _ _ induction =>
      intro tail _
      rw [text_array]
      exact .array (induction (nameEnds_punctuation (by decide))) (.refl _) (.refl _)
  | reference _ notPrimitive induction =>
      intro tail ends
      exact .reference (induction ends) notPrimitive
  | unbounded =>
      intro tail _
      rw [text_unbounded]
      exact .unbounded (.refl _)
  | extendsBound _ _ _ _ notPrimitive induction =>
      intro tail ends
      rw [text_extendsBound]
      exact .extendsBound (.refl _) (skips_space _) (by decide) (induction ends) notPrimitive
  | superBound _ _ _ _ notPrimitive induction =>
      intro tail ends
      rw [text_superBound]
      exact .superBound (.refl _) (skips_space _) (by decide) (induction ends) notPrimitive
  | last _ induction =>
      intro tail ends
      rw [text_last]
      exact .last (induction ends)
  | more _ _ arguments first others =>
      intro tail ends
      rw [text_more _ arguments.arguments_ne_nil]
      exact .more (first (nameEnds_punctuation (by decide))) (.refl _)
        ((others ends).of_skipBlank_eq (skips_space _).skipBlank_eq)

/-! ## Names of classes -/

theorem dottedName_keyword (kind : Primitive) : DottedName kind.keyword.toList :=
  isName_iff.mp (by cases kind <;> decide)

theorem dot_not_mem_keyword (kind : Primitive) : '.' ∉ kind.keyword.toList := by
  cases kind <;> decide

namespace Scope

/-- Classes and type parameters have proper names, those of type parameters without
dots, and the own class goes by the name that the registry has for it. -/
structure Suits (scope : Scope) (registry : Registry) : Prop where
  class_names : ∀ id name, registry.nameOf? id = some name → isName name = true
  parameter_names : ∀ name ∈ scope.parameters, isName name = true ∧ '.' ∉ name.toList
  own_name : ∀ name id, scope.ownClass? = some (name, id) → registry.nameOf? id = some name

variable {scope : Scope} {registry : Registry} {name full : String} {id : ClassId}
  {meaning : Meaning}

/-- Nothing hides a full name that has a dot in it. -/
theorem Suits.names_full (suits : scope.Suits registry) (indexed : registry.Indexed)
    (stored : registry.nameOf? id = some full) (qualified : '.' ∈ full.toList) :
    scope.Names registry full (.classNamed id) := by
  have noKeyword : ∀ kind : Primitive, kind.keyword ≠ full := by
    intro kind equal
    subst equal
    exact dot_not_mem_keyword kind qualified
  have undeclared : full ∉ scope.parameters := fun member =>
    (suits.parameter_names full member).2 qualified
  by_cases own : ∃ other, scope.IsOwnName full other
  · rcases own with ⟨other, ownFull, isOwn, equal | ⟨dotless, -⟩⟩
    · subst equal
      have same := indexed.idOf?_iff.mpr (suits.own_name _ _ isOwn)
      rw [indexed.idOf?_iff.mpr stored] at same
      cases same
      exact .own noKeyword undeclared ⟨full, isOwn, .inl rfl⟩
    · exact absurd qualified dotless
  · exact .other noKeyword undeclared (fun other isOwn => own ⟨other, isOwn⟩)
      (Registry.lookup?_of_nameOf? indexed stored)

/-- What a name means has a text that means it too. -/
theorem Suits.names_text (suits : scope.Suits registry) (indexed : registry.Indexed)
    (dotted : DottedName name.toList) (meant : scope.Names registry name meaning) :
    DottedName (meaning.text registry.displayName).toList ∧
      scope.Names registry (meaning.text registry.displayName) meaning := by
  cases meant with
  | @keyword kind same => exact ⟨dottedName_keyword kind, .keyword rfl⟩
  | parameter noKeyword declared => exact ⟨dotted, .parameter noKeyword declared⟩
  | own noKeyword undeclared isOwn =>
      rcases isOwn with ⟨full, own, named⟩
      have stored := suits.own_name _ _ own
      rw [Meaning.text, Registry.displayName_of_nameOf? stored]
      refine ⟨isName_iff.mp (suits.class_names _ _ stored), ?_⟩
      rcases named with rfl | ⟨-, front, whole⟩
      · exact .own noKeyword undeclared ⟨_, own, .inl rfl⟩
      · exact suits.names_full indexed stored (by simp [whole])
  | other noKeyword undeclared notOwn found =>
      rcases indexed.nameOf?_of_lookup? found with stored | ⟨full, front, stored, whole⟩
      · rw [Meaning.text, Registry.displayName_of_nameOf? stored]
        exact ⟨dotted, .other noKeyword undeclared notOwn found⟩
      · rw [Meaning.text, Registry.displayName_of_nameOf? stored]
        exact ⟨isName_iff.mp (suits.class_names _ _ stored),
          suits.names_full indexed stored (by simp [whole])⟩

end Scope

/-! ## Reading again -/

theorem eq_ok_of_toOption {failure value : Type} {result : Except failure value} {found : value}
    (present : result.toOption = some found) : result = .ok found := by
  cases result with
  | error other => cases present
  | ok value => exact congrArg _ (Option.some.inj present)

variable {registry : Registry} {scope : Scope} {type : DeclaredType}

theorem DerivesWhole.again (suits : scope.Suits registry) (indexed : registry.Indexed)
    {text : List Char} (derived : DerivesWhole (scope.Names registry) text type) :
    DerivesWhole (scope.Names registry) (registry.declaredText type).toList type := by
  rcases derived with ⟨rest, derived, -⟩
  have again : Derives (scope.Names registry) (.type type)
      ((Phrase.type type).text registry.displayName ++ []) [] :=
    derived.again (fun name meaning dotted meant =>
      suits.names_text indexed (by rwa [String.toList_ofList]) meant) nameEnds_nil
  rw [List.append_nil] at again
  exact ⟨[], again, .refl []⟩

/-- Whatever names, spaces and nesting a text had, the type that it was read as is
read again from the text that the registry has for it. -/
theorem parse_declaredText (reachable : registry.Reachable) (suits : scope.Suits registry)
    {text : String} (parsed : parse registry scope text = .ok type) :
    parse registry scope (registry.declaredText type) = .ok type := by
  rcases parse_eq_ok_iff.mp parsed with ⟨derived, shallow⟩
  exact parse_eq_ok_iff.mpr ⟨derived.again suits reachable.wellFormed.indexed, shallow⟩

/-! A field of the child class, with its own name, that of its parent and those of
built-in classes all cut short. -/

def childScope : Scope :=
  ⟨["T"], some ("family.Child", ⟨17⟩)⟩

def childField : DeclaredType :=
  .parameterized ⟨15⟩
    [.extendsWildcard (.array (.parameterized ⟨17⟩ [.typeVariable "T"])),
      .parameterized ⟨18⟩ [.plain ⟨1⟩]]

theorem childScope_suits : childScope.Suits Registry.family where
  class_names := by
    have all : ∀ slot ∈ Registry.family.slots, isName slot.name = true := by decide +kernel
    intro id name named
    rcases Option.map_eq_some_iff.mp named with ⟨slot, found, rfl⟩
    exact all slot (List.mem_of_getElem? found)
  parameter_names := by decide
  own_name := by
    intro name id own
    cases own
    decide +kernel

theorem parse_declaredText_of_family :
    Registry.family.declaredText childField =
        "java.util.Map<? extends family.Child<T>[], family.Parent<java.lang.String>>" ∧
      parse Registry.family childScope " Map < ?  extends Child<T>[ ],Parent<String> >" =
        .ok childField ∧
      parse Registry.family childScope (Registry.family.declaredText childField) =
        .ok childField :=
  have parsed : parse Registry.family childScope
      " Map < ?  extends Child<T>[ ],Parent<String> >" = .ok childField :=
    eq_ok_of_toOption (by decide +kernel)
  ⟨by decide +kernel, parsed,
    parse_declaredText Registry.family_reachable childScope_suits parsed⟩

end FieldTypes.Expression
