import FieldTypes.Proofs.Expression.Origins
import FieldTypes.Proofs.Manifest.Contents
import FieldTypes.Proofs.Resolution.Progress

/-! Some errors are there for callers that put types together by themselves.  A type that
was read from a text never leads to them: its classes have names, all of these names have
classes in the end, and its variables are those of its scope. -/

namespace FieldTypes

/-! ## Names that stand for nothing -/

/-- The error is about a class or a variable that is not there. -/
def DefinitionError.isDangling : DefinitionError → Bool
  | .unknownClass .. | .undeclaredVariable .. => true
  | .duplicateClass _ | .duplicateParameter .. | .duplicateField .. | .arityMismatch .. => false

def ResolutionError.isDangling : ResolutionError → Bool
  | .unknownClass _ | .unboundVariable _ => true
  | .arityMismatch .. | .foreignField .. | .wildcard _ | .unknownField .. => false

/-! ## Definitions -/

section

variable {arity? : ClassId → Option Nat} {nameOf : ClassId → String}

theorem DeclaredType.isDangling_of_nodeFault? {owner : ClassDeclaration} {field : String}
    {node : DeclaredType}
    (within : node.NodeWithin (fun id => (arity? id).isSome = true) (· ∈ owner.parameters))
    {error : DefinitionError} (fault : node.nodeFault? arity? nameOf owner field = some error) :
    error.isDangling = false := by
  cases node with
  | plain id =>
      have known : (arity? id).isSome = true := within
      rw [nodeFault?, if_pos known] at fault
      cases fault
  | parameterized raw arguments =>
      rcases Option.isSome_iff_exists.mp within with ⟨expected, known⟩
      rw [nodeFault?, known] at fault
      dsimp only at fault
      split at fault
      · cases fault
      · cases fault
        rfl
  | typeVariable name =>
      have declared : name ∈ owner.parameters := within
      rw [nodeFault?, if_pos declared] at fault
      cases fault
  | primitive _ | array _ | anyWildcard | extendsWildcard _ | superWildcard _ => cases fault

/-- The field types of a declaration are over known classes and its own type parameters. -/
def ClassDeclaration.Within (classes : ClassId → Prop) (declaration : ClassDeclaration) : Prop :=
  ∀ field ∈ declaration.fields, field.type.Within classes (· ∈ declaration.parameters)

theorem ClassDeclaration.isDangling_of_mem_faults {declaration : ClassDeclaration}
    (within : declaration.Within fun id => (arity? id).isSome = true) {error : DefinitionError}
    (member : error ∈ declaration.faults arity? nameOf) : error.isDangling = false := by
  rcases mem_faults_iff.mp member with
    ⟨_, -, rfl⟩ | ⟨_, -, rfl⟩ | ⟨field, inside, node, here, fault⟩
  · rfl
  · rfl
  · exact DeclaredType.isDangling_of_nodeFault? (within field inside node here) fault

end

namespace Registry

variable {registry : Registry} {batch : List ClassDeclaration}

theorem isDangling_of_define
    (within : ∀ declaration ∈ batch,
      declaration.Within fun id => (registry.arityWith? batch id).isSome = true)
    {error : DefinitionError} (failed : registry.define batch = .error error) :
    error.isDangling = false := by
  rw [define_eq_report, report_eq_error_iff] at failed
  rcases List.mem_append.mp (List.mem_of_head? failed) with duplicate | fault
  · rcases List.mem_filterMap.mp duplicate with ⟨part, -, repeated⟩
    split at repeated
    · cases repeated
      rfl
    · cases repeated
  · rcases List.mem_flatMap.mp fault with ⟨declaration, member, inDeclaration⟩
    exact ClassDeclaration.isDangling_of_mem_faults (within declaration member) inDeclaration

/-- A class of a batch is in sight under the id that its name has. -/
theorem isSome_arityWith?_of_mem {declaration : ClassDeclaration} (member : declaration ∈ batch)
    {id : ClassId} (known : registry.idOf? declaration.name = some id) :
    (registry.arityWith? batch id).isSome = true := by
  rw [← map_snd_withEarlier batch] at member
  rcases List.mem_map.mp member with ⟨part, within, rfl⟩
  have planned : (registry.plannedId part.1 part.2, part.2) ∈ registry.planned batch :=
    List.mem_map_of_mem within
  rw [plannedId, known, Option.getD_some] at planned
  rw [arityWith?, Option.isSome_or, Option.isSome_map, Bool.or_eq_true, List.lookup_isSome_iff]
  exact .inr ⟨_, planned, beq_self_eq_true id⟩

/-! ## Resolution -/

section

variable {bound? : String → Option ResolvedType} {place : Place}

theorem isDangling_of_substitute {type : DeclaredType}
    (within : type.Within (fun id => registry.isDefined id = true)
      fun name => (bound? name).isSome = true)
    {error : ResolutionError} (failed : registry.substitute bound? place type = .error error) :
    error.isDangling = false := by
  induction type with
  | primitive _ | plain _ => cases failed
  | typeVariable name =>
      have known : (bound? name).isSome = true := within _ List.mem_cons_self
      rcases Option.isSome_iff_exists.mp known with ⟨argument, bound⟩
      rw [substitute, bound] at failed
      cases failed
  | array component induction =>
      exact induction (List.forall_mem_cons.mp within).2 (map_eq_error_iff.mp failed)
  | parameterized raw arguments induction =>
      rcases List.forall_mem_cons.mp within with ⟨defined, inside⟩
      rcases Option.isSome_iff_exists.mp defined with ⟨definition, found⟩
      rw [substitute, found] at failed
      dsimp only at failed
      split at failed
      · rcases (collects_substituteAll registry bound? place).exists_of_eq_error
          (map_eq_error_iff.mp failed) with ⟨argument, member, argumentFailed⟩
        rw [DeclaredType.allNodes_eq_flatMap, List.forall_mem_flatMap] at inside
        exact induction argument member (inside argument member) argumentFailed
      · cases failed
        rfl
  | anyWildcard | extendsWildcard _ _ | superWildcard _ _ =>
      cases failed
      rfl

end

theorem isDangling_of_resolver {id : ClassId} (defined : registry.isDefined id = true)
    {arguments : List ResolvedType} {error : ResolutionError}
    (failed : registry.resolver id arguments = .error error) : error.isDangling = false := by
  rcases Option.isSome_iff_exists.mp defined with ⟨definition, found⟩
  rw [resolver, found] at failed
  dsimp only at failed
  split at failed
  · cases failed
  · cases failed
    rfl

end Registry

namespace Manifest

variable {identity : RegistryId} {manifest : Manifest} {registry : Registry}

/-! ## From a manifest -/

/-- What is declared for an entry is over classes with names and its own parameters. -/
theorem within_of_declareClass (indexed : registry.Indexed) {entry : ClassEntry}
    {declaration : ClassDeclaration} (declared : declareClass registry entry = .ok declaration) :
    declaration.Within fun id => (registry.nameOf? id).isSome = true := by
  rcases declareClass_eq_ok_iff.mp declared with ⟨fields, read, rfl⟩
  intro field member
  rcases exists_mem_of_forall₂ (declareFields_eq_ok_iff.mp read).flip member with
    ⟨written, -, type, parsed, rfl⟩
  refine Expression.within_of_parse indexed ?_ parsed
  intro full id own
  rw [scopeOf, Option.map_eq_some_iff] at own
  rcases own with ⟨ownId, known, same⟩
  cases same
  exact Option.isSome_of_eq_some (indexed.idOf?_iff.mp known)

/-- All names have their classes once the batch is in sight: they are those of the built-in
classes and those of the batch. -/
theorem isSome_arityWith?_of_declared {batch : List ClassDeclaration}
    (declared : List.Forall₂ (fun entry declaration =>
      declareClass registry entry = .ok declaration) manifest.classes batch) {id : ClassId}
    (known : ((named identity manifest).nameOf? id).isSome = true) :
    ((named identity manifest).arityWith? batch id).isSome = true := by
  rcases Option.isSome_iff_exists.mp known with ⟨name, stored⟩
  have found := (named_reachable identity manifest).wellFormed.indexed.idOf?_iff.mpr stored
  have origin := (isSome_idOf?_named identity manifest name).mp (Option.isSome_of_eq_some found)
  rcases origin with builtIn | own
  · rcases List.mem_map.mp builtIn with ⟨declaration, member, rfl⟩
    have defined := (named_defines identity manifest).definition?_eq_some_iff.mpr
      ⟨declaration, member, found, rfl⟩
    rw [Registry.arityWith?, Option.isSome_or, Registry.arity?, defined]
    rfl
  · rw [← names_of_declared declared] at own
    rcases List.mem_map.mp own with ⟨declaration, member, rfl⟩
    exact Registry.isSome_arityWith?_of_mem member found

/-! ## Out of reach -/

theorem isDangling_of_build {error : DefinitionError}
    (failed : build identity manifest = .error (.definition error)) :
    error.isDangling = false := by
  rcases exists_declared_of_build_eq_error failed with ⟨batch, declared, refused⟩
  refine Registry.isDangling_of_define (fun declaration member => ?_) refused
  rcases exists_mem_of_forall₂ declared.flip member with ⟨entry, -, entryDeclared⟩
  have within := within_of_declareClass
    (named_reachable identity manifest).wellFormed.indexed entryDeclared
  exact fun field inside => (within field inside).mono
    (fun _ known => isSome_arityWith?_of_declared declared known) fun _ parameter => parameter

section

variable (built : build identity manifest = .ok registry)

include built

theorem isDangling_of_concretize {text : String} {type : DeclaredType}
    (read : Expression.parse registry .empty text = .ok type) {error : ResolutionError}
    (failed : registry.concretize type = .error error) : error.isDangling = false := by
  have within := Expression.within_of_parse (build_reachable built).wellFormed.indexed
    (fun _ _ own => by cases own) read
  refine Registry.isDangling_of_substitute (within.mono ?_ ?_) failed
  · intro id named
    exact isDefined_of_build built named
  · intro name declared
    cases declared

theorem isDefined_of_lookup? {name : String} {id : ClassId}
    (found : registry.lookup? name = some id) : registry.isDefined id = true :=
  isDefined_of_build built
    ((build_reachable built).wellFormed.indexed.isSome_nameOf?_of_lookup? found)

end

/-- No class of a manifest mentions a class or a variable that turns out not to be there.
Once the registry is built, neither does a text that is read with it, and whatever class is
found in it can be asked for its fields. -/
theorem build_leaves_nothing_dangling (identity : RegistryId) (manifest : Manifest) :
    (∀ owner field name,
      build identity manifest ≠ .error (.definition (.unknownClass owner field name)) ∧
      build identity manifest ≠ .error (.definition (.undeclaredVariable owner field name))) ∧
    ∀ registry, build identity manifest = .ok registry →
      (∀ text type, Expression.parse registry .empty text = .ok type →
        (∀ id, registry.concretize type ≠ .error (.unknownClass id)) ∧
        ∀ name, registry.concretize type ≠ .error (.unboundVariable name)) ∧
      ∀ name id, registry.lookup? name = some id →
        ∀ arguments other, registry.resolver id arguments ≠ .error (.unknownClass other) := by
  refine ⟨fun owner field name => ⟨?_, ?_⟩, fun registry built =>
    ⟨fun text type read => ⟨?_, ?_⟩, fun name id found arguments other => ?_⟩⟩
  · intro failed
    cases isDangling_of_build failed
  · intro failed
    cases isDangling_of_build failed
  · intro id failed
    cases isDangling_of_concretize built read failed
  · intro name failed
    cases isDangling_of_concretize built read failed
  · intro failed
    cases Registry.isDangling_of_resolver (isDefined_of_lookup? built found) failed

end Manifest

end FieldTypes
