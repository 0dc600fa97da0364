import FieldTypes.Manifest.Basic
import FieldTypes.Registry.BuiltIn
import FieldTypes.Expression.Parser
import FieldTypes.Log.Event

namespace FieldTypes.Manifest

/-! The classes of a manifest become one batch.  Their names are known before any
field type is read, so that they may mention each other in any order. -/

inductive BuildError where
  | fieldType (owner field : String) (error : Expression.Error)
  | definition (error : DefinitionError)
deriving DecidableEq, Repr

def BuildError.message : BuildError → String
  | .fieldType owner field error =>
      s!"invalid type for field `{owner}.{field}`: {error.message}"
  | .definition error => error.message

def declareFields (registry : Registry) (scope : Expression.Scope) (owner : String) :
    List FieldEntry → Except BuildError (List FieldDeclaration)
  | [] => .ok []
  | entry :: rest =>
      match Expression.parse registry scope entry.type with
      | .error error => .error (.fieldType owner entry.name error)
      | .ok type => (declareFields registry scope owner rest).map (⟨entry.name, type⟩ :: ·)

/-- The names that the field types of an entry may use. -/
def scopeOf (registry : Registry) (entry : ClassEntry) : Expression.Scope :=
  ⟨entry.parameters, (registry.idOf? entry.name).map (entry.name, ·)⟩

def declareClass (registry : Registry) (entry : ClassEntry) :
    Except BuildError ClassDeclaration :=
  (declareFields registry (scopeOf registry entry) entry.name entry.fields).map
    (⟨entry.name, entry.parameters, ·⟩)

def declareClasses (registry : Registry) :
    List ClassEntry → Except BuildError (List ClassDeclaration)
  | [] => .ok []
  | entry :: rest =>
      match declareClass registry entry with
      | .error error => .error error
      | .ok declaration => (declareClasses registry rest).map (declaration :: ·)

/-- The built-in classes, and a place for each name of the manifest. -/
def named (identity : RegistryId) (manifest : Manifest) : Registry :=
  manifest.classes.foldl (fun registry entry => (registry.intern entry.name).1)
    (.withBuiltIns identity)

/-- The built-in classes and every class of the manifest. -/
def build (identity : RegistryId) (manifest : Manifest) : Except BuildError Registry :=
  let registry := named identity manifest
  match declareClasses registry manifest.classes with
  | .error error => .error error
  | .ok batch =>
      match registry.define batch with
      | .error error => .error (.definition error)
      | .ok (grown, _) => .ok grown

/-! What is logged once the registry is built. -/

def definedEvent (entry : ClassEntry) : Log.Event where
  target := "reify.registry"
  level := .debug
  message := "defined class"
  fields :=
    [ ("class", .text entry.name),
      ("type_params", .count entry.parameters.length),
      ("fields", .count entry.fields.length) ]

def builtEvent (manifest : Manifest) : Log.Event where
  target := "reify.config"
  level := .debug
  message := "built class registry"
  fields := [("classes", .count manifest.classes.length)]

def events (manifest : Manifest) : List Log.Event :=
  manifest.classes.map definedEvent ++ [manifest.builtEvent]

end FieldTypes.Manifest
