import FieldTypes.Registry.BuiltIn

namespace FieldTypes

/-! Several registries side by side, each under a name.  No two of them ever
share an identity: a registry that is created, copied or replaced takes the
next unused one. -/

structure Workspace where
  nextIdentity : Nat
  registries : List (String × Registry)
deriving Repr

namespace Workspace

def empty : Workspace :=
  ⟨0, []⟩

def registry? (workspace : Workspace) (name : String) : Option Registry :=
  workspace.registries.lookup name

/-- Keeps the registry under the name, in place of any that had it before. -/
def put (workspace : Workspace) (name : String) (registry : Registry) : Workspace :=
  { workspace with
    registries := (name, registry) :: workspace.registries.filter (·.1 != name) }

/-- A new registry made by the given maker for the next identity. -/
def create (workspace : Workspace) (name : String) (make : RegistryId → Registry) :
    Workspace :=
  { workspace with nextIdentity := workspace.nextIdentity + 1 }.put name
    (make ⟨workspace.nextIdentity⟩)

def createEmpty (workspace : Workspace) (name : String) : Workspace :=
  workspace.create name Registry.empty

def createBuiltIn (workspace : Workspace) (name : String) : Workspace :=
  workspace.create name Registry.withBuiltIns

def copy (workspace : Workspace) (source target : String) : Workspace :=
  match workspace.registry? source with
  | none => workspace
  | some registry => workspace.create target registry.copy

def intern (workspace : Workspace) (name className : String) : Workspace :=
  match workspace.registry? name with
  | none => workspace
  | some registry => workspace.put name (registry.intern className).1

/-- A batch with a fault leaves the workspace as it was. -/
def define (workspace : Workspace) (name : String) (batch : List ClassDeclaration) :
    Workspace :=
  match workspace.registry? name with
  | none => workspace
  | some registry =>
      match registry.define batch with
      | .error _ => workspace
      | .ok (grown, _) => workspace.put name grown

end Workspace

end FieldTypes
