import FieldTypes.Manifest.Reading
import FieldTypes.Files.System

namespace FieldTypes.Manifest

/-! Which manifest a workspace has.  The environment may name one.  Otherwise the
first of a few names under which the workspace has a file counts. -/

def fileNames : List String :=
  ["reify.toml", ".reify.toml"]

inductive LoadError where
  | unreadable (path : String) (failure : Files.ReadFailure)
  | unfit (error : ReadError)

def LoadError.message : LoadError → String
  | .unreadable path failure => s!"failed to read config file {path}: {failure.message}"
  | .unfit error => error.message

/-- The message with its cause once more at the end, where the cause is one that
the system has reported. -/
def LoadError.chain (error : LoadError) : String :=
  match error with
  | .unreadable _ failure => error.message ++ ": " ++ failure.message
  | .unfit _ => error.message

section Discovery

variable {m : Type → Type} [Monad m] (files : Files.System m)

/-- The path in its canonical form, or as it is when nothing is there. -/
def settled (path : String) : m String := do
  return (← files.canonical? path).getD path

def firstFile? (root : String) : List String → m (Option String)
  | [] => return none
  | name :: rest => do
      if ← files.isFile (Files.join root name) then
        return some (← settled files (Files.join root name))
      else firstFile? root rest

/-- The manifest of the workspace below a root.  A path from the environment is
taken whether or not there is a file. -/
def discover? (root : String) (override? : Option String) : m (Option String) :=
  match override? with
  | some path => do return some (← settled files (Files.join root path))
  | none => firstFile? files root fileNames

def load (path : String) : m (Except LoadError Manifest) := do
  match ← files.readText path with
  | .error failure => return .error (.unreadable path failure)
  | .ok text => return (read text).mapError .unfit

/-- The manifest of a workspace and its path.  A workspace without one has the
empty manifest. -/
def loadDiscovered (root : String) (override? : Option String) :
    m (Except LoadError (Manifest × Option String)) := do
  match ← discover? files root override? with
  | none => return .ok (.empty, none)
  | some path => return (← load files path).map (·, some path)

end Discovery

end FieldTypes.Manifest
