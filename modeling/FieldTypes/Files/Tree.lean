import FieldTypes.Files.System
import FieldTypes.Text.Separated

namespace FieldTypes.Files

/-! Files held in memory.  The place of a file is the list of steps that lead to it
from the root.  A directory is there when it is listed or when something is below
it. -/

inductive Content where
  | file (bytes : ByteArray)
  | directory

structure Tree where
  entries : List (List String × Content)

namespace Tree

def find? (tree : Tree) (place : List String) : Option Content :=
  match tree.entries.lookup place with
  | some content => some content
  | none =>
      if place.isEmpty || tree.entries.any fun entry => place.isPrefixOf entry.1 then
        some .directory
      else none

def steps (path : String) : List String :=
  (Text.cutAt '/' path.toList).map String.ofList

/-- Where a step leads from a directory. -/
def next (place : List String) (step : String) : List String :=
  if step = "" || step = "." then place
  else if step = ".." then place.dropLast
  else place ++ [step]

/-- Follows the steps of a path.  Each of them starts from a directory, and the
last one must lead to something. -/
def follow (tree : Tree) (place : List String) :
    List String → Except ReadFailure (List String × Content)
  | [] =>
      match tree.find? place with
      | none => .error .missing
      | some content => .ok (place, content)
  | step :: rest =>
      match tree.find? place with
      | none => .error .missing
      | some (.file _) => .error .notDirectory
      | some .directory => tree.follow (next place step) rest

/-- Follows a path from the root, or from the working directory. -/
def locate (tree : Tree) (workingDirectory : List String) (path : String) :
    Except ReadFailure (List String × Content) :=
  if path.isEmpty then .error .missing
  else if isAbsolute path then tree.follow [] (steps path)
  else tree.follow workingDirectory (steps path)

def pathOf (place : List String) : String :=
  "/" ++ "/".intercalate place

/-- The tree as the files that a program sees from a working directory. -/
def system (tree : Tree) (workingDirectory : List String) : System Id where
  isFile path :=
    match tree.locate workingDirectory path with
    | .ok (_, .file _) => true
    | _ => false
  canonical? path := (tree.locate workingDirectory path).toOption.map fun found => pathOf found.1
  readText path :=
    match tree.locate workingDirectory path with
    | .error failure => .error failure
    | .ok (_, .directory) => .error .isDirectory
    | .ok (_, .file bytes) =>
        match String.fromUTF8? bytes with
        | none => .error .notText
        | some text => .ok text

end Tree

end FieldTypes.Files
