namespace FieldTypes.Files

/-! What the program needs to know about files, and why a file may be unreadable. -/

inductive ReadFailure where
  | missing
  | denied
  | notDirectory
  | isDirectory
  | notText
  | other (code : Nat)
deriving DecidableEq, Repr

def ReadFailure.message : ReadFailure → String
  | .missing => "No such file or directory (os error 2)"
  | .denied => "Permission denied (os error 13)"
  | .notDirectory => "Not a directory (os error 20)"
  | .isDirectory => "Is a directory (os error 21)"
  | .notText => "stream did not contain valid UTF-8"
  | .other code => s!"Unknown error {code} (os error {code})"

/-- Questions about files, which may have effects of the kind `m`. -/
structure System (m : Type → Type) where
  isFile : String → m Bool
  /-- The path without dots and links, if there is something at it. -/
  canonical? : String → m (Option String)
  readText : String → m (Except ReadFailure String)

/-! Paths are texts with slashes between their steps. -/

def isAbsolute (path : String) : Bool :=
  path.toList.head? == some '/'

/-- The path of something that is named from a directory.  An absolute name is not
changed. -/
def join (directory name : String) : String :=
  if isAbsolute name then name
  else if directory.isEmpty || directory.toList.getLast? == some '/' then directory ++ name
  else directory ++ "/" ++ name

end FieldTypes.Files
