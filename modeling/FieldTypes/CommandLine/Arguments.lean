namespace FieldTypes.CommandLine

/-! What the words of a command line ask for. -/

structure Options where
  config? : Option String
  json : Bool
deriving DecidableEq, Repr

inductive Command where
  | check (options : Options)
  | resolve (className : String) (arguments : List String) (options : Options)
deriving DecidableEq, Repr

/-- The subjects on which there is help. -/
inductive Topic where
  | program
  | check
  | resolve
  | help
deriving DecidableEq, Repr

inductive Request where
  | run (command : Command)
  | help (topic : Topic)
  | version
  /-- Nothing was asked for. -/
  | nothing
deriving DecidableEq, Repr

/-! A word that starts with a hyphen is an option, except for a single hyphen.  Two
hyphens alone make plain words of all that follow. -/

inductive Word where
  | separator
  | long (name : String) (attached? : Option String)
  | short (letters : List Char)
  | plain (text : String)
deriving DecidableEq, Repr

def Word.ofText (text : String) : Word :=
  match text.toList with
  | ['-', '-'] => .separator
  | '-' :: '-' :: name =>
      match name.span (· != '=') with
      | (name, []) => .long (String.ofList name) none
      | (name, _ :: attached) => .long (String.ofList name) (some (String.ofList attached))
  | '-' :: letter :: letters => .short (letter :: letters)
  | _ => .plain text

/-- Why the words after the name of a command make no command. -/
inductive Stop where
  | help
  | rejected
deriving DecidableEq, Repr

/-- A command of which some words have been read. -/
structure Draft where
  takesClass : Bool
  className? : Option String
  arguments : List String
  config? : Option String
  json : Bool

namespace Draft

def start (takesClass : Bool) : Draft :=
  ⟨takesClass, none, [], none, false⟩

/-- The only plain word that a command takes is the name of a class. -/
def addPlain (draft : Draft) (text : String) : Except Stop Draft :=
  if draft.takesClass && draft.className?.isNone then
    .ok { draft with className? := some text }
  else .error .rejected

/-- Type arguments may be given any number of times, a path only once. -/
def addValue (draft : Draft) (name value : String) : Except Stop Draft :=
  match name with
  | "config" =>
      if draft.config?.isSome || value.isEmpty then .error .rejected
      else .ok { draft with config? := some value }
  | "arg" =>
      if draft.takesClass then .ok { draft with arguments := draft.arguments ++ [value] }
      else .error .rejected
  | _ => .error .rejected

/-- Reads the words from left to right, up to the first one that asks for help or
does not fit. -/
def read (draft : Draft) : List String → Except Stop Draft
  | [] => .ok draft
  | word :: rest =>
      match Word.ofText word with
      | .separator => rest.foldlM addPlain draft
      | .short letters => .error (if letters.head? = some 'h' then .help else .rejected)
      | .long "help" none => .error .help
      | .long "json" none =>
          if draft.json then .error .rejected else read { draft with json := true } rest
      | .long name (some value) =>
          match draft.addValue name value with
          | .error stop => .error stop
          | .ok next => next.read rest
      | .long name none =>
          match rest with
          | [] => .error .rejected
          | value :: later =>
              match Word.ofText value with
              | .plain text =>
                  match draft.addValue name text with
                  | .error stop => .error stop
                  | .ok next => next.read later
              | _ => .error .rejected
      | .plain text =>
          match draft.addPlain text with
          | .error stop => .error stop
          | .ok next => next.read rest

def options (draft : Draft) : Options :=
  ⟨draft.config?, draft.json⟩

end Draft

/-- The topics that the help command knows, by the words that name them. -/
def topic? : List String → Option Topic
  | [] => some .program
  | ["check"] => some .check
  | ["resolve"] => some .resolve
  | ["help"] => some .help
  | _ => none

def readCheck (words : List String) : Option Request :=
  match (Draft.start false).read words with
  | .error .help => some (.help .check)
  | .error .rejected => none
  | .ok draft => some (.run (.check draft.options))

def readResolve (words : List String) : Option Request :=
  match (Draft.start true).read words with
  | .error .help => some (.help .resolve)
  | .error .rejected => none
  | .ok draft =>
      draft.className?.map fun name => .run (.resolve name draft.arguments draft.options)

/-- The request that the words make, if they fit together. -/
def Request.read? : List String → Option Request
  | [] | ["--"] => some .nothing
  | "check" :: rest => readCheck rest
  | "resolve" :: rest => readResolve rest
  | "help" :: rest => (topic? rest).map .help
  | word :: _ =>
      match Word.ofText word with
      | .short ('h' :: _) | .long "help" none => some (.help .program)
      | .short ('V' :: _) | .long "version" none => some .version
      | _ => none

end FieldTypes.CommandLine
