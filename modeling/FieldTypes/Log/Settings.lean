import FieldTypes.Log.Filter

namespace FieldTypes.Log

open Text

/-! What a manifest says about logging. -/

structure Settings where
  level : String
  json : Bool
  stderr : Bool
deriving DecidableEq, Repr

namespace Settings

def defaults : Settings :=
  ⟨"warn", false, true⟩

/-- The words that are taken as a level wherever they make up the whole setting. -/
def synonyms : List (String × Level) :=
  [ ("trace", .trace),
    ("debug", .debug),
    ("info", .info),
    ("warn", .warn),
    ("warning", .warn),
    ("error", .error) ]

/-- The configured level as a list of directives.  White space around it does not
count, and nothing at all stands for warnings. -/
def directives (level : String) : String :=
  match trimmed level.toList with
  | [] => Level.warn.word
  | text =>
      match synonyms.lookup (String.ofList (Level.lowerCase text)) with
      | some found => found.word
      | none => String.ofList text

/-! Directives are read by a reader that may refuse a text. -/

section

variable (read? : String → Option Filter)

/-- The filter of the configured level, or the one for warnings when it cannot be read. -/
def configuredBy (settings : Settings) : Filter :=
  (read? (directives settings.level)).getD (.everything .warn)

/-! The environment may add directives.  They come after the configured ones, and
so they win for the targets that both name.  When the two cannot be read as one
list, the environment stands alone; when it cannot be read either, it is left
out. -/

def overriddenBy (settings : Settings) (environment : String) : Filter :=
  match read? (directives settings.level ++ "," ++ environment) with
  | some filter => filter
  | none => (read? environment).getD (settings.configuredBy read?)

def filterBy (settings : Settings) (environment? : Option String) : Filter :=
  match environment? with
  | none => settings.configuredBy read?
  | some environment =>
      match trimmed environment.toList with
      | [] => settings.configuredBy read?
      | text => settings.overriddenBy read? (String.ofList text)

end

def filter (settings : Settings) (environment? : Option String) : Filter :=
  settings.filterBy Filter.read? environment?

end Settings

end FieldTypes.Log
