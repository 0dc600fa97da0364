import FieldTypes.Manifest.Basic
import FieldTypes.Toml.Document
import FieldTypes.Text.Quoted

namespace FieldTypes.Manifest

/-! A record of the manifest is written as a table, or as a list of its fields in
their order. -/

structure Record where
  title : String
  fields : List String
deriving DecidableEq, Repr

def loggingRecord : Record :=
  ⟨"LoggingConfig", ["level", "json", "stderr"]⟩

def classRecord : Record :=
  ⟨"ClassConfig", ["name", "type_params", "fields"]⟩

def fieldRecord : Record :=
  ⟨"FieldConfig", ["name", "type"]⟩

def manifestRecord : Record :=
  ⟨"ReifyConfig", ["logging", "classes"]⟩

/-- What a place of the manifest needs. -/
inductive Wanted where
  | text
  | boolean
  | list
  | record (kind : Record)
deriving DecidableEq, Repr

def Wanted.message : Wanted → String
  | .text => "a string"
  | .boolean => "a boolean"
  | .list => "a sequence"
  | .record kind => "struct " ++ kind.title

/-- How messages name a value that does not fit. -/
def describe : Toml.Value → String
  | .text content => "string " ++ Text.quoted content
  | .integer number => "integer `" ++ toString number ++ "`"
  | .decimal number => "floating point `" ++ number.text ++ "`"
  | .boolean true => "boolean `true`"
  | .boolean false => "boolean `false`"
  | .list _ => "sequence"
  | .moment _ | .table _ => "map"

inductive Problem where
  | unknownField (name : String) (record : Record)
  | missingField (name : String)
  | misfit (found : Toml.Value) (wanted : Wanted)
  | tooShort (length : Nat) (record : Record)

/-- The names that a record knows. -/
def alternatives : List String → String
  | [] => "there are no fields"
  | [only] => "expected `" ++ only ++ "`"
  | [first, second] => "expected `" ++ first ++ "` or `" ++ second ++ "`"
  | names => "expected one of " ++ ", ".intercalate (names.map fun name => "`" ++ name ++ "`")

def Problem.message : Problem → String
  | .unknownField name record =>
      "unknown field `" ++ name ++ "`, " ++ alternatives record.fields
  | .missingField name => "missing field `" ++ name ++ "`"
  | .misfit found wanted =>
      "invalid type: " ++ describe found ++ ", expected " ++ wanted.message
  | .tooShort length record =>
      s!"invalid length {length}, expected struct {record.title} " ++
        s!"with {record.fields.length} elements"

/-! Values are read in the order of the document, and the first problem ends the
reading.  A field that is missing is noticed at the end of its record. -/

abbrev Decoded (α : Type) := Except Problem α

def textOf : Toml.Value → Decoded String
  | .text content => .ok content
  | value => .error (.misfit value .text)

def booleanOf : Toml.Value → Decoded Bool
  | .boolean truth => .ok truth
  | value => .error (.misfit value .boolean)

def listOf {α : Type} (item : Toml.Value → Decoded α) : Toml.Value → Decoded (List α)
  | .list items => items.mapM item
  | value => .error (.misfit value .list)

/-- The entries of a table, taken into a partial record one after the other. -/
def byName {α : Type} (take : α → String → Toml.Value → Decoded α) (start : α)
    (entries : List (String × Toml.Value)) : Decoded α :=
  entries.foldlM (fun partialRecord (key, value) => take partialRecord key value) start

/-- The key that a date has when it is looked at as a table. -/
def momentKey : String :=
  "$__toml_private_datetime"

def recordOf {α : Type} (kind : Record)
    (named : List (String × Toml.Value) → Decoded α)
    (ordered : List Toml.Value → Decoded α) : Toml.Value → Decoded α
  | .table entries => named entries
  | .list items => ordered items
  | .moment _ => .error (.unknownField momentKey kind)
  | value => .error (.misfit value (.record kind))

/-- The item of a list at a place, or what stands for it when the list is too
short. -/
def itemOr {α : Type} (items : List Toml.Value) (place : Nat)
    (decode : Toml.Value → Decoded α) (absent : Decoded α) : Decoded α :=
  match items[place]? with
  | none => absent
  | some value => decode value

def takeLogging (settings : Log.Settings) (key : String) (value : Toml.Value) :
    Decoded Log.Settings :=
  match key with
  | "level" => return { settings with level := ← textOf value }
  | "json" => return { settings with json := ← booleanOf value }
  | "stderr" => return { settings with stderr := ← booleanOf value }
  | other => .error (.unknownField other loggingRecord)

def loggingOf : Toml.Value → Decoded Log.Settings :=
  recordOf loggingRecord (byName takeLogging .defaults) fun items => do
    let level ← itemOr items 0 textOf (.ok Log.Settings.defaults.level)
    let json ← itemOr items 1 booleanOf (.ok Log.Settings.defaults.json)
    let stderr ← itemOr items 2 booleanOf (.ok Log.Settings.defaults.stderr)
    return ⟨level, json, stderr⟩

/-- A field entry of which some parts may still be missing. -/
structure PartialField where
  name? : Option String
  type? : Option String

def takeField (entry : PartialField) (key : String) (value : Toml.Value) :
    Decoded PartialField :=
  match key with
  | "name" => return { entry with name? := some (← textOf value) }
  | "type" => return { entry with type? := some (← textOf value) }
  | other => .error (.unknownField other fieldRecord)

def needed {α : Type} (name : String) : Option α → Decoded α
  | none => .error (.missingField name)
  | some value => .ok value

def fieldOf : Toml.Value → Decoded FieldEntry :=
  recordOf fieldRecord
    (fun entries => do
      let entry ← byName takeField ⟨none, none⟩ entries
      return ⟨← needed "name" entry.name?, ← needed "type" entry.type?⟩)
    (fun items => do
      let name ← itemOr items 0 textOf (.error (.tooShort 0 fieldRecord))
      let type ← itemOr items 1 textOf (.error (.tooShort 1 fieldRecord))
      return ⟨name, type⟩)

/-- A class entry whose name may still be missing. -/
structure PartialClass where
  name? : Option String
  parameters : List String
  fields : List FieldEntry

def takeClass (entry : PartialClass) (key : String) (value : Toml.Value) :
    Decoded PartialClass :=
  match key with
  | "name" => return { entry with name? := some (← textOf value) }
  | "type_params" => return { entry with parameters := ← listOf textOf value }
  | "fields" => return { entry with fields := ← listOf fieldOf value }
  | other => .error (.unknownField other classRecord)

def classOf : Toml.Value → Decoded ClassEntry :=
  recordOf classRecord
    (fun entries => do
      let entry ← byName takeClass ⟨none, [], []⟩ entries
      return ⟨← needed "name" entry.name?, entry.parameters, entry.fields⟩)
    (fun items => do
      let name ← itemOr items 0 textOf (.error (.tooShort 0 classRecord))
      let parameters ← itemOr items 1 (listOf textOf) (.ok [])
      let fields ← itemOr items 2 (listOf fieldOf) (.ok [])
      return ⟨name, parameters, fields⟩)

def take (manifest : Manifest) (key : String) (value : Toml.Value) : Decoded Manifest :=
  match key with
  | "logging" => return { manifest with logging := ← loggingOf value }
  | "classes" => return { manifest with classes := ← listOf classOf value }
  | other => .error (.unknownField other manifestRecord)

/-! A text is first read as a document and then as a manifest. -/

inductive ReadError where
  | malformed
  | unfit (problem : Problem)

def ReadError.message (error : ReadError) : String :=
  "failed to parse toml config: " ++
    match error with
    | .malformed => "the document is malformed"
    | .unfit problem => problem.message

def read (text : String) : Except ReadError Manifest :=
  match Toml.read? text with
  | none => .error .malformed
  | some entries => (byName take .empty entries).mapError .unfit

end FieldTypes.Manifest
