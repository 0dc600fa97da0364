import FieldTypes.Manifest.Basic
import FieldTypes.Resolution.Resolver
import FieldTypes.Types.Outline

namespace FieldTypes.CommandLine

open Text

/-! What the two commands have to tell.  Each report has a form for people and one
in JSON. -/

structure DeclaredLine where
  name : String
  declared : String
deriving DecidableEq, Repr

structure ClassSummary where
  name : String
  parameters : List String
  fields : List DeclaredLine
deriving DecidableEq, Repr

structure CheckReport where
  config? : Option String
  classes : List ClassSummary
deriving DecidableEq, Repr

def summary (registry : Registry) (definition : ClassDefinition) : ClassSummary where
  name := definition.name
  parameters := definition.parameters
  fields := definition.fields.map fun field =>
    ⟨field.name, registry.declaredText field.type⟩

namespace CheckReport

/-- The classes of a manifest as its registry has them. -/
def make (config? : Option String) (manifest : Manifest) (registry : Registry) :
    CheckReport where
  config?
  classes := manifest.classes.filterMap fun entry =>
    ((registry.lookup? entry.name).bind registry.definition?).map (summary registry)

def classHeading (entry : ClassSummary) : String :=
  if entry.parameters.isEmpty then "class " ++ entry.name
  else "class " ++ entry.name ++ "<" ++ commaSeparated entry.parameters ++ ">"

def classLines (entry : ClassSummary) : List String :=
  classHeading entry :: entry.fields.map fun field => "  " ++ field.name ++ ": " ++ field.declared

def lines (report : CheckReport) : List String :=
  ("config: " ++ report.config?.getD "(none)") ::
    report.classes.flatMap classLines ++ [s!"ok: {report.classes.length} classes"]

def classJson (entry : ClassSummary) : Json :=
  .object
    [ ("name", .text entry.name),
      ("type_params", .list (entry.parameters.map .text)),
      ("fields", .list (entry.fields.map fun field =>
        .object [("name", .text field.name), ("declared", .text field.declared)])) ]

def json (report : CheckReport) : Json :=
  .object
    [ ("config", match report.config? with
        | none => .null
        | some path => .text path),
      ("classes", .list (report.classes.map classJson)) ]

end CheckReport

/-- A field with its resolved type, as a text and as an outline, or with the reason why
it has none.  Each of the three can be absent by itself. -/
structure ResolvedLine where
  name : String
  declared : String
  resolved? : Option String
  descriptor? : Option Outline
  error? : Option String

structure ResolveReport where
  name : String
  display : String
  outline : Outline
  fields : List ResolvedLine

namespace ResolveReport

def fieldLine (resolver : Resolver) (field : FieldDefinition) : ResolvedLine :=
  match resolver.resolve field with
  | .ok type =>
      { name := field.name
        declared := resolver.registry.declaredText field.type
        resolved? := some (resolver.registry.resolvedText type)
        descriptor? := some (Outline.inRegistry resolver.registry type)
        error? := none }
  | .error error =>
      { name := field.name
        declared := resolver.registry.declaredText field.type
        resolved? := none
        descriptor? := none
        error? := some error.message }

/-- The class of a resolver and each of its fields. -/
def make (resolver : Resolver) : ResolveReport where
  name := resolver.definition.name
  display := resolver.registry.resolvedText resolver.classType
  outline := Outline.inRegistry resolver.registry resolver.classType
  fields := resolver.definition.fields.map (fieldLine resolver)

/-- Whether the report has an error for a field. -/
def hasErrors (report : ResolveReport) : Bool :=
  report.fields.any (·.error?.isSome)

/-- A field as a line.  A text stands before an error, and without both there is no line. -/
def line? (field : ResolvedLine) : Option String :=
  match field.resolved?, field.error? with
  | some text, _ => some ("  " ++ field.name ++ ": " ++ field.declared ++ " => " ++ text)
  | none, some message =>
      some ("  " ++ field.name ++ ": " ++ field.declared ++ " => error: " ++ message)
  | none, none => none

def lines (report : ResolveReport) : List String :=
  report.display :: report.fields.filterMap line?

/-- A field in JSON.  What is absent is left out. -/
def fieldJson (field : ResolvedLine) : Json :=
  .object
    ([("name", .text field.name), ("declared", .text field.declared)] ++
      (field.resolved?.map fun text => ("resolved", Json.text text)).toList ++
      (field.descriptor?.map fun outline => ("descriptor", outline.json)).toList ++
      (field.error?.map fun message => ("error", Json.text message)).toList)

def json (report : ResolveReport) : Json :=
  .object
    [ ("class", .text report.name),
      ("type", report.outline.json),
      ("display", .text report.display),
      ("fields", .list (report.fields.map fieldJson)) ]

end ResolveReport

/-- What is told when a command fails. -/
def failureJson (message : String) : Json :=
  .object [("ok", .boolean false), ("error", .text message)]

end FieldTypes.CommandLine
