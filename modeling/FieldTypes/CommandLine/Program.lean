import FieldTypes.CommandLine.Help
import FieldTypes.CommandLine.Report
import FieldTypes.Manifest.Discovery
import FieldTypes.Manifest.Registration

namespace FieldTypes.CommandLine

/-! The program: a request becomes two texts and an exit code.  Zero means that all
went well, one that the manifest or the class has a fault, and two that the
question could not be understood. -/

structure Outcome where
  code : Nat
  output : String
  diagnostics : String
deriving DecidableEq, Repr

namespace Outcome

def addDiagnostics (outcome : Outcome) (text : String) : Outcome :=
  { outcome with diagnostics := text ++ outcome.diagnostics }

/-- Output as lines or in JSON. -/
def reported (code : Nat) (asJson : Bool) (lines : List String) (json : Text.Json) : Outcome :=
  ⟨code, if asJson then json.pretty ++ "\n" else String.join (lines.map (· ++ "\n")), ""⟩

/-- A fault of the manifest or of the class. -/
def fault (asJson : Bool) (message : String) : Outcome :=
  if asJson then ⟨1, (failureJson message).pretty ++ "\n", ""⟩
  else ⟨1, "", "error: " ++ message ++ "\n"⟩

/-- A question that cannot be understood. -/
def refusal (message : String) : Outcome :=
  ⟨2, "", message ++ "\n"⟩

end Outcome

/-! Type arguments are texts like the types of fields, but without type variables
and without wildcards.  A primitive is none. -/

inductive ArgumentFault where
  | unreadable (error : Expression.Error)
  | unresolved (error : ResolutionError)
  | primitive
deriving DecidableEq, Repr

def ArgumentFault.cause : ArgumentFault → String
  | .unreadable error => error.message
  | .unresolved error => error.message
  | .primitive => "primitive types cannot be type arguments"

def ArgumentFault.message (text : String) (fault : ArgumentFault) : String :=
  "invalid type argument `" ++ text ++ "`: " ++ fault.cause

def typeArgument (registry : Registry) (text : String) : Except ArgumentFault ResolvedType :=
  match Expression.parse registry .empty text with
  | .error error => .error (.unreadable error)
  | .ok declared =>
      match registry.concretize declared with
      | .error error => .error (.unresolved error)
      | .ok type => if type.isPrimitive then .error .primitive else .ok type

/-- The arguments in their order, or the first one with a fault. -/
def typeArguments (registry : Registry) :
    List String → Except (String × ArgumentFault) (List ResolvedType)
  | [] => .ok []
  | text :: rest =>
      match typeArgument registry text with
      | .error fault => .error (text, fault)
      | .ok type => (typeArguments registry rest).map (type :: ·)

/-! What is logged while the fields of a class are resolved. -/

def startEvent (resolver : Resolver) : Log.Event where
  target := "reify.cli"
  level := .debug
  message := "resolving class fields"
  fields := [("resolver", .text resolver.diagnostic)]

def fieldEvent (resolver : Resolver) (field : FieldDefinition) (type : ResolvedType) :
    Log.Event where
  target := "reify.resolver"
  level := .trace
  message := "resolved field type"
  fields :=
    [ ("class", .text resolver.definition.name),
      ("field", .text field.name),
      ("resolved", .text type.diagnostic) ]

def resolverEvents (resolver : Resolver) : List Log.Event :=
  startEvent resolver :: resolver.definition.fields.filterMap fun field =>
    (resolver.resolve field).toOption.map (fieldEvent resolver field)

/-! A command answers with an outcome and with the events that led to it. -/

def checked (config? : Option String) (manifest : Manifest) (asJson : Bool)
    (registry : Registry) : Outcome :=
  let report := CheckReport.make config? manifest registry
  .reported 0 asJson report.lines report.json

def resolved (className : String) (arguments : List String) (asJson : Bool)
    (registry : Registry) : List Log.Event × Outcome :=
  match registry.lookup? className with
  | none => ([], .fault asJson ("unknown class `" ++ className ++ "`"))
  | some id =>
      match typeArguments registry arguments with
      | .error (text, fault) => ([], .refusal (fault.message text))
      | .ok types =>
          match registry.resolver id types with
          | .error error => ([], .fault asJson error.message)
          | .ok resolver =>
              let report := ResolveReport.make resolver
              (resolverEvents resolver,
                .reported (if report.hasErrors then 1 else 0) asJson report.lines report.json)

def Command.options : Command → Options
  | .check options | .resolve _ _ options => options

/-- Carries out a command on a manifest that has been loaded. -/
def Command.run (command : Command) (config? : Option String) (manifest : Manifest) :
    List Log.Event × Outcome :=
  match manifest.build ⟨0⟩ with
  | .error error => ([], .fault command.options.json error.message)
  | .ok registry =>
      match command with
      | .check options => (manifest.events, checked config? manifest options.json registry)
      | .resolve className arguments options =>
          let (events, outcome) := resolved className arguments options.json registry
          (manifest.events ++ events, outcome)

/-! Around the commands: what the program finds out about its surroundings. -/

structure Environment where
  workingDirectory : String
  /-- The path of a manifest that takes the place of all others. -/
  manifestPath? : Option String
  logFilter? : Option String
  /-- The time that the log shows. -/
  time : String
deriving DecidableEq, Repr

def Environment.loggedOutcome (environment : Environment) (manifest : Manifest)
    (events : List Log.Event) (outcome : Outcome) : Outcome :=
  outcome.addDiagnostics
    (Log.report manifest.logging environment.logFilter? environment.time events)

section Files

variable {m : Type → Type} [Monad m] (files : Files.System m)

/-- The manifest that a command is about, and its path.  A path among the options
is shown as it was given. -/
def loadFor (environment : Environment) (options : Options) :
    m (Except Manifest.LoadError (Manifest × Option String)) :=
  match options.config? with
  | some path => do return (← Manifest.load files path).map (·, some path)
  | none => Manifest.loadDiscovered files environment.workingDirectory environment.manifestPath?

def runCommand (environment : Environment) (command : Command) : m Outcome := do
  match ← loadFor files environment command.options with
  | .error error => return .refusal error.chain
  | .ok (manifest, config?) =>
      let (events, outcome) := command.run config? manifest
      return environment.loggedOutcome manifest events outcome

def answer (environment : Environment) : Request → m Outcome
  | .run command => runCommand files environment command
  | .help topic => return ⟨0, topic.text, ""⟩
  | .version => return ⟨0, versionText, ""⟩
  | .nothing => return ⟨2, "", Topic.program.text⟩

end Files

end FieldTypes.CommandLine
