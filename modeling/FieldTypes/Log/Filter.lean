import FieldTypes.Log.Level
import FieldTypes.Text.Alphabetic
import FieldTypes.Text.Numeric
import FieldTypes.Text.Reading
import FieldTypes.Text.Separated

namespace FieldTypes.Log

open Text

/-! A directive sets the level of one target and of what lies below it, or of
everything when it names no target. -/

structure Directive where
  target? : Option String
  level : Level
deriving DecidableEq, Repr

namespace Directive

def text (directive : Directive) : String :=
  match directive.target? with
  | none => directive.level.word
  | some target => target ++ "=" ++ directive.level.word

/-- Whether the directive is about events of the target. -/
def covers (directive : Directive) (target : String) : Bool :=
  match directive.target? with
  | none => true
  | some start => start.toList.isPrefixOf target.toList

/-- A word that is no level is a target of which everything is logged. -/
def ofWord (word : List Char) : Directive :=
  match Level.read? word with
  | some level => ⟨none, level⟩
  | none => ⟨some (String.ofList word), .trace⟩

/-- What may come first in a directive, after white space. -/
def startsDirective (character : Char) : Bool :=
  isAlphabetic character || isNumeric character || character == '-' ||
    character == ':' || character == '_'

/-- The two sides of the first equals sign, if there is one. -/
def sides? (text : List Char) : Option (List Char × List Char) :=
  match text.span (· != '=') with
  | (_, []) => none
  | (target, _ :: level) => some (target, level)

/-- Reads `LEVEL`, `TARGET` or `TARGET=LEVEL`. -/
def read? (text : List Char) : Option Directive :=
  match skipBlank text with
  | [] => none
  | first :: _ =>
      if !startsDirective first then none
      else match sides? text with
        | none => some (ofWord text)
        | some (target, level) =>
            if target.head?.any isBlank then none
            else if level.isEmpty then some ⟨some (String.ofList target), .trace⟩
            else (Level.read? level).map (⟨some (String.ofList target), ·⟩)

end Directive

/-! A filter holds one directive for each target.  Longer targets come first, so
that the first directive about an event is the one that says most about it.  The
directive without a target comes last. -/

/-- The order of the targets in a filter: by length in bytes, then backwards in
the alphabet. -/
def targetBefore : Option String → Option String → Bool
  | none, _ => false
  | some _, none => true
  | some left, some right =>
      let leftLength := byteLength left.toList
      let rightLength := byteLength right.toList
      rightLength < leftLength || (leftLength == rightLength && right < left)

structure Filter where
  directives : List Directive
deriving DecidableEq, Repr

namespace Filter

def place (added : Directive) : List Directive → List Directive
  | [] => [added]
  | first :: rest =>
      if added.target? = first.target? then added :: rest
      else if targetBefore added.target? first.target? then added :: first :: rest
      else first :: place added rest

/-- Adds a directive, in place of any for the same target. -/
def insert (filter : Filter) (added : Directive) : Filter :=
  ⟨place added filter.directives⟩

def ofDirectives (directives : List Directive) : Filter :=
  directives.foldl insert ⟨[]⟩

/-- The filter that lets everything of one level through. -/
def everything (level : Level) : Filter :=
  ⟨[⟨none, level⟩]⟩

def readDirectives? : List (List Char) → Option (List Directive)
  | [] => some []
  | part :: rest =>
      if part.isEmpty then readDirectives? rest
      else match Directive.read? part with
        | none => none
        | some directive => (readDirectives? rest).map (directive :: ·)

/-- Reads directives with commas between them.  There may be none at all, and then
nothing is logged. -/
def read? (text : String) : Option Filter :=
  (readDirectives? (cutAt ',' text.toList)).map ofDirectives

def text (filter : Filter) : String :=
  ",".intercalate (filter.directives.map Directive.text)

/-- The level that the filter sets for exactly this target. -/
def level? (filter : Filter) (target? : Option String) : Option Level :=
  (filter.directives.find? (·.target? == target?)).map (·.level)

/-- Whether an event of the target and of the level is logged. -/
def allows (filter : Filter) (target : String) (level : Level) : Bool :=
  match filter.directives.find? (·.covers target) with
  | none => false
  | some directive => directive.level.allows level

end Filter

end FieldTypes.Log
