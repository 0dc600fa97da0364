import FieldTypes.Expression.Parser

/-! Reading a type expression in place.  A scan keeps the text whole and moves a cursor over
it, which counts the bytes that it has passed and the angle brackets that are open.  It looks
at a character by cutting the text at the cursor, and it goes on in loops and in calls.

A scan halts at what would go wrong without being a fault of the text: a cut through the
middle of a character, a turn of a loop or a nested call that finds no less text than the one
before, and a call for a type while as many as are allowed are still active. -/

namespace FieldTypes.Expression

open Text

/-- Where a scan stands. -/
structure Cursor where
  offset : Nat
  nesting : Nat
deriving DecidableEq, Repr

/-- Why a scan gives no result. -/
inductive Halt where
  | refused (error : Error)
  | cutCharacter
  | noProgress
  | tooManyCalls
deriving DecidableEq, Repr

abbrev Scan := StateT Cursor (Except Halt)

/-- The text cut in two at a byte, unless this byte is inside of a character or beyond the
end. -/
def cutAtByte? : List Char → Nat → Option (List Char × List Char)
  | text, 0 => some ([], text)
  | [], _ + 1 => none
  | character :: later, offset + 1 =>
      if offset + 1 < character.utf8Size then none
      else (cutAtByte? later (offset + 1 - character.utf8Size)).map fun parts =>
        (character :: parts.1, parts.2)

/-- How a turn of a loop ends. -/
inductive Turn (State Result : Type) where
  | again (state : State)
  | last (result : Result)

/-- The bytes in front of a cursor. -/
def Cursor.ahead (text : List Char) (cursor : Cursor) : Nat :=
  byteLength text - cursor.offset

namespace Scan

variable {State Result : Type} (text : List Char)

/-- The text from the cursor on. -/
def unread : Scan (List Char) := do
  match cutAtByte? text (← get).offset with
  | none => throw .cutCharacter
  | some parts => return parts.2

/-- The text between two bytes. -/
def between (start stop : Nat) : Scan (List Char) := do
  match cutAtByte? text start with
  | none => throw .cutCharacter
  | some parts =>
      match cutAtByte? parts.2 (stop - start) with
      | none => throw .cutCharacter
      | some inner => return inner.1

def peek : Scan (Option Char) := do
  return (← unread text).head?

def pass (bytes : Nat) : Scan Unit :=
  modify fun cursor => { cursor with offset := cursor.offset + bytes }

def refuse (cause : Cause) : Scan Result := do
  throw (.refused ⟨(← get).offset, cause⟩)

def unexpected : Scan Result := do
  match ← peek text with
  | none => refuse .unexpectedEnd
  | some character => refuse (.unexpectedCharacter character)

/-- Takes turns up to the last one.  Each must leave less text than the one before. -/
def loop (turn : State → Scan (Turn State Result)) (state : State) : Scan Result :=
  fun cursor =>
    match turn state cursor with
    | .error halt => .error halt
    | .ok (.last result, next) => .ok (result, next)
    | .ok (.again later, next) =>
        if next.ahead text < cursor.ahead text then loop turn later next
        else .error .noProgress
termination_by cursor => cursor.ahead text

/-- A call that begins with less text than the one it is made in. -/
def descend (begun : Cursor) (inner : Scan Result) : Scan Result := do
  if (← get).ahead text < begun.ahead text then inner
  else throw .noProgress

/-! ## Characters and names -/

def blankTurn (_ : Unit) : Scan (Turn Unit Unit) := do
  match ← peek text with
  | none => return .last ()
  | some character =>
      if isBlank character then
        pass character.utf8Size
        return .again ()
      else return .last ()

def skipBlanks : Scan Unit :=
  loop text (blankTurn text) ()

/-- Whether the character comes next.  If so, the scan passes it. -/
def eat (expected : Char) : Scan Bool := do
  skipBlanks text
  if (← peek text) = some expected then
    pass expected.utf8Size
    return true
  else return false

def expect (expected : Char) : Scan Unit := do
  if ← eat text expected then return () else unexpected text

/-- The state tells whether a segment starts at the cursor. -/
def nameTurn (segmentStarts : Bool) : Scan (Turn Bool Bool) := do
  match ← peek text with
  | none => return .last segmentStarts
  | some character =>
      if belongsToName segmentStarts character then
        pass character.utf8Size
        return .again (character == '.')
      else return .last segmentStarts

def name : Scan String := do
  skipBlanks text
  let start := (← get).offset
  let segmentStarts ← loop text (nameTurn text) true
  let stop := (← get).offset
  if stop = start ∨ segmentStarts = true then unexpected text
  else return String.ofList (← between text start stop)

/-! ## Types, each with its depth -/

def checkDepth (depth : Nat) : Scan Unit :=
  if maximalDepth < depth then refuse .tooDeep else return ()

def reference (inner : Scan (DeclaredType × Nat)) : Scan (DeclaredType × Nat) := do
  skipBlanks text
  let start := (← get).offset
  let found ← inner
  match found.1 with
  | .primitive kind => throw (.refused ⟨start, .primitiveArgument kind⟩)
  | _ => return found

/-- A wildcard behind its keyword. -/
def bounded (inner : Scan (DeclaredType × Nat)) (keyword : String)
    (wildcard : DeclaredType → DeclaredType) : Scan (DeclaredType × Nat) := do
  pass (byteLength keyword.toList)
  let found ← reference text inner
  return (wildcard found.1, found.2 + 1)

/-- A wildcard behind its question mark. -/
def wildcard (inner : Scan (DeclaredType × Nat)) : Scan (DeclaredType × Nat) := do
  skipBlanks text
  let rest ← unread text
  if (keyword? "extends".toList rest).isSome then bounded text inner "extends" .extendsWildcard
  else if (keyword? "super".toList rest).isSome then bounded text inner "super" .superWildcard
  else return (.anyWildcard, 1)

def argument (inner : Scan (DeclaredType × Nat)) : Scan (DeclaredType × Nat) := do
  if ← eat text '?' then
    let found ← wildcard text inner
    checkDepth found.2
    return found
  else reference text inner

/-- The state holds the arguments so far and the depth of the deepest. -/
def argumentsTurn (inner : Scan (DeclaredType × Nat)) (state : List DeclaredType × Nat) :
    Scan (Turn (List DeclaredType × Nat) (List DeclaredType × Nat)) := do
  let found ← argument text inner
  let read := (state.1 ++ [found.1], max state.2 found.2)
  if ← eat text ',' then return .again read
  else
    expect text '>'
    modify fun cursor => { cursor with nesting := cursor.nesting - 1 }
    checkDepth (read.2 + 1)
    return .last read

def typeArguments (inner : Scan (DeclaredType × Nat)) :
    Scan (Option (List DeclaredType × Nat)) := do
  if ← eat text '<' then
    if maximalDepth ≤ (← get).nesting then refuse .tooDeep
    else if ← eat text '>' then refuse .emptyArguments
    else
      modify fun cursor => { cursor with nesting := cursor.nesting + 1 }
      return some (← loop text (argumentsTurn text inner) ([], 0))
  else return none

variable (meaning? : String → Option Meaning)

def element (inner : Scan (DeclaredType × Nat)) : Scan (DeclaredType × Nat) := do
  skipBlanks text
  let start := (← get).offset
  let found ← name text
  let arguments ← typeArguments text inner
  match applied found (meaning? found) (arguments.map (·.1)) with
  | .error cause => throw (.refused ⟨start, cause⟩)
  | .ok type => return (type, (arguments.map (·.2 + 1)).getD 1)

def dimensionsTurn (found : DeclaredType × Nat) :
    Scan (Turn (DeclaredType × Nat) (DeclaredType × Nat)) := do
  if ← eat text '[' then
    expect text ']'
    checkDepth (found.2 + 1)
    return .again (.array found.1, found.2 + 1)
  else return .last found

/-- Reads a type, and has so many calls for a type active at one time at most, itself
included. -/
def type : Nat → Scan (DeclaredType × Nat)
  | 0 => throw .tooManyCalls
  | calls + 1 => do
      let begun ← get
      let found ← element text meaning? (descend text begun (type calls))
      loop text (dimensionsTurn text) found

def whole (calls : Nat) : Scan DeclaredType := do
  let found ← type text meaning? calls
  skipBlanks text
  if (← get).offset = byteLength text then return found.1 else refuse .trailingInput

end Scan

/-- Reads a field type in place, with room for so many active calls. -/
def scan (calls : Nat) (registry : Registry) (scope : Scope) (text : String) :
    Except Halt DeclaredType :=
  (Scan.whole text.toList (scope.meaning? registry) calls ⟨0, 0⟩).map (·.1)

end FieldTypes.Expression
