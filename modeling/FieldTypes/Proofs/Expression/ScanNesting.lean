import FieldTypes.Proofs.Sequences
import FieldTypes.Proofs.Expression.ScanTypes

/-! A scan closes every bracket that it opens.  This does not depend on the text, on where the
scan begins or on how many calls it may have active. -/

namespace FieldTypes.Expression

open Text

namespace Scan

section

variable {Result Later State : Type}

/-- Wherever the scan gives a result, as many brackets are open as before it. -/
def Keeps (scan : Scan Result) : Prop :=
  ∀ ⦃cursor next : Cursor⦄ ⦃value : Result⦄, scan cursor = .ok (value, next) →
    next.nesting = cursor.nesting

theorem bind_eq_ok_iff {scan : Scan Result} {later : Result → Scan Later} {cursor last : Cursor}
    {result : Later} :
    (scan >>= later) cursor = .ok (result, last) ↔
      ∃ value next, scan cursor = .ok (value, next) ∧ later value next = .ok (result, last) := by
  constructor
  · intro ended
    cases first : scan cursor with
    | error halt => cases (bind_of_error first later).symm.trans ended
    | ok parts => exact ⟨parts.1, parts.2, rfl, (bind_of_ok first later).symm.trans ended⟩
  · rintro ⟨value, next, first, ended⟩
    exact (bind_of_ok first later).trans ended

theorem Keeps.bind {scan : Scan Result} {later : Result → Scan Later} (first : Keeps scan)
    (others : ∀ value, Keeps (later value)) : Keeps (scan >>= later) := by
  intro cursor last result ended
  rcases bind_eq_ok_iff.mp ended with ⟨value, next, passed, rest⟩
  exact (others value rest).trans (first passed)

theorem keeps_pure (value : Result) : Keeps (pure value : Scan Result) := by
  intro cursor next result ended
  cases ended
  rfl

theorem keeps_get : Keeps (get : Scan Cursor) := by
  intro cursor next result ended
  cases ended
  rfl

theorem keeps_throw (halt : Halt) : Keeps (throw halt : Scan Result) :=
  nofun

theorem keeps_pass (bytes : Nat) : Keeps (pass bytes) := by
  intro cursor next result ended
  cases ended
  rfl

theorem keeps_refuse (cause : Cause) : Keeps (refuse cause : Scan Result) :=
  nofun

variable {text : List Char} {turn : State → Scan (Turn State Result)}

/-- Only the last turn of a loop may change how many brackets are open. -/
theorem nesting_loop (change : Nat → Nat)
    (again : ∀ {state later cursor next}, turn state cursor = .ok (.again later, next) →
      next.nesting = cursor.nesting)
    (last : ∀ {state value cursor next}, turn state cursor = .ok (.last value, next) →
      next.nesting = change cursor.nesting)
    {state : State} {cursor next : Cursor} {value : Result}
    (ended : loop text turn state cursor = .ok (value, next)) :
    next.nesting = change cursor.nesting := by
  induction state, cursor using loop.induct text turn with
  | case1 state cursor halt turned =>
      rw [loop_of_error turned] at ended
      cases ended
  | case2 state cursor found after turned =>
      rw [loop_of_last turned] at ended
      cases ended
      exact last turned
  | case3 state cursor later after turned progress induction =>
      rw [loop_of_again turned progress] at ended
      rw [induction ended, again turned]
  | case4 state cursor later after turned stuck =>
      rw [loop, turned] at ended
      dsimp only at ended
      rw [if_neg stuck] at ended
      cases ended

theorem Keeps.loop (turns : ∀ state, Keeps (turn state)) (state : State) :
    Keeps (loop text turn state) := by
  intro cursor next value
  exact nesting_loop id (fun turned => turns _ turned) (fun turned => turns _ turned)

end

/-! ## Characters and names -/

section

variable (text : List Char)

theorem keeps_unread : Keeps (unread text) := by
  refine keeps_get.bind fun cursor => ?_
  split
  · exact keeps_throw _
  · exact keeps_pure _

theorem keeps_between (start stop : Nat) : Keeps (between text start stop) := by
  unfold between
  split
  · exact keeps_throw _
  · split
    · exact keeps_throw _
    · exact keeps_pure _

theorem keeps_peek : Keeps (peek text) :=
  (keeps_unread text).bind fun _ => keeps_pure _

theorem keeps_unexpected {Result : Type} : Keeps (unexpected text : Scan Result) := by
  refine (keeps_peek text).bind fun found => ?_
  cases found with
  | none => exact keeps_refuse _
  | some character => exact keeps_refuse _

theorem keeps_skipBlanks : Keeps (skipBlanks text) := by
  refine Keeps.loop (fun _ => (keeps_peek text).bind fun found => ?_) ()
  cases found with
  | none => exact keeps_pure _
  | some character =>
      dsimp only
      split
      · exact (keeps_pass _).bind fun _ => keeps_pure _
      · exact keeps_pure _

theorem keeps_eat (expected : Char) : Keeps (eat text expected) := by
  refine (keeps_skipBlanks text).bind fun _ => (keeps_peek text).bind fun found => ?_
  split
  · exact (keeps_pass _).bind fun _ => keeps_pure _
  · exact keeps_pure _

theorem keeps_expect (expected : Char) : Keeps (expect text expected) := by
  refine (keeps_eat text expected).bind fun found => ?_
  split
  · exact keeps_pure _
  · exact keeps_unexpected text

theorem keeps_nameTurn (segmentStarts : Bool) : Keeps (nameTurn text segmentStarts) := by
  refine (keeps_peek text).bind fun found => ?_
  cases found with
  | none => exact keeps_pure _
  | some character =>
      dsimp only
      split
      · exact (keeps_pass _).bind fun _ => keeps_pure _
      · exact keeps_pure _

theorem keeps_name : Keeps (name text) := by
  refine (keeps_skipBlanks text).bind fun _ => keeps_get.bind fun start => ?_
  refine (Keeps.loop (keeps_nameTurn text) true).bind fun segmentStarts => ?_
  refine keeps_get.bind fun stop => ?_
  dsimp only
  split
  · exact keeps_unexpected text
  · exact (keeps_between text _ _).bind fun _ => keeps_pure _

/-! ## Types -/

theorem keeps_checkDepth (depth : Nat) : Keeps (checkDepth depth) := by
  unfold checkDepth
  split
  · exact keeps_refuse _
  · exact keeps_pure _

variable {inner : Scan (DeclaredType × Nat)}

section

variable (keeps : Keeps inner)

include keeps

theorem keeps_reference : Keeps (reference text inner) := by
  refine (keeps_skipBlanks text).bind fun _ => keeps_get.bind fun start => ?_
  refine keeps.bind fun found => ?_
  split
  · exact keeps_throw _
  · exact keeps_pure _

theorem keeps_bounded (keyword : String) (wildcard : DeclaredType → DeclaredType) :
    Keeps (bounded text inner keyword wildcard) :=
  (keeps_pass _).bind fun _ => (keeps_reference text keeps).bind fun _ => keeps_pure _

theorem keeps_wildcard : Keeps (wildcard text inner) := by
  refine (keeps_skipBlanks text).bind fun _ => (keeps_unread text).bind fun rest => ?_
  split
  · exact keeps_bounded text keeps _ _
  · split
    · exact keeps_bounded text keeps _ _
    · exact keeps_pure _

theorem keeps_argument : Keeps (argument text inner) := by
  refine (keeps_eat text _).bind fun marked => ?_
  split
  · exact (keeps_wildcard text keeps).bind fun _ =>
      (keeps_checkDepth _).bind fun _ => keeps_pure _
  · exact keeps_reference text keeps

/-- A comma leaves the bracket open, and the last turn closes it. -/
theorem nesting_argumentsTurn {state : List DeclaredType × Nat}
    {turned : Turn (List DeclaredType × Nat) (List DeclaredType × Nat)} {cursor next : Cursor}
    (ended : argumentsTurn text inner state cursor = .ok (turned, next)) :
    next.nesting = match turned with
      | .again _ => cursor.nesting
      | .last _ => cursor.nesting - 1 := by
  rcases bind_eq_ok_iff.mp ended with ⟨found, afterFound, first, ended⟩
  rcases bind_eq_ok_iff.mp ended with ⟨separated, afterMark, eaten, ended⟩
  have begun : afterMark.nesting = cursor.nesting :=
    (keeps_eat text _ eaten).trans (keeps_argument text keeps first)
  cases separated with
  | true =>
      cases ended
      exact begun
  | false =>
      rcases bind_eq_ok_iff.mp ended with ⟨_, afterClose, closed, ended⟩
      rcases bind_eq_ok_iff.mp ended with ⟨_, outside, left, ended⟩
      rcases bind_eq_ok_iff.mp ended with ⟨_, checked, shallow, ended⟩
      cases ended
      cases left
      rw [← begun, ← keeps_expect text _ closed]
      exact keeps_checkDepth _ shallow

theorem keeps_typeArguments : Keeps (typeArguments text inner) := by
  refine (keeps_eat text _).bind fun opened => ?_
  split
  · refine keeps_get.bind fun begun => ?_
    split
    · exact keeps_refuse _
    · refine (keeps_eat text _).bind fun empty => ?_
      split
      · exact keeps_refuse _
      · intro cursor next result ended
        rcases bind_eq_ok_iff.mp ended with ⟨_, deeper, entered, ended⟩
        rcases bind_eq_ok_iff.mp ended with ⟨read, last, looped, ended⟩
        cases ended
        cases entered
        exact nesting_loop (· - 1) (fun turned => nesting_argumentsTurn text keeps turned)
          (fun turned => nesting_argumentsTurn text keeps turned) looped
  · exact keeps_pure _

theorem keeps_element (meaning? : String → Option Meaning) :
    Keeps (element text meaning? inner) := by
  refine (keeps_skipBlanks text).bind fun _ => keeps_get.bind fun start => ?_
  refine (keeps_name text).bind fun found => (keeps_typeArguments text keeps).bind fun _ => ?_
  split
  · exact keeps_throw _
  · exact keeps_pure _

theorem keeps_descend (begun : Cursor) : Keeps (descend text begun inner) := by
  refine keeps_get.bind fun cursor => ?_
  split
  · exact keeps
  · exact keeps_throw _

end

theorem keeps_dimensionsTurn (found : DeclaredType × Nat) :
    Keeps (dimensionsTurn text found) := by
  refine (keeps_eat text _).bind fun opened => ?_
  split
  · exact (keeps_expect text _).bind fun _ =>
      (keeps_checkDepth _).bind fun _ => keeps_pure _
  · exact keeps_pure _

theorem keeps_type (meaning? : String → Option Meaning) : ∀ calls : Nat,
    Keeps (type text meaning? calls)
  | 0 => keeps_throw _
  | calls + 1 => keeps_get.bind fun begun =>
      (keeps_element text (keeps_descend text (keeps_type meaning? calls) begun) meaning?).bind
        (Keeps.loop (keeps_dimensionsTurn text))

end

end Scan

/-- A scan of any text runs to the end of the text or to a fault of it.  No turn of a loop and
no call inside of another is ever made without less text ahead, and no more than 256 calls for
a type are active at one time.  Arguments, once read, leave as many brackets open as before. -/
theorem scan_ends_and_closes_brackets (registry : Registry) (scope : Scope) :
    (∀ text : String, scan (maximalDepth + 1) registry scope text =
      (parse registry scope text).mapError .refused) ∧
    (∀ (text : List Char) (begun cursor next : Cursor) (calls : Nat)
      (arguments : Option (List DeclaredType × Nat)),
      Scan.typeArguments text
          (Scan.descend text begun (Scan.type text (scope.meaning? registry) calls)) cursor =
        .ok (arguments, next) →
      next.nesting = cursor.nesting) := by
  refine ⟨scan_eq_parse registry scope, ?_⟩
  intro text begun cursor next calls arguments ended
  exact Scan.keeps_typeArguments text
    (Scan.keeps_descend text (Scan.keeps_type text (scope.meaning? registry) calls) begun) ended

theorem scan_closes_bracket_of_variable :
    ∃ (arguments : Option (List DeclaredType × Nat)) (next : Cursor),
      Scan.typeArguments "<A>".toList (Scan.descend "<A>".toList ⟨0, 7⟩
          (Scan.type "<A>".toList (Scope.meaning? ⟨["A"], none⟩ (.empty ⟨0⟩)) 1)) ⟨0, 7⟩ =
        .ok (arguments, next) ∧
      next.nesting = 7 := by
  have ended : Scan.typeArguments "<A>".toList (Scan.descend "<A>".toList ⟨0, 7⟩
      (Scan.type "<A>".toList (Scope.meaning? ⟨["A"], none⟩ (.empty ⟨0⟩)) 1)) ⟨0, 7⟩ =
        .ok (some ([.typeVariable "A"], 1), ⟨3, 7⟩) := by
    decide +kernel
  exact ⟨_, _, ended, (scan_ends_and_closes_brackets (.empty ⟨0⟩) _).2 _ _ _ _ _ _ ended⟩

/-- A type inside of another needs a second call. -/
example :
    scan 1 (.empty ⟨0⟩) ⟨[], some ("Box", ⟨0⟩)⟩ "Box<Box>" = .error .tooManyCalls ∧
      scan 2 (.empty ⟨0⟩) ⟨[], some ("Box", ⟨0⟩)⟩ "Box<Box>" =
        .ok (.parameterized ⟨0⟩ [.plain ⟨0⟩]) := by
  decide +kernel

end FieldTypes.Expression
