import FieldTypes.Toml.Value

namespace FieldTypes.Toml

/-! A table while its document is being read.  How a table came about decides
what may still be added to it. -/

inductive Origin where
  /-- The table has a header of its own, or is the whole document. -/
  | header
  /-- Only headers of tables within it have been seen. -/
  | implied
  /-- Dotted keys lead through it. -/
  | dotted
deriving DecidableEq, Repr

/-- Of a list of tables only the last one can still grow. -/
inductive Node where
  | value (value : Value)
  | table (origin : Origin) (entries : List (String × Node))
  | tables (earlier : List Value) (last : List (String × Node))

abbrev Entries := List (String × Node)

mutual
def Node.toValue : Node → Value
  | .value value => value
  | .table _ entries => .table (entryValues entries)
  | .tables earlier last => .list (earlier ++ [.table (entryValues last)])

def entryValues : List (String × Node) → List (String × Value)
  | [] => []
  | (key, node) :: rest => (key, node.toValue) :: entryValues rest
end

namespace Entries

/-- Puts another node in the place of the one under a key. -/
def replace (key : String) (node : Node) (entries : Entries) : Entries :=
  entries.map fun entry => if entry.1 = key then (key, node) else entry

def remove (key : String) (entries : Entries) : Entries :=
  entries.filter (·.1 != key)

/-! A path leads from a table to one within it, and makes the tables that are not
there yet.  It leads into the last table of a list.  A path of dotted keys must
not enter a table that has a header. -/

/-- Changes the table at the end of a path. -/
def changeAt (dotted : Bool) (change : Origin → Entries → Option Entries) :
    List String → Origin → Entries → Option Entries
  | [], origin, entries => change origin entries
  | key :: rest, _, entries =>
      match entries.lookup key with
      | none =>
          let origin : Origin := if dotted then .dotted else .implied
          (changeAt dotted change rest origin []).map fun changed =>
            entries ++ [(key, .table origin changed)]
      | some (.value _) => none
      | some (.tables earlier last) =>
          (changeAt dotted change rest .header last).map fun changed =>
            entries.replace key (.tables earlier changed)
      | some (.table origin inner) =>
          if dotted && origin = .header then none
          else
            (changeAt dotted change rest origin inner).map fun changed =>
              entries.replace key (.table origin changed)

/-- Gives a key its value.  The key must be new, and a table that dotted keys lead
to must have come about through dotted keys. -/
def assign (path : List String) (key : String) (value : Value) :
    Origin → Entries → Option Entries :=
  changeAt true (fun origin entries =>
    if (origin == .dotted) == path.isEmpty then none
    else if (entries.lookup key).isSome then none
    else some (entries ++ [(key, .value value)])) path

/-- Starts a table under a header.  One that was only implied moves to the end
with all that it holds. -/
def startTable (key : String) (entries : Entries) : Option Entries :=
  match entries.lookup key with
  | none => some (entries ++ [(key, .table .header [])])
  | some (.table .implied inner) => some (entries.remove key ++ [(key, .table .header inner)])
  | some _ => none

/-- Starts one more table of a list. -/
def startElement (key : String) (entries : Entries) : Option Entries :=
  match entries.lookup key with
  | none => some (entries ++ [(key, .tables [] [])])
  | some (.tables earlier last) =>
      some (entries.replace key (.tables (earlier ++ [.table (entryValues last)]) []))
  | some _ => none

/-- The table that assignments make when they stand by themselves. -/
def ofAssignments? (assignments : List ((List String × String) × Value)) : Option Entries :=
  assignments.foldlM (fun entries ((path, key), value) =>
    assign path key value .header entries) []

end Entries

/-- A line of a document. -/
inductive Line where
  | assignment (path : List String) (key : String) (value : Value)
  | table (path : List String) (key : String)
  | element (path : List String) (key : String)

/-- A document as far as it has been read, with the path of the table that the
assignments to come belong to. -/
structure Draft where
  root : Entries
  current : List String

namespace Draft

def empty : Draft :=
  ⟨[], []⟩

def addLine (draft : Draft) : Line → Option Draft
  | .assignment path key value =>
      (draft.root.changeAt false (Entries.assign path key value) draft.current .header).map
        fun root => { draft with root }
  | .table path key =>
      (draft.root.changeAt false (fun _ => Entries.startTable key) path .header).map
        fun root => ⟨root, path ++ [key]⟩
  | .element path key =>
      (draft.root.changeAt false (fun _ => Entries.startElement key) path .header).map
        fun root => ⟨root, path ++ [key]⟩

def ofLines? (lines : List Line) : Option Draft :=
  lines.foldlM addLine empty

end Draft

end FieldTypes.Toml
