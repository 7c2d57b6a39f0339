import Trialbook.Node.OneOrMany
import Trialbook.Text.Dictionary

/-!
# Reading records out of nodes

A record is read from a mapping, entry by entry in the document's order, and the
first entry that does not fit is the fault. Tags do not count, null stands for a
record or a dictionary without entries, and keys that the record does not know
are passed over, whatever they hold.
-/

namespace Trialbook.Record

open Text (Dictionary)

/-- A text. -/
def text (node : Node) : Except RecordFault String :=
  match node.text? with
  | some s => .ok s
  | none => .error (.invalidType node "a string")

/-- Nothing for null, otherwise what is read from the node. -/
def optional {α : Type} (read : Node → Except RecordFault α) :
    Node → Except RecordFault (Option α)
  | .null => .ok none
  | node => (read node).map some

/-- The entries of a mapping, with what a message calls the thing expected. -/
def entries (expected : String) (node : Node) : Except RecordFault Entries :=
  match node.untag with
  | .mapping es => .ok es
  | .null => .ok []
  | _ => .error (.invalidType node expected)

/-- A record from entries: each known field is read into it, and may come only
once. `seen` are the fields that have come. -/
def fieldsFrom {α : Type} (known : List String)
    (read : String → Node → α → Except RecordFault α) :
    List String → Entries → α → Except RecordFault α
  | _, [], record => .ok record
  | seen, (key, value) :: rest, record =>
    match key.text? with
    | none => .error (.invalidType key "field identifier")
    | some name =>
      if !known.contains name then fieldsFrom known read seen rest record
      else if seen.contains name then .error (.duplicateField name)
      else do fieldsFrom known read (name :: seen) rest (← read name value record)

/-- A record from a node. -/
def fields {α : Type} (expected : String) (known : List String)
    (read : String → Node → α → Except RecordFault α) (initial : α) (node : Node) :
    Except RecordFault α := do
  fieldsFrom known read [] (← entries expected node) initial

/-- A dictionary from entries. -/
def dictionaryFrom (read : Node → Except RecordFault String) :
    Entries → Dictionary → Except RecordFault Dictionary
  | [], d => .ok d
  | (key, value) :: rest, d => do
    let name ← text key
    dictionaryFrom read rest (d.insert name (← read value))

/-- A dictionary from a node. -/
def dictionary (read : Node → Except RecordFault String) (node : Node) :
    Except RecordFault Dictionary := do
  dictionaryFrom read (← entries "a map" node) {}

/-- One text or several, by the name that messages give the list. Tags count
here. -/
def list (place : String) (node : Node) : Except RecordFault (List String) :=
  (node.oneOrMany place).mapError .list

end Trialbook.Record
