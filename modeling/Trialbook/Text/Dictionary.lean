/-!
# Texts by key

A dictionary holds one text for each of its keys and lists them in the order of
the keys, character by character.
-/

namespace Trialbook.Text

/-- Keys with their texts, in the order of the keys. -/
structure Dictionary where
  entries : List (String × String) := []
  deriving DecidableEq, Repr, Inhabited

namespace Dictionary

/-- Entries in order with one more, which takes the place of an entry with its
key. -/
def insertEntry (key value : String) : List (String × String) → List (String × String)
  | [] => [(key, value)]
  | (k, v) :: rest =>
    if key = k then (key, value) :: rest
    else if key < k then (key, value) :: (k, v) :: rest
    else (k, v) :: insertEntry key value rest

/-- The dictionary with a text under a key. -/
def insert (d : Dictionary) (key value : String) : Dictionary :=
  ⟨insertEntry key value d.entries⟩

/-- The text under a key. -/
def get? (d : Dictionary) (key : String) : Option String := d.entries.lookup key

/-- Whether there is a text under the key. -/
def contains (d : Dictionary) (key : String) : Bool := (d.get? key).isSome

/-- The keys in order. -/
def keys (d : Dictionary) : List String := d.entries.map (·.1)

/-- The dictionary of the given pairs. Of several with one key the last counts. -/
def ofList (pairs : List (String × String)) : Dictionary :=
  pairs.foldl (fun d (k, v) => d.insert k v) {}

end Dictionary

end Trialbook.Text
