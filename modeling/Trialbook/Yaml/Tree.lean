import Trialbook.Yaml.Event

/-!
# Trees of events

A document as it is written: its nodes with what their tags do, and references
still unresolved. Beside the tree stand the anchored nodes by number.

An anchor gets as its number the count of the names that have been anchored
before. A name that is anchored again can thus share its number with a name that
comes later, and of the nodes with one number the one that starts last counts.
-/

namespace Trialbook.Yaml

/-- A node as it is written. -/
inductive Tree where
  | scalar (tag : TagEffect) (plain : Bool) (text : String)
  | reference (id : Nat)
  | sequence (tag : TagEffect) (items : List Tree)
  | mapping (tag : TagEffect) (entries : List (Tree × Tree))
  deriving Repr, Inhabited

/-- Where an anchor stands. -/
structure AnchorSite where
  /-- The number of the anchor. -/
  id : Nat
  /-- The number of events before its node. -/
  start : Nat
  deriving DecidableEq, Repr

/-- An anchored node. -/
structure AnchoredTree where
  site : AnchorSite
  tree : Tree
  deriving Repr

/-- A document's tree and its anchored nodes. -/
structure Forest where
  root : Tree
  anchored : List AnchoredTree
  deriving Repr

/-- The anchored node that a number stands for. -/
def Forest.find? (f : Forest) (id : Nat) : Option Tree :=
  let last := (f.anchored.filter fun a => a.site.id == id).foldl
    (fun best a => match best with
      | none => some a
      | some b => if b.site.start < a.site.start then some a else some b)
    none
  last.map (·.tree)

namespace Forest

/-- A collection whose end has not come. -/
structure Frame where
  isMapping : Bool
  tag : TagEffect
  site : Option AnchorSite
  /-- What it holds, latest first; in a mapping keys and values alternate. -/
  items : List Tree := []

/-- Keys and values in turn, as entries. -/
def pairs : List Tree → List (Tree × Tree)
  | key :: value :: rest => (key, value) :: pairs rest
  | _ => []

/-- The collection, now that it is complete. -/
def Frame.tree (f : Frame) : Tree :=
  if f.isMapping then .mapping f.tag (pairs f.items.reverse) else .sequence f.tag f.items.reverse

/-- A forest under construction. -/
structure Builder where
  /-- The number of events so far. -/
  count : Nat := 0
  /-- The number of each anchored name. -/
  names : List (String × Nat) := []
  anchored : List AnchoredTree := []
  /-- The collections whose end has not come, innermost first. -/
  frames : List Frame := []
  root : Option Tree := none

namespace Builder

/-- The anchor of a node that starts here. -/
def site (b : Builder) (p : Properties) : Option AnchorSite :=
  p.anchor.map fun _ => ⟨b.names.length, b.count⟩

/-- The names after an anchor. -/
def enter (b : Builder) (p : Properties) : Builder :=
  match p.anchor with
  | none => b
  | some name =>
    { b with names := (name, b.names.length) :: b.names.filter fun n => n.1 != name }

/-- A node that is complete. -/
def add (b : Builder) (site : Option AnchorSite) (tree : Tree) : Builder :=
  let b := match site with
    | none => b
    | some site => { b with anchored := ⟨site, tree⟩ :: b.anchored }
  match b.frames with
  | [] => { b with root := some tree }
  | f :: frames => { b with frames := { f with items := tree :: f.items } :: frames }

/-- An event more. -/
def step? (b : Builder) (event : Event) : Option Builder :=
  let next := { b with count := b.count + 1 }
  match event with
  | .reference name => (b.names.lookup name).map fun id => next.add none (.reference id)
  | .scalar p plain text => some ((next.enter p).add (b.site p) (.scalar p.effect plain text))
  | .sequenceStart p =>
    some { next.enter p with frames := ⟨false, p.effect, b.site p, []⟩ :: b.frames }
  | .mappingStart p =>
    some { next.enter p with frames := ⟨true, p.effect, b.site p, []⟩ :: b.frames }
  | .collectionEnd =>
    match b.frames with
    | [] => none
    | f :: frames => some ({ next with frames }.add f.site f.tree)

end Builder

/-- The forest of a document's events. A reference may only name an anchor that
comes before it. -/
def ofEvents? (events : List Event) : Option Forest := do
  let b ← events.foldlM Builder.step? {}
  return ⟨← b.root, b.anchored⟩

end Forest

end Trialbook.Yaml
