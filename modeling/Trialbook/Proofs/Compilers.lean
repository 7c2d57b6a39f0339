import Trialbook.Job.Compiler
import Trialbook.Proofs.Deposits
import Trialbook.Proofs.Dictionaries
import Trialbook.Proofs.Fresh

/-!
# Descriptions of compilers, migrated and read

In the old layout a compiler has a block for each language and lists flags as
`options`. In the new one it has a table of commands and lists flags as `args`, or
not even that. A description may be in either layout or have something of both, as
long as it gives each language one program (`Compiler.Description`).

A migration writes the programs below `commands` and the flags below `variants`
(`Compiler.Section.deposits`). No two of these writes go to one key, so nothing is
displaced, and the entries that they leave are those that were declared.
-/

namespace Trialbook

open Node Rule
open Rule.Bundled (sentTo fragment lanes depositsOf)
open Text (Dictionary)

namespace Compiler

/-! ## Descriptions -/

/-- The languages that have blocks. -/
def languages : List String := ["cc", "cxx", "fc", "f77", "f90", "f95", "f03", "f08"]

/-- How the flags of a variant are given. -/
inductive Flags where
  | text (s : String)
  | args (s : String)
  | options (s : String)

/-- The block of a language, with its keys in order. -/
inductive Block where
  | program (p : String)
  | programWrapper (p : String) (w : Node)
  | wrapperProgram (w : Node) (p : String)
  | wrapper (w : Node)

/-- A part of a description. -/
inductive Section where
  | language (name : String) (block : Block)
  | commands (programs : List (String × String))
  | variants (flags : List (String × Flags))

namespace Flags

def value : Flags → String
  | text s | args s | options s => s

def node : Flags → Node
  | text s => .text s
  | args s => mapping [(.text "args", .text s)]
  | options s => mapping [(.text "options", .text s)]

/-- The keys behind the name of the variant, as they are given. -/
def given : Flags → List String
  | text _ => []
  | args _ => ["args"]
  | options _ => ["options"]

/-- The keys behind the name of the variant, in the new layout. -/
def keys : Flags → List String
  | text _ => []
  | args _ | options _ => ["args"]

end Flags

namespace Block

def program? : Block → Option String
  | program p | programWrapper p _ | wrapperProgram _ p => some p
  | wrapper _ => none

def wrapper? : Block → Option Node
  | program _ => none
  | programWrapper _ w | wrapperProgram w _ | wrapper w => some w

def entries : Block → List (String × Node)
  | program p => [("program", .text p)]
  | programWrapper p w => [("program", .text p), ("wrapper", w)]
  | wrapperProgram w p => [("wrapper", w), ("program", .text p)]
  | wrapper w => [("wrapper", w)]

def node (block : Block) : Node := mapping (block.entries.map fun e => (.text e.1, e.2))

end Block

namespace Section

def key : Section → String
  | language name _ => name
  | commands _ => "commands"
  | variants _ => "variants"

def node : Section → Node
  | language _ block => block.node
  | commands programs => mapping (programs.map fun p => (.text p.1, .text p.2))
  | variants flags => mapping (flags.map fun f => (.text f.1, f.2.node))

/-- The programs that a part declares, by their languages. -/
def programs : Section → List (String × String)
  | language name block => block.program?.toList.map fun p => (name, p)
  | commands programs => programs
  | variants _ => []

/-- The flags that a part declares, by their variants. -/
def flags : Section → List (String × String)
  | language _ _ | commands _ => []
  | variants flags => flags.map fun f => (f.1, f.2.value)

/-- What a part has to be like. -/
def IsSound : Section → Prop
  | language name block => name ∈ languages ∧ ∀ w ∈ block.wrapper?, w.IsLeaf
  | commands programs => programs ≠ [] ∧ ∀ p ∈ programs, Path.Dotless p.1
  | variants flags => (flags.map Prod.fst).Nodup ∧ ∀ f ∈ flags, f.1 ≠ "" ∧ Path.Dotless f.1

end Section

/-- The description of a compiler: parts, each with a key of its own, that give
each language at most one program. -/
structure Description where
  sections : List Section
  sound : ∀ s ∈ sections, s.IsSound
  distinct : (sections.map Section.key).Nodup
  once : ((sections.flatMap Section.programs).map Prod.fst).Nodup

namespace Description

/-- The document of a description. -/
def node (d : Description) : Node := mapping (d.sections.map fun s => (.text s.key, s.node))

/-- The programs that a description declares, by their languages. -/
def programs (d : Description) : List (String × String) := d.sections.flatMap Section.programs

/-- The flags that a description declares, by their variants. -/
def flags (d : Description) : List (String × String) := d.sections.flatMap Section.flags

end Description

end Compiler

/-! ## Where the leaves go -/

namespace Rule.Bundled

theorem sentTo_program {name : String} (hname : (fragment "LANG").accepts name = true) :
    sentTo ["compiler", name, "program"] = [(["compiler", "commands", name], false)] := by
  simp [sentTo, sends, lanes, Lane.sends?, Shape.bind?, hname, Shape.fill]

theorem sentTo_wrapper {name : String} (hname : (fragment "LANG").accepts name = true) :
    sentTo ["compiler", name, "wrapper"] = [] := by
  simp [sentTo, sends, lanes, List.findSome?, Lane.sends?, Shape.bind?, hname]

theorem sentTo_command (name : String) :
    sentTo ["compiler", "commands", name] = [(["compiler", "commands", name], false)] := by
  simp [sentTo, sends, lanes, List.findSome?, Lane.sends?, Shape.bind?, fragment,
    Fragment.accepts]

theorem sentTo_flags {name : String} (hname : (fragment "NAME").accepts name = true)
    (flags : Compiler.Flags) :
    sentTo ("compiler" :: "variants" :: name :: flags.given) =
      [("compiler" :: "variants" :: name :: flags.keys, false)] := by
  cases flags with
  | text s =>
      simp [sentTo, sends, lanes, List.findSome?, Lane.sends?, Shape.bind?, fragment,
        Fragment.accepts, Compiler.Flags.given, Compiler.Flags.keys]
  | args s =>
      simp [sentTo, sends, lanes, List.findSome?, Lane.sends?, Shape.bind?, hname,
        Compiler.Flags.given, Compiler.Flags.keys]
  | options s =>
      simp [sentTo, sends, lanes, List.findSome?, Lane.sends?, Shape.bind?, hname, Shape.fill,
        Compiler.Flags.given, Compiler.Flags.keys]

theorem sentTo_variants :
    sentTo ["compiler", "variants"] = [(["compiler", "variants"], false)] := by
  decide +kernel

theorem sentTo_compiler : sentTo ["compiler"] = [(["compiler"], false)] := by
  decide +kernel

end Rule.Bundled

namespace Entries

variable {α : Type} (key : α → String) (node : α → Node)

/-- The leaves of a mapping that is listed. -/
theorem leaves_map (xs : List α) :
    leaves (xs.map fun x => (text (key x), node x)) =
      xs.flatMap fun x => (node x).leaves.map (Twig.under (key x)) := by
  induction xs with
  | nil => exact leaves_nil
  | cons x xs ih => rw [List.map_cons, leaves_cons, ih, List.flatMap_cons]; rfl

/-- What is made of the leaves of a listed mapping, if each of its nodes has one. -/
theorem flatMap_leaves_map {β : Type} {xs : List α} (hxs : xs ≠ []) {leaf : α → Twig}
    (hleaf : ∀ x, (node x).leaves = [leaf x]) (f : Twig → β) :
    (mapping (xs.map fun x => (text (key x), node x))).leaves.map f =
      xs.map fun x => f ((leaf x).under (key x)) := by
  rw [leaves_mapping (by simpa using hxs), leaves_map, List.map_flatMap, List.map_eq_flatMap]
  refine List.flatMap_congr fun x _ => ?_
  rw [hleaf]
  rfl

theorem wellKeyed_map {xs : List α} (hdistinct : (xs.map key).Nodup)
    (hdot : ∀ x ∈ xs, Path.Dotless (key x)) (hnode : ∀ x ∈ xs, (node x).WellKeyed) :
    (mapping (xs.map fun x => (text (key x), node x))).WellKeyed := by
  refine .mapping ⟨fun e he => ?_, ?_⟩ fun e he => ?_
  · obtain ⟨x, hx, rfl⟩ := List.mem_map.mp he
    exact ⟨key x, rfl, hdot x hx⟩
  · rw [List.map_map]
    have hkeys : (Prod.fst ∘ fun x => (text (key x), node x)) = text ∘ key := rfl
    rw [hkeys, ← List.map_map]
    exact hdistinct.map fun _ _ => Node.text.inj
  · obtain ⟨x, hx, rfl⟩ := List.mem_map.mp he
    exact hnode x hx

end Entries

namespace Compiler

theorem Flags.leaves_node (flags : Flags) :
    flags.node.leaves = [⟨flags.given, .text flags.value⟩] := by
  have htext : ∀ s, (Node.text s).leaves = [⟨[], .text s⟩] := fun s =>
    leaves_of_not_mapping (by simp)
  cases flags with
  | text s => exact htext s
  | args s | options s =>
      rw [node, leaves_mapping (List.cons_ne_nil _ _), Entries.leaves_singleton, htext]
      rfl

/-- What is written for a program, below the key of the kind. -/
def programDeposit (p : String × String) : Deposit := ⟨["commands", p.1], .text p.2, false⟩

/-- What is written for a variant, below the key of the kind. -/
def flagsDeposit (f : String × Flags) : Deposit :=
  ⟨"variants" :: f.1 :: f.2.keys, .text f.2.value, false⟩

namespace Section

/-- What is written for a part, below the key of the kind. -/
def deposits : Section → List Deposit
  | language name block => (language name block).programs.map programDeposit
  | commands programs => programs.map programDeposit
  | variants [] => [⟨["variants"], mapping [], false⟩]
  | variants (f :: fs) => (f :: fs).map flagsDeposit

theorem accepts_language {name : String} (h : name ∈ languages) :
    (fragment "LANG").accepts name = true := List.contains_iff_mem.mpr h

theorem flatMap_depositsOf_language {name : String} (hname : name ∈ languages) {block : Block}
    (hleaf : ∀ w ∈ block.wrapper?, w.IsLeaf) :
    (block.node.leaves.map (Twig.under name)).flatMap (fun t => depositsOf (t.under "compiler")) =
      (language name block).deposits.map (Deposit.under "compiler") := by
  have hlang := accepts_language hname
  have hprogram : ∀ p, depositsOf ⟨["compiler", name, "program"], .text p⟩ =
      [(programDeposit (name, p)).under "compiler"] := fun p => by
    rw [depositsOf, Rule.Bundled.sentTo_program hlang]
    rfl
  have hwrapper : ∀ w, depositsOf ⟨["compiler", name, "wrapper"], w⟩ = [] := fun w => by
    rw [depositsOf, Rule.Bundled.sentTo_wrapper hlang]
    rfl
  have htext : ∀ p, (Node.text p).leaves = [⟨[], .text p⟩] := fun p =>
    leaves_of_not_mapping (by simp)
  rw [Block.node, leaves_mapping (by cases block <;> simp [Block.entries]), Entries.leaves_map]
  cases block with
  | program p =>
      simp [Block.entries, htext, Twig.under, hprogram, deposits, programs, Block.program?]
  | programWrapper p w =>
      have hw : w.leaves = [⟨[], w⟩] := hleaf w rfl
      simp [Block.entries, htext, hw, Twig.under, hprogram, hwrapper, deposits, programs,
        Block.program?]
  | wrapperProgram w p =>
      have hw : w.leaves = [⟨[], w⟩] := hleaf w rfl
      simp [Block.entries, htext, hw, Twig.under, hprogram, hwrapper, deposits, programs,
        Block.program?]
  | wrapper w =>
      have hw : w.leaves = [⟨[], w⟩] := hleaf w rfl
      simp [Block.entries, hw, Twig.under, hwrapper, deposits, programs, Block.program?]

theorem flatMap_depositsOf_commands {programs : List (String × String)} (h : programs ≠ []) :
    ((commands programs).node.leaves.map (Twig.under "commands")).flatMap
        (fun t => depositsOf (t.under "compiler")) =
      (commands programs).deposits.map (Deposit.under "compiler") := by
  rw [node, Entries.flatMap_leaves_map _ _ h fun p => leaves_of_not_mapping (by simp),
    List.flatMap_map, deposits, List.map_map, List.map_eq_flatMap]
  refine List.flatMap_congr fun p _ => ?_
  show depositsOf ⟨["compiler", "commands", p.1], .text p.2⟩ = _
  rw [depositsOf, Rule.Bundled.sentTo_command]
  rfl

theorem flatMap_depositsOf_variants {flags : List (String × Flags)}
    (h : ∀ f ∈ flags, f.1 ≠ "" ∧ Path.Dotless f.1) :
    ((variants flags).node.leaves.map (Twig.under "variants")).flatMap
        (fun t => depositsOf (t.under "compiler")) =
      (variants flags).deposits.map (Deposit.under "compiler") := by
  cases flags with
  | nil =>
      show depositsOf ⟨["compiler", "variants"], mapping []⟩ ++ [] = _
      rw [depositsOf, Rule.Bundled.sentTo_variants]
      rfl
  | cons f fs =>
      rw [node, Entries.flatMap_leaves_map _ _ (List.cons_ne_nil f fs) fun f => f.2.leaves_node,
        List.flatMap_map, deposits, List.map_map, List.map_eq_flatMap]
      refine List.flatMap_congr fun f hf => ?_
      have hname := Rule.Bundled.accepts_name (h f hf).1 (h f hf).2
      show depositsOf ⟨"compiler" :: "variants" :: f.1 :: f.2.given, .text f.2.value⟩ = _
      rw [depositsOf, Rule.Bundled.sentTo_flags hname]
      rfl

theorem IsSound.flatMap_depositsOf {s : Section} (h : s.IsSound) :
    (s.node.leaves.map (Twig.under s.key)).flatMap (fun t => depositsOf (t.under "compiler")) =
      s.deposits.map (Deposit.under "compiler") := by
  cases s with
  | language name block => exact flatMap_depositsOf_language h.1 h.2
  | commands programs => exact flatMap_depositsOf_commands h.1
  | variants flags => exact flatMap_depositsOf_variants h.2

theorem value_of_mem_deposits {s : Section} {w : Deposit} (h : w ∈ s.deposits) :
    (∃ t, w.value = .text t) ∨ w.value = mapping [] := by
  match s with
  | language _ _ | commands _ | variants (_ :: _) =>
      obtain ⟨_, -, rfl⟩ := List.mem_map.mp h
      exact Or.inl ⟨_, rfl⟩
  | variants [] => exact Or.inr (by rw [List.mem_singleton.mp h])

theorem keys_of_mem_deposits {s : Section} {w : Deposit} (h : w ∈ s.deposits) :
    w.keys ≠ [] ∧ (w.key = "commands" ∨ w.key = "variants") := by
  match s with
  | language _ _ | commands _ | variants (_ :: _) =>
      obtain ⟨_, -, rfl⟩ := List.mem_map.mp h
      simp [programDeposit, flagsDeposit, Deposit.key]
  | variants [] =>
      rw [List.mem_singleton.mp h]
      simp [Deposit.key]

/-- What is written for a part below `commands` are its programs. -/
theorem below_commands (s : Section) :
    s.deposits.filterMap (Deposit.below? "commands") =
      s.programs.map fun p => ⟨[p.1], .text p.2, false⟩ := by
  have hprograms : ∀ programs : List (String × String),
      (programs.map programDeposit).filterMap (Deposit.below? "commands") =
        programs.map fun p => ⟨[p.1], .text p.2, false⟩ := fun programs => by
    rw [List.filterMap_map, ← List.filterMap_eq_map]
    exact List.filterMap_congr fun p _ => by simp [programDeposit, Deposit.below?]
  cases s with
  | language | commands => exact hprograms _
  | variants flags =>
      cases flags with
      | nil => rfl
      | cons f fs =>
          rw [deposits, List.filterMap_map]
          exact List.filterMap_eq_nil_iff.mpr fun f _ => by
            simp [flagsDeposit, Deposit.below?, keysBelow?]

/-- Below `variants` only one part is written. -/
theorem below_variants {s : Section} (h : ∀ flags, s ≠ variants flags) :
    s.deposits.filterMap (Deposit.below? "variants") = [] := by
  have hprograms : ∀ programs : List (String × String),
      (programs.map programDeposit).filterMap (Deposit.below? "variants") = [] := fun programs => by
    rw [List.filterMap_map]
    exact List.filterMap_eq_nil_iff.mpr fun f _ => by
      simp [programDeposit, Deposit.below?, keysBelow?]
  cases s with
  | language | commands => exact hprograms _
  | variants flags => exact absurd rfl (h flags)

theorem flatMap_below_variants {sections : List Section} (h : ∀ s ∈ sections, s.key ≠ "variants") :
    (sections.flatMap fun s => s.deposits.filterMap (Deposit.below? "variants")) = [] ∧
      sections.flatMap Section.flags = [] := by
  simp only [List.flatMap_eq_nil_iff]
  refine ⟨fun s hs => below_variants ?_, fun s hs => ?_⟩
  · rintro flags rfl
    exact h _ hs rfl
  · cases s with
    | language _ _ | commands _ => rfl
    | variants flags => exact absurd rfl (h _ hs)

theorem IsSound.eq_variants {s : Section} (h : s.IsSound) (hkey : s.key = "variants") :
    ∃ flags, s = variants flags := by
  have hlanguages : ∀ name ∈ languages, name ≠ "variants" := by decide
  cases s with
  | language name block => exact absurd hkey (hlanguages name h.1)
  | commands programs => simp [Section.key] at hkey
  | variants flags => exact ⟨flags, rfl⟩

theorem IsSound.key {s : Section} (h : s.IsSound) : Path.Dotless s.key ∧ s.key ≠ "compiler" := by
  have hlanguages : ∀ name ∈ languages, Path.Dotless name ∧ name ≠ "compiler" := by decide
  cases s with
  | language name block => exact hlanguages name h.1
  | commands programs => exact (by decide : Path.Dotless "commands" ∧ "commands" ≠ "compiler")
  | variants flags => exact (by decide : Path.Dotless "variants" ∧ "variants" ≠ "compiler")

theorem IsSound.wellKeyed {s : Section} (h : s.IsSound) (honce : (s.programs.map Prod.fst).Nodup) :
    s.node.WellKeyed := by
  have htext : ∀ t, (Node.text t).WellKeyed := fun t => .leaf (by simp)
  cases s with
  | language name block =>
      have hwrapper : ∀ w ∈ block.wrapper?, w.WellKeyed := fun w hw => (h.2 w hw).wellKeyed
      refine Entries.wellKeyed_map _ _ ?_ ?_ ?_
      all_goals cases block <;> simp_all [Block.entries, Block.wrapper?] <;> decide
  | commands programs =>
      exact Entries.wellKeyed_map _ _ honce h.2 fun p _ => htext p.2
  | variants flags =>
      refine Entries.wellKeyed_map _ _ h.1 (fun f hf => (h.2 f hf).2) fun f _ => ?_
      cases f.2 with
      | text s => exact htext s
      | args s => exact WellKeyed.chain (htext s) (by decide : ∀ key ∈ ["args"], Path.Dotless key)
      | options s =>
          exact WellKeyed.chain (htext s) (by decide : ∀ key ∈ ["options"], Path.Dotless key)

end Section

namespace Description

variable (d : Description)

/-- What is written for a description, below the key of the kind. -/
def deposits : List Deposit := d.sections.flatMap Section.deposits

theorem wellKeyed_node : d.node.WellKeyed := by
  refine Entries.wellKeyed_map _ _ d.distinct (fun s hs => (d.sound s hs).key.1)
    fun s hs => (d.sound s hs).wellKeyed ?_
  obtain ⟨before, after, hsections⟩ := List.append_of_mem hs
  have honce := d.once
  rw [hsections, List.flatMap_append, List.flatMap_cons, List.map_append, List.map_append] at honce
  exact honce.of_append_right.of_append_left

theorem flattenUnder_node {document : Node}
    (h : document = d.node ∨ document = mapping [(text "compiler", d.node)]) :
    Migration.flattenUnder .compiler document = d.node.flattenAt DocumentKind.compiler.name := by
  rcases h with rfl | rfl
  · refine Migration.flattenUnder_of_not_carriesKind (Bool.eq_false_iff.mpr fun hcarries => ?_)
    obtain ⟨inner, hinner⟩ := Migration.carriesKind_iff.mp hcarries
    have hkeys := congrArg (List.map Prod.fst) (Node.mapping.inj hinner)
    rw [List.map_map] at hkeys
    obtain ⟨s, hs, hkey⟩ : ∃ s ∈ d.sections, text s.key = text "compiler" := by
      have hmem : text "compiler" ∈ d.sections.map (Prod.fst ∘ fun s => (text s.key, s.node)) := by
        rw [hkeys]
        exact List.mem_singleton_self _
      exact List.mem_map.mp hmem
    exact (d.sound s hs).key.2 (Node.text.inj hkey)
  · exact Migration.flattenUnder_wrapped .compiler d.node

theorem flatMap_depositsOf (h : d.sections ≠ []) :
    (d.node.leaves.map (Twig.under "compiler")).flatMap depositsOf =
      d.deposits.map (Deposit.under "compiler") := by
  rw [node, leaves_mapping (by simpa using h), Entries.leaves_map, List.flatMap_map,
    List.flatMap_assoc, deposits, List.map_flatMap]
  exact List.flatMap_congr fun s hs => (d.sound s hs).flatMap_depositsOf

theorem exists_convert {document : Node}
    (h : document = d.node ∨ document = mapping [(text "compiler", d.node)]) :
    ∃ result report, Migration.convert document .compiler Rule.Bundled.rules .overwrite =
      .ok (result, report) := by
  refine Migration.exists_convert (d.flattenUnder_node h) d.wellKeyed_node fun t ht => ?_
  cases hplaces : sentTo ("compiler" :: t.keys) with
  | nil => exact Or.inl hplaces
  | cons place places =>
      right
      have hleaf := IsLeaf.of_mem_leaves t ht
      refine IsCarried.of_untagged hleaf ?_
      by_cases hsections : d.sections = []
      · rw [node, hsections, List.map_nil, leaves_mapping_nil, List.mem_singleton] at ht
        rw [ht]
        rfl
      · have hmem : (⟨place.1, t.value, place.2⟩ : Deposit) ∈
            (d.node.leaves.map (Twig.under "compiler")).flatMap depositsOf := by
          refine List.mem_flatMap.mpr ⟨_, List.mem_map_of_mem ht, ?_⟩
          rw [depositsOf, Twig.under_keys, hplaces]
          exact List.mem_cons_self
        rw [d.flatMap_depositsOf hsections] at hmem
        obtain ⟨w, hw, heq⟩ := List.mem_map.mp hmem
        obtain ⟨s, -, hs⟩ := List.mem_flatMap.mp hw
        have hvalue : w.value = t.value := congrArg Deposit.value heq
        rw [← hvalue]
        rcases s.value_of_mem_deposits hs with ⟨u, hu⟩ | hu <;> rw [hu] <;> rfl

theorem below_commands : d.deposits.filterMap (Deposit.below? "commands") =
    d.programs.map fun p => ⟨[p.1], .text p.2, false⟩ := by
  rw [deposits, List.filterMap_flatMap, programs, List.map_flatMap]
  exact List.flatMap_congr fun s _ => s.below_commands

/-- The flags of a description are those of one part, if it has any. -/
theorem below_variants :
    d.deposits.filterMap (Deposit.below? "variants") = [] ∧ d.flags = [] ∨
      ∃ flags, (Section.variants flags).IsSound ∧
        d.deposits.filterMap (Deposit.below? "variants") =
          (Section.variants flags).deposits.filterMap (Deposit.below? "variants") ∧
        d.flags = (Section.variants flags).flags := by
  rw [deposits, flags, List.filterMap_flatMap]
  by_cases h : ∃ s ∈ d.sections, s.key = "variants"
  · right
    obtain ⟨s, hs, hkey⟩ := h
    obtain ⟨flags, rfl⟩ := (d.sound s hs).eq_variants hkey
    obtain ⟨before, after, hsections⟩ := List.append_of_mem hs
    have hdistinct := d.distinct
    rw [hsections, List.map_append, List.map_cons, List.nodup_append, List.nodup_cons] at hdistinct
    obtain ⟨hbefore, hbefore'⟩ := Section.flatMap_below_variants fun s' hs' heq =>
      hdistinct.2.2 _ (List.mem_map_of_mem hs') _ List.mem_cons_self heq
    obtain ⟨hafter, hafter'⟩ := Section.flatMap_below_variants fun s' hs' heq =>
      hdistinct.2.1.1 (List.mem_map.mpr ⟨s', hs', heq⟩)
    refine ⟨flags, d.sound _ hs, ?_, ?_⟩
    · rw [hsections, List.flatMap_append, List.flatMap_cons, hbefore, hafter, List.nil_append,
        List.append_nil]
    · rw [hsections, List.flatMap_append, List.flatMap_cons, hbefore', hafter', List.nil_append,
        List.append_nil]
  · left
    push Not at h
    exact Section.flatMap_below_variants h

end Description

/-! ## Reading the result -/

/-- The dictionary at a place. A place with nothing in it has no entries. -/
def dictionaryAt (read : Node → Except RecordFault String) :
    Option Node → Except RecordFault Dictionary
  | none => .ok {}
  | some n => Record.dictionary read n

/-- A descriptor with one field more. -/
def readField (name : String) (value : Node) (c : Compiler) : Except RecordFault Compiler := do
  match name with
  | "commands" => return { c with commands := ← Record.dictionary Record.text value }
  | _ => return { c with variants := ← Record.dictionary variantFlags value }

theorem ofRecord_mapping (es : Entries) :
    ofRecord (mapping es) = Record.fieldsFrom ["commands", "variants"] readField [] es {} := by
  rw [ofRecord, Record.fields, Record.entries, untag_mapping]
  rfl

theorem readField_commands {value : Node} {commands : Dictionary}
    (h : Record.dictionary Record.text value = .ok commands) (c : Compiler) :
    readField "commands" value c = .ok { c with commands } := by
  rw [readField, h]
  rfl

theorem readField_variants {value : Node} {variants : Dictionary}
    (h : Record.dictionary variantFlags value = .ok variants) (c : Compiler) :
    readField "variants" value c = .ok { c with variants } := by
  rw [readField, h]
  · rfl
  · simp

theorem fieldsFrom_cons {seen : List String} {name : String} {value : Node} {c c' : Compiler}
    (hname : name ∈ ["commands", "variants"]) (hseen : name ∉ seen)
    (hread : readField name value c = .ok c') (rest : Entries) :
    Record.fieldsFrom ["commands", "variants"] readField seen ((text name, value) :: rest) c =
      Record.fieldsFrom ["commands", "variants"] readField (name :: seen) rest c' := by
  rw [Record.fieldsFrom]
  simp [text?, untag, hseen, hread, List.mem_pair.mp hname]
  rfl

/-- A record of commands and variants is read from what stands at the two keys. -/
theorem ofRecord_of_named {es : Entries} (hes : es.Named)
    (hknown : ∀ e ∈ es, e.1 = text "commands" ∨ e.1 = text "variants")
    {commands variants : Dictionary}
    (hcommands : dictionaryAt Record.text (Entries.get? "commands" es) = .ok commands)
    (hvariants : dictionaryAt variantFlags (Entries.get? "variants" es) = .ok variants) :
    ofRecord (mapping es) = .ok ⟨commands, variants⟩ := by
  have hempty : ∀ {d : Dictionary} {read}, dictionaryAt read none = .ok d → d = {} :=
    fun h => (Except.ok.inj h).symm
  rw [ofRecord_mapping]
  match es, hes.distinct with
  | [], _ =>
      rw [hempty hcommands, hempty hvariants]
      rfl
  | [(k, v)], _ =>
      rcases hknown (k, v) List.mem_cons_self with rfl | rfl
      · rw [fieldsFrom_cons (by simp) (by simp) (readField_commands hcommands _), hempty hvariants]
        rfl
      · rw [fieldsFrom_cons (by simp) (by simp) (readField_variants hvariants _), hempty hcommands]
        rfl
  | [(k, v), (k', v')], hdistinct =>
      rcases hknown (k, v) List.mem_cons_self with rfl | rfl
      all_goals rcases hknown (k', v') (by simp) with rfl | rfl
      · simp at hdistinct
      · rw [fieldsFrom_cons (by simp) (by simp) (readField_commands hcommands _),
          fieldsFrom_cons (by simp) (by simp) (readField_variants hvariants _)]
        rfl
      · rw [fieldsFrom_cons (by simp) (by simp) (readField_variants hvariants _),
          fieldsFrom_cons (by simp) (by simp) (readField_commands hcommands _)]
        rfl
      · simp at hdistinct
  | (k, v) :: (k', v') :: (k'', v'') :: rest, hdistinct =>
      -- three keys, and there are two
      rcases hknown (k, v) List.mem_cons_self with rfl | rfl
      all_goals rcases hknown (k', v') (by simp) with rfl | rfl
      all_goals rcases hknown (k'', v'') (by simp) with rfl | rfl
      all_goals simp at hdistinct

/-- Writes for pairs with distinct keys, in a place with nothing in it, leave a
dictionary of the pairs there and displace nothing. -/
theorem exists_dictionary_of_laid {α : Type} {xs : List α} {deposit : α → Deposit}
    {pair : α → String × String} {read : Node → Except RecordFault String}
    (hkeys : ∀ x ∈ xs, (deposit x).keys ≠ [] ∧ (deposit x).key = (pair x).1 ∧
      read (deposit x).entry.2 = .ok (pair x).2)
    (hdistinct : ((xs.map pair).map Prod.fst).Nodup) {place : Option Node} {cs : List Clash}
    (h : Laid none (xs.map deposit) place cs) :
    cs = [] ∧ ∃ d, dictionaryAt read place = .ok d ∧ d.Holds (xs.map pair) := by
  by_cases hxs : xs = []
  · subst hxs
    cases h
    exact ⟨rfl, {}, rfl, Dictionary.holds_empty⟩
  · have hdeposits : ∀ d ∈ xs.map deposit, d.keys ≠ [] := fun d hd => by
      obtain ⟨x, hx, rfl⟩ := List.mem_map.mp hd
      exact (hkeys x hx).1
    have hsame : (xs.map deposit).map Deposit.key = (xs.map pair).map Prod.fst := by
      rw [List.map_map, List.map_map]
      exact List.map_congr_left fun x hx => (hkeys x hx).2.1
    obtain ⟨rfl, rfl⟩ := (h.of_none (by simpa using hxs) hdeposits).append_entries hdeposits
      (fun _ _ => rfl) (hsame ▸ hdistinct)
    refine ⟨rfl, Record.exists_dictionary ?_ hdistinct⟩
    rw [List.nil_append, List.map_map, List.forall₂_map_left_iff, List.forall₂_map_right_iff,
      List.forall₂_same]
    exact fun x hx => ⟨congrArg text (hkeys x hx).2.1, (hkeys x hx).2.2⟩

namespace Description

variable (d : Description) {place : Option Node} {cs : List Clash}

theorem keys_of_mem_deposits : ∀ w ∈ d.deposits,
    w.keys ≠ [] ∧ (w.key = "commands" ∨ w.key = "variants") := by
  intro w hw
  obtain ⟨s, -, hs⟩ := List.mem_flatMap.mp hw
  exact s.keys_of_mem_deposits hs

theorem exists_commands
    (h : Laid none (d.deposits.filterMap (Deposit.below? "commands")) place cs) :
    cs = [] ∧ ∃ commands, dictionaryAt Record.text place = .ok commands ∧
      commands.Holds d.programs := by
  rw [d.below_commands] at h
  rw [← List.map_id d.programs]
  refine exists_dictionary_of_laid (fun p _ => ⟨List.cons_ne_nil _ _, rfl, rfl⟩) ?_ h
  rw [List.map_id]
  exact d.once

theorem exists_variants
    (h : Laid none (d.deposits.filterMap (Deposit.below? "variants")) place cs) :
    cs = [] ∧ ∃ variants, dictionaryAt variantFlags place = .ok variants ∧
      variants.Holds d.flags := by
  rcases d.below_variants with ⟨hnone, hflags⟩ | ⟨flags, hsound, hbelow, hflags⟩
  · rw [hnone] at h
    rw [hflags]
    cases h
    exact ⟨rfl, {}, rfl, Dictionary.holds_empty⟩
  · rw [hbelow] at h
    rw [hflags]
    cases flags with
    | nil =>
        cases h with
        | cons first others =>
            cases others
            rw [Deposit.put_none, Option.some.injEq] at first
            subst first
            exact ⟨rfl, {}, rfl, Dictionary.holds_empty⟩
    | cons f fs =>
        have hdeposits :
            (Section.variants (f :: fs)).deposits.filterMap (Deposit.below? "variants") =
              (f :: fs).map fun f => ⟨f.1 :: f.2.keys, .text f.2.value, false⟩ := by
          rw [Section.deposits, List.filterMap_map, ← List.filterMap_eq_map]
          exact List.filterMap_congr fun f _ => by simp [flagsDeposit, Deposit.below?]
        rw [hdeposits] at h
        refine exists_dictionary_of_laid (fun f _ => ⟨List.cons_ne_nil _ _, rfl, ?_⟩) ?_ h
        · obtain ⟨name, flags⟩ := f
          cases flags <;> rfl
        · rw [List.map_map]
          exact hsound.1

/-- The writes of a description leave a mapping with the two keys at most. -/
theorem exists_entries (h : Laid none d.deposits place cs) :
    ∃ es : Entries, place.getD (mapping []) = mapping es ∧
      (∀ key, childAt? place key = Entries.get? key es) ∧ es.Named ∧
      (∀ e ∈ es, e.1 = text "commands" ∨ e.1 = text "variants") ∧
      ∀ c ∈ cs, ∃ w ∈ d.deposits, ∃ rest, c.segments = w.key :: rest := by
  have hkeys := d.keys_of_mem_deposits
  by_cases hds : d.deposits = []
  · rw [hds] at h
    cases h
    exact ⟨[], rfl, fun _ => rfl, .nil, by simp, by simp⟩
  · have hdot : ∀ w ∈ d.deposits, w.keys ≠ [] ∧ Path.Dotless w.key := fun w hw => by
      refine ⟨(hkeys w hw).1, ?_⟩
      rcases (hkeys w hw).2 with hkey | hkey
      all_goals rw [hkey]; decide
    obtain ⟨es, rfl, hnamed, hmem, hcs⟩ :=
      (h.of_none hds fun w hw => (hkeys w hw).1).exists_named hdot .nil
    refine ⟨es, rfl, fun key => child?_mapping es key, hnamed, fun e he => ?_, hcs⟩
    rcases hmem e he with hnil | ⟨w, hw, hkey⟩
    · simp at hnil
    · rcases (hkeys w hw).2 with hw | hw
      · exact Or.inl (hw ▸ hkey)
      · exact Or.inr (hw ▸ hkey)

/-- The writes of a description displace nothing, and what they leave below the key
of the kind is read as the descriptor that was declared. -/
theorem exists_ofRecord (h : Laid none d.deposits place cs) :
    cs = [] ∧ ∃ compiler, ofRecord (place.getD (mapping [])) = .ok compiler ∧
      compiler.commands.Holds d.programs ∧ compiler.variants.Holds d.flags := by
  have hkeys := d.keys_of_mem_deposits
  obtain ⟨es, hes, hget, hnamed, hknown, hcs⟩ := d.exists_entries h
  have hchild := h.child open_none fun w hw => (hkeys w hw).1
  obtain ⟨hcommands, commands, hread, hholds⟩ := d.exists_commands (hchild "commands")
  obtain ⟨hvariants, variants, hread', hholds'⟩ := d.exists_variants (hchild "variants")
  refine ⟨eq_nil_of_below hcs fun w hw => ?_, ⟨commands, variants⟩, ?_, hholds, hholds'⟩
  · rcases (hkeys w hw).2 with hkey | hkey
    · rw [hkey, hcommands]
    · rw [hkey, hvariants]
  · rw [hget] at hread hread'
    rw [hes]
    exact ofRecord_of_named hnamed hknown hread hread'

/-- A description without parts is empty, and stays so below the key of the kind. -/
theorem exists_descriptor_of_nil (hsections : d.sections = []) {result : Node}
    (h : Laid (some (mapping []))
      ((d.node.leaves.map (Twig.under "compiler")).flatMap depositsOf) (some result) cs) :
    cs = [] ∧ ∃ compiler, ofRecord ((result.child? "compiler").getD result) = .ok compiler ∧
      compiler.commands.Holds d.programs ∧ compiler.variants.Holds d.flags := by
  have hleaves : (d.node.leaves.map (Twig.under "compiler")).flatMap depositsOf =
      [⟨["compiler"], mapping [], false⟩] := by
    rw [node, hsections, List.map_nil, leaves_mapping_nil, List.map_singleton,
      List.flatMap_singleton, depositsOf, Twig.under_keys, Rule.Bundled.sentTo_compiler]
    rfl
  rw [hleaves] at h
  obtain ⟨hresult, rfl⟩ := h.append_entries (by simp) (fun _ _ => rfl) (by simp)
  obtain rfl := Option.some.inj hresult
  rw [programs, flags, hsections]
  exact ⟨rfl, {}, rfl, Dictionary.holds_empty, Dictionary.holds_empty⟩

/-- What a migration of a description makes is read as the descriptor that was
declared. -/
theorem exists_descriptor {result : Node} (h : Laid (some (mapping []))
    ((d.node.leaves.map (Twig.under "compiler")).flatMap depositsOf) (some result) cs) :
    cs = [] ∧ ∃ compiler, ofRecord ((result.child? "compiler").getD result) = .ok compiler ∧
      compiler.commands.Holds d.programs ∧ compiler.variants.Holds d.flags := by
  by_cases hsections : d.sections = []
  · exact d.exists_descriptor_of_nil hsections h
  · rw [d.flatMap_depositsOf hsections] at h
    have hkeys : ∀ w ∈ d.deposits.map (Deposit.under "compiler"),
        w.keys ≠ [] ∧ w.key = "compiler" := fun w hw => by
      obtain ⟨w, -, rfl⟩ := List.mem_map.mp hw
      exact ⟨List.cons_ne_nil _ _, rfl⟩
    have hinner := h.child (open_mapping []) (fun w hw => (hkeys w hw).1) "compiler"
    rw [Deposit.filterMap_below_under] at hinner
    obtain ⟨hclashes, compiler, hread, hholds⟩ := d.exists_ofRecord hinner
    obtain ⟨es, hes, -, hmem, hcs⟩ := h.exists_named
      (fun w hw => ⟨(hkeys w hw).1, (hkeys w hw).2 ▸ Migration.dotless_name .compiler⟩) .nil
    obtain rfl := Option.some.inj hes
    refine ⟨eq_nil_of_below hcs fun w hw => (hkeys w hw).2 ▸ hclashes, compiler, ?_, hholds⟩
    rw [childAt?_some] at hread
    cases hchild : (mapping es).child? "compiler" with
    | some inner => rwa [hchild] at hread
    | none =>
        -- nothing was written
        rw [hchild] at hread
        obtain rfl : es = [] := by
          rw [child?_mapping, Entries.get?_eq_none_iff] at hchild
          rw [List.eq_nil_iff_forall_not_mem]
          intro e he
          rcases hmem e he with hnil | ⟨w, hw, hkey⟩
          · simp at hnil
          · exact hchild e he (hkey.trans (by rw [(hkeys w hw).2]))
        exact hread

end Description

end Compiler

namespace Migration

open Compiler (Description)

/-- A description of a compiler is migrated without a collision, and the descriptor
of the result has the programs and the flags that were declared, and no others. -/
theorem bundled_convert_compiler_declared :
    ∃ rules, RuleTable.bundled = .ok rules ∧
      ∀ (d : Description) (policy : CollisionPolicy) (document : Node),
        document = d.node ∨ document = mapping [(text "compiler", d.node)] →
        ∃ result report compiler, convert document .compiler rules policy = .ok (result, report) ∧
          report.collisions = [] ∧ Compiler.ofNode result = .ok compiler ∧
          compiler.commands.Holds d.programs ∧ compiler.variants.Holds d.flags := by
  refine ⟨_, RuleTable.bundled_eq, fun d policy document hdocument => ?_⟩
  obtain ⟨result, report, hconvert⟩ := d.exists_convert hdocument
  obtain ⟨cs, hlaid, hcollisions⟩ :=
    laid_of_convert (d.flattenUnder_node hdocument) d.wellKeyed_node hconvert
  obtain ⟨rfl, compiler, hread, hcommands, hvariants⟩ := d.exists_descriptor hlaid
  refine ⟨result, report, compiler, ?_, hcollisions, ?_, hcommands, hvariants⟩
  · cases policy with
    | overwrite => exact hconvert
    | error => rw [convert_error hconvert, hcollisions]; rfl
  · rw [Compiler.ofNode, hread]
    rfl

/-- A wrapped description in both layouts, with the variants between the programs. -/
theorem bundled_convert_compiler_declared_mixed :
    ∃ rules result report compiler, RuleTable.bundled = .ok rules ∧
      convert (mapping [(text "compiler", mapping [
          (text "cxx", mapping [(text "wrapper", .bool true), (text "program", text "icpc")]),
          (text "variants", mapping [(text "openmp", mapping [(text "options", text "-fopenmp")]),
            (text "debug", text "-g")]),
          (text "commands", mapping [(text "cc", text "icc")])])]) .compiler rules .error =
        .ok (result, report) ∧
      report.collisions = [] ∧ Compiler.ofNode result = .ok compiler ∧
      compiler.commands.Holds [("cxx", "icpc"), ("cc", "icc")] ∧
      compiler.variants.Holds [("openmp", "-fopenmp"), ("debug", "-g")] := by
  obtain ⟨rules, hrules, hdeclared⟩ := bundled_convert_compiler_declared
  obtain ⟨result, report, compiler, hconvert, hcollisions, hread, hcommands, hvariants⟩ :=
    hdeclared
      { sections := [.language "cxx" (.wrapperProgram (.bool true) "icpc"),
          .variants [("openmp", .options "-fopenmp"), ("debug", .text "-g")],
          .commands [("cc", "icc")]]
        sound := by
          have hleaf : (Node.bool true).IsLeaf := leaves_of_not_mapping (by simp)
          intro s hs
          simp only [List.mem_cons, List.not_mem_nil, or_false] at hs
          rcases hs with rfl | rfl | rfl
          · exact ⟨by decide, fun w hw => Option.some.inj hw ▸ hleaf⟩
          · exact ⟨by decide, by decide⟩
          · exact ⟨by simp, by decide⟩
        distinct := by decide
        once := by decide }
      .error _ (Or.inr rfl)
  exact ⟨rules, result, report, compiler, hrules, hconvert, hcollisions, hread, hcommands,
    hvariants⟩

end Migration

end Trialbook
