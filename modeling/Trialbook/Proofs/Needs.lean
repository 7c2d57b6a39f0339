import Trialbook.Job.Dependency
import Trialbook.Proofs.Appends
import Trialbook.Proofs.Lookup
import Trialbook.Proofs.Numerals
import Trialbook.Proofs.Reading

/-!
# What an entry needs

A mapping of needs is read in two ways. As the dependencies of an entry it is read key by
key, in the document's order, and holds other entries as well as packages. As a list of
packages it is read manager by manager. `Dependency.Declares` says without either reading
what the mapping declares: one dependency for every item of the lists under the three
known keys. Both readings find that, each in its own order (`Dependency.resolve_accounts`).

The two policies differ in one thing only, what they make of a key that is not known.
-/

namespace Trialbook

open Node

/-! ## One or many texts -/

namespace Node

/-- The node lists these texts, one for each of its items. -/
def Lists (n : Node) (texts : List String) : Prop :=
  List.Forall₂ (fun item s => item.scalarText? = some s) n.asItems texts

theorem itemTexts_eq_ok_iff {place : String} {index : Nat} {items : List Node}
    {texts : List String} :
    itemTexts place index items = .ok texts ↔
      List.Forall₂ (fun item s => item.scalarText? = some s) items texts := by
  induction items generalizing index texts with
  | nil => simp [itemTexts, eq_comm]
  | cons item rest ih =>
      rw [itemTexts, List.forall₂_cons_left_iff]
      cases item.scalarText? with
      | none => simp
      | some s =>
          dsimp only
          rw [map_eq_ok]
          simp only [ih, Option.some.injEq]
          constructor
          · rintro ⟨others, hothers, rfl⟩
            exact ⟨s, others, rfl, hothers, rfl⟩
          · rintro ⟨_, others, rfl, hothers, rfl⟩
            exact ⟨others, hothers, rfl⟩

theorem lists_singleton_iff {n : Node} {texts : List String} (h : n.asItems = [n]) :
    n.Lists texts ↔ ∃ s, n.scalarText? = some s ∧ texts = [s] := by
  rw [Lists, h, List.forall₂_cons_left_iff]
  simp

theorem oneOrMany_eq_ok_iff {n : Node} {place : String} {texts : List String} :
    n.oneOrMany place = .ok texts ↔ n.Lists texts := by
  cases n with
  | null => simp [oneOrMany, Lists, asItems, eq_comm]
  | sequence items => exact itemTexts_eq_ok_iff
  | bool | number | text | mapping | tagged =>
      rw [lists_singleton_iff rfl, oneOrMany]
      · split
        · next s hs => simp [hs, eq_comm]
        · next hs => simp [hs]
      all_goals simp

/-- Lists of texts can be told by the shape of the node. -/
theorem exists_lists_iff {n : Node} : (∃ texts, n.Lists texts) ↔ n.IsOneOrMany := by
  constructor
  · rintro ⟨texts, h⟩
    cases n with
    | null => exact .one rfl
    | sequence items =>
        rw [Lists, asItems] at h
        refine .many ?_
        induction h with
        | nil => simp
        | cons hitem _ ih =>
            exact List.forall_mem_cons.mpr ⟨Option.isSome_iff_exists.mpr ⟨_, hitem⟩, ih⟩
    | bool | number | text | mapping | tagged =>
        obtain ⟨s, hs, -⟩ := (lists_singleton_iff rfl).mp h
        exact .one (Option.isSome_iff_exists.mpr ⟨s, hs⟩)
  · exact fun h => ⟨_, oneOrMany_eq_ok_iff.mp (h.oneOrMany_eq "")⟩

end Node

/-! ## What a mapping of needs declares -/

theorem Directive.ofSpecs_eq_ok_iff {manager : Manager} {specs : Node} {ds : List Directive} :
    ofSpecs manager specs = .ok ds ↔
      ∃ texts, specs.Lists texts ∧ ds = texts.map fun spec => ⟨manager, spec⟩ := by
  rw [ofSpecs, map_eq_ok]
  simp only [oneOrMany_eq_ok_iff, eq_comm (a := ds)]

namespace Dependency

/-- The kinds of dependencies that there are keys for. -/
inductive Kind where
  | test
  | package (manager : Manager)
  deriving DecidableEq, Repr

namespace Kind

/-- The key under which an entry lists the dependencies of a kind. -/
def key : Kind → String
  | test => testKey
  | package manager => manager.key

/-- What an item of such a list stands for. -/
def dependency (suite : String) : Kind → String → Dependency
  | test, name => .test (qualify suite name)
  | package manager, spec => .package ⟨manager, spec⟩

theorem key_cases (kind : Kind) : kind.key = "test" ∨ kind.key = "spack" ∨ kind.key = "module" := by
  rcases kind with _ | _ | _ <;> simp [key, testKey, Manager.key]

theorem key_injective : Function.Injective key := by
  rintro (_ | _ | _) (_ | _ | _) <;> simp [key, testKey, Manager.key]

end Kind

/-- The mapping declares these dependencies: key by key one for each item that is listed
there, and none under a key that is not known. -/
inductive Declares (suite : String) : Entries → List Dependency → Prop
  | nil : Declares suite [] []
  | listed {kind : Kind} {value : Node} {texts : List String} {es : Entries}
      {found : List Dependency} (h : value.Lists texts) (others : Declares suite es found) :
      Declares suite ((text kind.key, value) :: es) (texts.map (kind.dependency suite) ++ found)
  | other {key value : Node} {es : Entries} {found : List Dependency}
      (h : ∀ kind : Kind, key ≠ text kind.key) (others : Declares suite es found) :
      Declares suite ((key, value) :: es) found

variable {suite : String} {policy : LookupPolicy} {es : Entries} {found : List Dependency}

/-- A key is looked up by its text, but only a string has the text of a known key. -/
theorem scalarText?_getD_eq_iff {key : Node} {kind : Kind} :
    key.scalarText?.getD "" = kind.key ↔ key = text kind.key := by
  constructor
  · intro h
    cases hs : key.scalarText? with
    | none => rcases kind.key_cases with hkey | hkey | hkey <;> simp [hs, hkey] at h
    | some s =>
        obtain rfl : s = kind.key := by simpa [hs] using h
        refine eq_text_of_scalarText? hs ?_ ?_
        all_goals rcases kind.key_cases with hkey | hkey | hkey <;> rw [hkey] <;> decide
  · rintro rfl
    rfl

theorem ofKey?_key (manager : Manager) : Manager.ofKey? manager.key = some manager := by
  cases manager <;> rfl

theorem ofKey?_eq_none {key : String} (h : ∀ kind : Kind, key ≠ kind.key) :
    Manager.ofKey? key = none := by
  rw [Manager.ofKey?, List.find?_eq_none]
  intro manager _ hkey
  exact h (.package manager) (beq_iff_eq.mp hkey).symm

theorem ofEntry_kind_eq_ok_iff {kind : Kind} {value : Node} {own : List Dependency} :
    ofEntry suite policy (text kind.key) value = .ok own ↔
      ∃ texts, value.Lists texts ∧ own = texts.map (kind.dependency suite) := by
  cases kind with
  | test =>
      have heq : ofEntry suite policy (text testKey) value =
          ((value.oneOrMany "depends_on.test").map fun names =>
            names.map fun name => test (qualify suite name)).mapError .mismatch := by
        simp only [ofEntry]
        refine (if_pos rfl).trans ?_
        cases value.oneOrMany "depends_on.test" <;> rfl
      rw [Kind.key, heq, mapError_eq_ok, map_eq_ok]
      simp only [oneOrMany_eq_ok_iff, eq_comm (a := own)]
      rfl
  | package manager =>
      have heq : ofEntry suite policy (text manager.key) value =
          ((Directive.ofSpecs manager value).map fun directives =>
            directives.map package).mapError .mismatch := by
        have hkey : Manager.ofKey? ((text manager.key).scalarText?.getD "") = some manager :=
          ofKey?_key manager
        have hne : manager.key ≠ testKey := by cases manager <;> decide
        simp only [ofEntry, hkey]
        refine (if_neg hne).trans ?_
        cases Directive.ofSpecs manager value <;> rfl
      rw [Kind.key, heq, mapError_eq_ok, map_eq_ok]
      simp only [Directive.ofSpecs_eq_ok_iff]
      constructor
      · rintro ⟨_, ⟨texts, htexts, rfl⟩, rfl⟩
        exact ⟨texts, htexts, List.map_map⟩
      · rintro ⟨texts, htexts, rfl⟩
        exact ⟨_, ⟨texts, htexts, rfl⟩, List.map_map⟩

/-- A key that is not known declares nothing, or is a fault. -/
theorem ofEntry_of_unknown {key : Node} (h : ∀ kind : Kind, key ≠ text kind.key) (value : Node) :
    ofEntry suite policy key value =
      match policy with
      | .ignore => .ok []
      | .error => .error (.unknownDependencyKind (key.scalarText?.getD "")) := by
  have htext : ∀ kind : Kind, key.scalarText?.getD "" ≠ kind.key := fun kind hkey =>
    h kind (scalarText?_getD_eq_iff.mp hkey)
  have htest : key.scalarText?.getD "" ≠ testKey := htext .test
  simp only [ofEntry]
  rw [if_neg htest, ofKey?_eq_none htext]
  cases policy <;> rfl

/-- Taken one after the other, the keys declare what the mapping declares. A strict reading
also asks that every key is known. -/
theorem ofEntries_eq_ok_iff :
    ofEntries suite policy es = .ok found ↔
      Declares suite es found ∧
        (policy = .error → ∀ e ∈ es, ∃ kind : Kind, e.1 = text kind.key) := by
  constructor
  · intro h
    induction es generalizing found with
    | nil =>
        rw [← Except.ok.inj h]
        exact ⟨.nil, by simp⟩
    | cons e es ih =>
        obtain ⟨key, value⟩ := e
        rw [ofEntries] at h
        obtain ⟨own, hown, h⟩ := bind_eq_ok.mp h
        obtain ⟨others, hothers, h⟩ := bind_eq_ok.mp h
        obtain ⟨hdeclares, hknown⟩ := ih hothers
        rw [← Except.ok.inj h]
        by_cases hkey : ∃ kind : Kind, key = text kind.key
        · obtain ⟨kind, rfl⟩ := hkey
          obtain ⟨texts, htexts, rfl⟩ := ofEntry_kind_eq_ok_iff.mp hown
          refine ⟨.listed htexts hdeclares, fun hstrict => ?_⟩
          exact List.forall_mem_cons.mpr ⟨⟨kind, rfl⟩, hknown hstrict⟩
        · have hkey := not_exists.mp hkey
          rw [ofEntry_of_unknown hkey] at hown
          cases policy with
          | ignore =>
              rw [← Except.ok.inj hown]
              exact ⟨.other hkey hdeclares, by simp⟩
          | error => simp at hown
  · rintro ⟨hdeclares, hknown⟩
    induction hdeclares with
    | nil => rfl
    | listed htexts _ ih =>
        have hothers := ih fun hstrict => (List.forall_mem_cons.mp (hknown hstrict)).2
        exact bind_eq_ok.mpr ⟨_, ofEntry_kind_eq_ok_iff.mpr ⟨_, htexts, rfl⟩,
          bind_eq_ok.mpr ⟨_, hothers, rfl⟩⟩
    | other hkey _ ih =>
        have hothers := ih fun hstrict => (List.forall_mem_cons.mp (hknown hstrict)).2
        cases policy with
        | ignore =>
            exact bind_eq_ok.mpr ⟨[], ofEntry_of_unknown hkey _,
              bind_eq_ok.mpr ⟨_, hothers, rfl⟩⟩
        | error =>
            obtain ⟨kind, hkind⟩ := (List.forall_mem_cons.mp (hknown rfl)).1
            exact absurd hkind (hkey kind)

theorem resolve_ignore_eq_ok_iff :
    resolve suite (mapping es) .ignore = .ok found ↔ Declares suite es found := by
  rw [resolve, ofEntries_eq_ok_iff]
  simp

theorem exists_declares_iff :
    (∃ found, Declares suite es found) ↔
      ∀ (kind : Kind) (value : Node), (text kind.key, value) ∈ es → value.IsOneOrMany := by
  constructor
  · rintro ⟨found, h⟩
    induction h with
    | nil => simp
    | listed htexts _ ih =>
        intro kind value hmem
        rcases List.mem_cons.mp hmem with heq | hmem
        · rw [(Prod.mk.inj heq).2]
          exact exists_lists_iff.mp ⟨_, htexts⟩
        · exact ih kind value hmem
    | other hkey _ ih =>
        intro kind value hmem
        rcases List.mem_cons.mp hmem with heq | hmem
        · exact absurd (Prod.mk.inj heq).1.symm (hkey kind)
        · exact ih kind value hmem
  · intro h
    induction es with
    | nil => exact ⟨[], .nil⟩
    | cons e es ih =>
        obtain ⟨key, value⟩ := e
        obtain ⟨found, hfound⟩ := ih fun kind value hmem =>
          h kind value (List.mem_cons_of_mem _ hmem)
        by_cases hkey : ∃ kind : Kind, key = text kind.key
        · obtain ⟨kind, rfl⟩ := hkey
          obtain ⟨texts, htexts⟩ := exists_lists_iff.mpr (h kind value List.mem_cons_self)
          exact ⟨_, .listed htexts hfound⟩
        · exact ⟨found, .other (not_exists.mp hkey) hfound⟩

end Dependency

/-! ## Packages by their managers -/

theorem Node.lists_null_iff {texts : List String} : null.Lists texts ↔ texts = [] :=
  List.forall₂_nil_left_iff

namespace Entries

/-- The mapping lists these texts under a key. Without the key there are none. -/
def ListsUnder (es : Entries) (key : String) (texts : List String) : Prop :=
  ((get? key es).getD null).Lists texts

variable {es : Entries} {key : String} {texts : List String}

theorem listsUnder_of_none (h : get? key es = none) : es.ListsUnder key texts ↔ texts = [] := by
  rw [ListsUnder, h]
  exact lists_null_iff

theorem listsUnder_of_some {value : Node} (h : get? key es = some value) :
    es.ListsUnder key texts ↔ value.Lists texts := by
  rw [ListsUnder, h]
  rfl

theorem listsUnder_cons_of_ne {k value : Node} (h : k ≠ text key) :
    ListsUnder ((k, value) :: es) key texts ↔ es.ListsUnder key texts := by
  rw [ListsUnder, get?, if_neg (h ∘ isKey_iff.mp), ListsUnder]

end Entries

namespace Directive

variable {es : Entries} {manager : Manager} {ds : List Directive}

theorem ofEntries_cons_eq_ok_iff {rest : List Manager} :
    ofEntries es (manager :: rest) = .ok ds ↔
      ∃ texts others, es.ListsUnder manager.key texts ∧ ofEntries es rest = .ok others ∧
        ds = texts.map (fun spec => ⟨manager, spec⟩) ++ others := by
  rw [ofEntries]
  cases hget : Entries.get? manager.key es with
  | none => simp [Entries.listsUnder_of_none hget, eq_comm]
  | some specs =>
      simp only [Entries.listsUnder_of_some hget]
      constructor
      · intro h
        obtain ⟨first, hfirst, h⟩ := bind_eq_ok.mp h
        obtain ⟨others, hothers, h⟩ := bind_eq_ok.mp h
        obtain ⟨texts, htexts, rfl⟩ := ofSpecs_eq_ok_iff.mp hfirst
        exact ⟨texts, others, htexts, hothers, (Except.ok.inj h).symm⟩
      · rintro ⟨texts, others, htexts, hothers, rfl⟩
        exact bind_eq_ok.mpr ⟨_, ofSpecs_eq_ok_iff.mpr ⟨texts, htexts, rfl⟩,
          bind_eq_ok.mpr ⟨others, hothers, rfl⟩⟩

/-- The packages of one manager come before those of the other, each in the order of its
list. -/
theorem identify_eq_ok_iff :
    identify (mapping es) = .ok ds ↔
      ∃ spacks modules, es.ListsUnder "spack" spacks ∧ es.ListsUnder "module" modules ∧
        ds = spacks.map (fun spec => ⟨.spack, spec⟩) ++
          modules.map fun spec => ⟨.module, spec⟩ := by
  rw [identify, Manager.all, ofEntries_cons_eq_ok_iff]
  constructor
  · rintro ⟨spacks, others, hspacks, hothers, rfl⟩
    obtain ⟨modules, _, hmodules, hnone, rfl⟩ := ofEntries_cons_eq_ok_iff.mp hothers
    rw [← Except.ok.inj hnone, List.append_nil]
    exact ⟨spacks, modules, hspacks, hmodules, rfl⟩
  · rintro ⟨spacks, modules, hspacks, hmodules, rfl⟩
    exact ⟨spacks, _, hspacks,
      ofEntries_cons_eq_ok_iff.mpr ⟨modules, [], hmodules, rfl, (List.append_nil _).symm⟩, rfl⟩

end Directive

namespace Dependency

variable {suite : String} {es : Entries} {found : List Dependency}

/-- The packages of a manager among what is listed under a key. -/
theorem filter_listed (kind : Kind) (texts : List String) (manager : Manager) :
    ((texts.map (kind.dependency suite)).filterMap directive?).filter (·.manager = manager) =
      if kind = .package manager then texts.map fun spec => ⟨manager, spec⟩ else [] := by
  cases kind with
  | test => simp [Kind.dependency, directive?, List.filterMap_map, Function.comp_def]
  | package other =>
      simp only [Kind.dependency, directive?, List.filterMap_map, Function.comp_def]
      split
      · simp_all
      · simp_all

/-- Where no key comes twice, the packages of a manager among all that is declared are
those of the one list that stands under its key. -/
theorem Declares.listsUnder (h : Declares suite es found) (hkeys : (es.map Prod.fst).Nodup)
    (manager : Manager) :
    ∃ texts, es.ListsUnder manager.key texts ∧
      (found.filterMap directive?).filter (·.manager = manager) =
        texts.map fun spec => ⟨manager, spec⟩ := by
  induction h with
  | nil => exact ⟨[], lists_null_iff.mpr rfl, rfl⟩
  | @listed kind value texts es found htexts _ ih =>
      rw [List.map_cons, List.nodup_cons] at hkeys
      obtain ⟨others, hothers, hfilter⟩ := ih hkeys.2
      rw [List.filterMap_append, List.filter_append, filter_listed, hfilter]
      by_cases hkind : kind = .package manager
      · subst hkind
        have hnone : Entries.get? manager.key es = none :=
          Entries.get?_eq_none_iff.mpr fun e he hkey => hkeys.1 (List.mem_map.mpr ⟨e, he, hkey⟩)
        obtain rfl := (Entries.listsUnder_of_none hnone).mp hothers
        refine ⟨texts, (Entries.listsUnder_of_some ?_).mpr htexts, by simp⟩
        simp [Entries.get?, Kind.key]
      · have hne : text kind.key ≠ text (Kind.package manager).key := fun hkey =>
          hkind (Kind.key_injective (Node.text.inj hkey))
        exact ⟨others, (Entries.listsUnder_cons_of_ne hne).mpr hothers, by simp [hkind]⟩
  | other hkey _ ih =>
      obtain ⟨texts, htexts, hfilter⟩ := ih (List.nodup_cons.mp hkeys).2
      exact ⟨texts, (Entries.listsUnder_cons_of_ne (hkey (.package manager))).mpr htexts, hfilter⟩

/-- The packages of a mapping, those of one manager before those of the other. -/
theorem Declares.identify_eq (h : Declares suite es found) (hkeys : (es.map Prod.fst).Nodup) :
    Directive.identify (mapping es) =
      .ok ((found.filterMap directive?).filter (·.manager = .spack) ++
        (found.filterMap directive?).filter (·.manager = .module)) := by
  obtain ⟨spacks, hspacks, hspack⟩ := h.listsUnder hkeys .spack
  obtain ⟨modules, hmodules, hmodule⟩ := h.listsUnder hkeys .module
  rw [hspack, hmodule]
  exact Directive.identify_eq_ok_iff.mpr ⟨spacks, modules, hspacks, hmodules, rfl⟩

theorem mem_qualify (suite name : String) : '/' ∈ (qualify suite name).toList := by
  rw [qualify]
  split
  · next h => exact List.contains_iff_mem.mp h
  · simp

theorem qualify_of_mem {id : String} (h : '/' ∈ id.toList) (other : String) :
    qualify other id = id :=
  if_pos (List.contains_iff_mem.mpr h)

theorem Declares.mem_of_test (h : Declares suite es found) {id : String} (hid : test id ∈ found) :
    '/' ∈ id.toList := by
  induction h with
  | nil => simp at hid
  | @listed kind value texts es found htexts _ ih =>
      rcases List.mem_append.mp hid with hid | hid
      · obtain ⟨s, -, hs⟩ := List.mem_map.mp hid
        cases kind with
        | test =>
            obtain rfl : qualify suite s = id := test.inj hs
            exact mem_qualify suite s
        | package manager => simp [Kind.dependency] at hs
      · exact ih hid
  | other _ _ ih => exact ih hid

/-- Reading a mapping of needs leniently comes to an end just when what stands under every
known key is one text or a list of them. It finds one dependency for each item, in the
order of the keys and of the lists. In a mapping with each key once the packages among them
are those that the other reading finds, which takes one manager after the other. The entries
among them have names that stay as they are in any suite. A strict reading finds the same,
and fails over every key that is not known. -/
theorem resolve_accounts (suite : String) (es : Entries) :
    ((∃ found, resolve suite (mapping es) .ignore = .ok found) ↔
      ∀ (kind : Kind) (value : Node), (text kind.key, value) ∈ es → value.IsOneOrMany) ∧
    (∀ found, resolve suite (mapping es) .ignore = .ok found →
      Declares suite es found ∧
      ((es.map Prod.fst).Nodup → Directive.identify (mapping es) =
        .ok ((found.filterMap directive?).filter (·.manager = .spack) ++
          (found.filterMap directive?).filter (·.manager = .module))) ∧
      ∀ id, test id ∈ found → '/' ∈ id.toList ∧ ∀ other, qualify other id = id) ∧
    (∀ found, resolve suite (mapping es) .error = .ok found ↔
      resolve suite (mapping es) .ignore = .ok found ∧
        ∀ e ∈ es, ∃ kind : Kind, e.1 = text kind.key) := by
  refine ⟨?_, fun found hfound => ?_, fun found => ?_⟩
  · simp only [resolve_ignore_eq_ok_iff]
    exact exists_declares_iff
  · have hdeclares := resolve_ignore_eq_ok_iff.mp hfound
    refine ⟨hdeclares, hdeclares.identify_eq, fun id hid => ?_⟩
    have hslash := hdeclares.mem_of_test hid
    exact ⟨hslash, qualify_of_mem hslash⟩
  · rw [resolve_ignore_eq_ok_iff, resolve, ofEntries_eq_ok_iff]
    simp

/-- The second manager's packages first, one of them a number, and a key that is a number
and is not known. -/
theorem resolve_accounts_mixed :
    let es : Entries := [
      (text "module", sequence [text "gcc", number (.int 12)]),
      (number (.int 1), mapping []),
      (text "spack", text "zlib"),
      (text "test", sequence [text "a", text "o/b"])]
    resolve "ns" (mapping es) .ignore = .ok [package ⟨.module, "gcc"⟩, package ⟨.module, "12"⟩,
        package ⟨.spack, "zlib"⟩, test "ns/a", test "o/b"] ∧
      Directive.identify (mapping es) =
        .ok [⟨.spack, "zlib"⟩, ⟨.module, "gcc"⟩, ⟨.module, "12"⟩] ∧
      (∀ other, qualify other "ns/a" = "ns/a") ∧
      ¬ ∃ found, resolve "ns" (mapping es) .error = .ok found := by
  intro es
  obtain ⟨-, hfinds, hstrict⟩ := resolve_accounts "ns" es
  have hfound : resolve "ns" (mapping es) .ignore = .ok [package ⟨.module, "gcc"⟩,
    package ⟨.module, "12"⟩, package ⟨.spack, "zlib"⟩, test "ns/a", test "o/b"] := rfl
  have hkeys : (es.map Prod.fst).Nodup := by simp [es]
  obtain ⟨-, hpackages, htests⟩ := hfinds _ hfound
  refine ⟨hfound, hpackages hkeys, (htests "ns/a" (by simp)).2, ?_⟩
  rintro ⟨found, h⟩
  obtain ⟨kind, hkind⟩ := ((hstrict found).mp h).2 (number (.int 1), mapping []) (by simp [es])
  simp at hkind

end Dependency

end Trialbook
