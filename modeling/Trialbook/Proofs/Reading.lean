import Trialbook.Job.Expand
import Mathlib.Data.List.Forall2

/-!
# Suites that are read alike

Two suites have the same jobs if what differs between them is read in the same
way. Reading goes down a suite by records, and a record reads its fields one
after the other, so a difference is passed up from a field to its record. At
every level one lemma says what the level makes of the readings below it. At the
bottom is an axis, whose values are read alike in place and under a key of their
own.

Only what can be read is compared. A node that is refused may be read in its
other form, or be refused for another reason.
-/

namespace Trialbook

open Node

/-- The second node is read as the first one is, where that can be read. -/
def Agree {ε α : Type} (read : Node → Except ε α) (n n' : Node) : Prop :=
  ∀ r, read n = .ok r → read n' = .ok r

theorem Agree.refl {ε α : Type} (read : Node → Except ε α) (n : Node) : Agree read n n :=
  fun _ h => h

/-- Entries with the same keys in the same order, all of them strings, and with
values that are related. -/
def Entries.Aligned (holds : String → Node → Node → Prop) : Entries → Entries → Prop :=
  List.Forall₂ fun e e' => e'.1 = e.1 ∧ ∃ key, e.1 = text key ∧ holds key e.2 e'.2

theorem bind_eq_ok {ε α β : Type} {x : Except ε α} {f : α → Except ε β} {r : β} :
    (x >>= f) = .ok r ↔ ∃ a, x = .ok a ∧ f a = .ok r := by
  cases x with
  | error fault => simp [bind, Except.bind]
  | ok a => simp [bind, Except.bind]

theorem map_eq_ok {ε α β : Type} {x : Except ε α} {f : α → β} {r : β} :
    x.map f = .ok r ↔ ∃ a, x = .ok a ∧ f a = r := by
  cases x with
  | error fault => simp [Except.map]
  | ok a => simp [Except.map]

theorem mapError_eq_ok {ε ε' α : Type} {f : ε → ε'} {x : Except ε α} {r : α} :
    x.mapError f = .ok r ↔ x = .ok r := by
  cases x with
  | error fault => simp [Except.mapError]
  | ok a => simp [Except.mapError]

theorem eq_ok_of_toOption {ε α : Type} {x : Except ε α} {a : α} (h : x.toOption = some a) :
    x = .ok a := by
  cases x with
  | error fault => simp [Except.toOption] at h
  | ok b => exact congrArg Except.ok (Option.some.inj h)

/-! ## Records -/

namespace Record

variable {α : Type} {field : String} {read : Node → Except RecordFault α} {es es' : Entries}

/-- Only one field of a record may have changed, and it is read in the same
way. -/
def SameBut (field : String) (read : Node → Except RecordFault α) (key : String)
    (v v' : Node) : Prop :=
  (key = field → Agree read v v') ∧ (key ≠ field → v' = v)

/-- A record is read alike if the field that may have changed is. -/
theorem fieldsFrom_of_sameBut {β : Type} {known : List String}
    {readField : String → Node → β → Except RecordFault β}
    (hfield : ∀ v v', Agree read v v' → ∀ record,
      Agree (fun n => readField field n record) v v')
    (h : Entries.Aligned (SameBut field read) es es') {seen : List String} {record result : β}
    (hread : fieldsFrom known readField seen es record = .ok result) :
    fieldsFrom known readField seen es' record = .ok result := by
  induction h generalizing seen record with
  | nil => exact hread
  | @cons e e' es es' hfirst _ ih =>
      obtain ⟨_, v⟩ := e
      obtain ⟨_, v'⟩ := e'
      obtain ⟨rfl, key, rfl, hchanged, hkept⟩ := hfirst
      have hv : Agree (fun n => readField key n record) v v' := by
        by_cases hkey : key = field
        · rw [hkey]
          exact hfield v v' (hchanged hkey) record
        · rw [show v' = v from hkept hkey]
          exact Agree.refl _ v
      have hname : (Node.text key).text? = some key := rfl
      rw [fieldsFrom, hname] at hread ⊢
      dsimp only at hread ⊢
      split at hread
      · next hknown =>
          rw [if_pos hknown]
          exact ih hread
      · next hknown =>
          rw [if_neg hknown]
          split at hread
          · simp at hread
          · next hseen =>
              rw [if_neg hseen]
              obtain ⟨next, hnext, hrest⟩ := bind_eq_ok.mp hread
              exact bind_eq_ok.mpr ⟨next, hv next hnext, ih hrest⟩

/-- A record that may be missing, from a mapping. -/
theorem agree_optional (h : Agree read (mapping es) (mapping es')) :
    Agree (optional read) (mapping es) (mapping es') := by
  intro r hr
  have hr : (read (mapping es)).map some = .ok r := hr
  show (read (mapping es')).map some = .ok r
  obtain ⟨record, hread, hsome⟩ := map_eq_ok.mp hr
  exact map_eq_ok.mpr ⟨record, h record hread, hsome⟩

/-- What can be read as a list has no keys. -/
theorem child?_of_list {place : String} {n : Node} {texts : List String}
    (h : list place n = .ok texts) (key : String) : n.child? key = none := by
  cases n with
  | mapping es => simp [list, oneOrMany, scalarText?, Except.mapError] at h
  | tagged t n => simp [list, oneOrMany, scalarText?, Except.mapError] at h
  | null | bool | number | text | sequence => rfl

end Record

/-! ## From an axis to a suite -/

/-- Values are read in the same way in place and under their key. -/
theorem Axis.agree_values (key v : Node) :
    Agree (Axis.ofEntry key) (mapping [(text "values", v)]) v := by
  intro axis h
  rw [Axis.ofEntry] at h ⊢
  cases hname : key.text? with
  | none => rw [hname] at h; exact h
  | some name =>
      rw [hname] at h
      obtain ⟨texts, hlist, haxis⟩ := bind_eq_ok.mp h
      have hlist : Record.list name v = .ok texts := hlist
      refine bind_eq_ok.mpr ⟨texts, ?_, haxis⟩
      rw [Record.child?_of_list hlist "values", Option.getD_none]
      exact hlist

theorem Axis.agree_ofNode {es es' : Entries}
    (h : Entries.Aligned (fun _ v v' => ∀ key, Agree (Axis.ofEntry key) v v') es es') :
    Agree Axis.ofNode (mapping es) (mapping es') := by
  show ∀ axes, Axis.ofEntries es = .ok axes → Axis.ofEntries es' = .ok axes
  induction h with
  | nil => exact fun _ haxes => haxes
  | @cons e e' es es' hfirst _ ih =>
      obtain ⟨_, v⟩ := e
      obtain ⟨k, v'⟩ := e'
      obtain ⟨rfl, -, -, hv⟩ := hfirst
      intro axes haxes
      rw [Axis.ofEntries] at haxes ⊢
      obtain ⟨axis, haxis, hrest⟩ := bind_eq_ok.mp haxes
      obtain ⟨others, hothers, hlist⟩ := bind_eq_ok.mp hrest
      exact bind_eq_ok.mpr ⟨axis, hv k axis haxis,
        bind_eq_ok.mpr ⟨others, ih others hothers, hlist⟩⟩

/-- Runs whose axes are read alike. -/
theorem RunSpec.agree_ofNode {es es' : Entries}
    (h : Entries.Aligned (Record.SameBut "iterate" Axis.ofNode) es es') :
    Agree RunSpec.ofNode (mapping es) (mapping es') := by
  intro spec hspec
  refine Record.fieldsFrom_of_sameBut (fun v v' hv record result hresult => ?_) h hspec
  obtain ⟨axes, haxes, hrecord⟩ := bind_eq_ok.mp hresult
  exact bind_eq_ok.mpr ⟨axes, hv axes haxes, hrecord⟩

/-- Entries whose runs are read alike. -/
theorem TestEntry.agree_ofNode {es es' : Entries}
    (h : Entries.Aligned (Record.SameBut "run" (Record.optional RunSpec.ofNode)) es es')
    (name : String) : Agree (TestEntry.ofNode name) (mapping es) (mapping es') := by
  intro entry hentry
  have hfields : Record.fieldsFrom knownKeys readField [] es {} = .ok entry :=
    mapError_eq_ok.mp hentry
  refine mapError_eq_ok.mpr
    (Record.fieldsFrom_of_sameBut (fun v v' hv record result hresult => ?_) h hfields)
  obtain ⟨run, hrun, hrecord⟩ := bind_eq_ok.mp hresult
  exact bind_eq_ok.mpr ⟨run, hv run hrun, hrecord⟩

/-- Suites whose entries are read alike have the same jobs. -/
theorem Job.expandEntries_of_agree {suite : String} {compiler : Compiler}
    {options : ExpandOptions} {es es' : Entries}
    (h : Entries.Aligned (fun _ v v' => ∀ name, Agree (TestEntry.ofNode name) v v') es es')
    {jobs : List Job} (hjobs : expandEntries suite compiler options es = .ok jobs) :
    expandEntries suite compiler options es' = .ok jobs := by
  induction h generalizing jobs with
  | nil => exact hjobs
  | @cons e e' es es' hfirst _ ih =>
      obtain ⟨_, v⟩ := e
      obtain ⟨_, v'⟩ := e'
      obtain ⟨rfl, key, rfl, hv⟩ := hfirst
      have hname : (text key).text? = some key := rfl
      rw [expandEntries, hname] at hjobs ⊢
      dsimp only at hjobs ⊢
      split at hjobs
      · next hhidden =>
          rw [if_pos hhidden]
          exact ih hjobs
      · next hhidden =>
          rw [if_neg hhidden]
          obtain ⟨entry, hentry, hrest⟩ := bind_eq_ok.mp hjobs
          obtain ⟨first, hfirst, hrest⟩ := bind_eq_ok.mp hrest
          obtain ⟨others, hothers, hall⟩ := bind_eq_ok.mp hrest
          exact bind_eq_ok.mpr ⟨entry, hv key entry hentry, bind_eq_ok.mpr ⟨first, hfirst,
            bind_eq_ok.mpr ⟨others, ih hothers, hall⟩⟩⟩

end Trialbook
