import Trialbook.Proofs.Pass

/-!
# The two collision policies

The lenient policy goes on after a collision and the strict one stops there,
so a strict run is a lenient run cut short. As long as nothing has collided
the two are at the same document. That is the whole induction for one rebuild
(`writeAll_error`), and it is what lets a migration be told in the same way:
the second pass of the strict run is reached only if the first rebuild had no
collision, and then it starts from the document that the lenient run starts
from.

The lenient policy has one failure of its own, a path through a tagged null.
Where it does not meet one, the strict policy has no failure but a collision.
-/

namespace Trialbook

/-- What is left of a result under the strict policy: the first of the
collisions on the way to it, if there is one. -/
def strictly {α : Type} (result : α) : List Collision → Except RebuildFailure α
  | [] => .ok result
  | c :: _ => .error (.collision c.path)

namespace Node

theorem writeAll_overwrite_cons {root node : Node} {w : Write} {c : Option Collision}
    (h : root.write w = some (node, c)) (ws : List Write) :
    root.writeAll .overwrite (w :: ws) =
      (node.writeAll .overwrite ws).map fun r => (r.1, c.toList ++ r.2) := by
  rw [writeAll, h]
  cases c with
  | none => dsimp only; cases node.writeAll .overwrite ws <;> rfl
  | some c => dsimp only; cases node.writeAll .overwrite ws <;> rfl

/-- The first of several writes, and the others after it. -/
theorem exists_write_of_writeAll {policy : CollisionPolicy} {n m : Node} {w : Write}
    {ws : List Write} {cs : List Collision} (h : n.writeAll policy (w :: ws) = .ok (m, cs)) :
    ∃ next c ds, n.write w = some (next, c) ∧ next.writeAll policy ws = .ok (m, ds) := by
  rw [writeAll] at h
  cases hwrite : n.write w with
  | none => rw [hwrite] at h; simp at h
  | some written =>
      obtain ⟨next, c⟩ := written
      rw [hwrite] at h
      cases c with
      | none => exact ⟨next, none, cs, rfl, h⟩
      | some c =>
          cases policy with
          | error => simp at h
          | overwrite =>
              cases hrest : next.writeAll .overwrite ws with
              | error failure => simp [hrest] at h
              | ok built =>
                  obtain ⟨last, ds⟩ := built
                  simp only [hrest] at h
                  injection h with hpair
                  obtain ⟨rfl, -⟩ := Prod.mk.inj hpair
                  exact ⟨next, some c, ds, rfl, hrest⟩

/-- What each of the writes keeps, a run of them keeps. -/
theorem writeAll_keeps {policy : CollisionPolicy} {P : Node → Prop} {n m : Node}
    {ws : List Write} {cs : List Collision} (h : n.writeAll policy ws = .ok (m, cs))
    (hstep : ∀ n m w c, w ∈ ws → n.write w = some (m, c) → P n → P m) (hn : P n) : P m := by
  induction ws generalizing n cs with
  | nil =>
      rw [writeAll] at h
      injection h with hpair
      obtain ⟨rfl, -⟩ := Prod.mk.inj hpair
      exact hn
  | cons w ws ih =>
      obtain ⟨next, c, ds, hwrite, hothers⟩ := exists_write_of_writeAll h
      refine ih hothers (fun n m w' c' hw' => hstep n m w' c' (List.mem_cons_of_mem _ hw')) ?_
      exact hstep n next w c List.mem_cons_self hwrite hn

/-- The lenient policy goes past every collision. -/
theorem writeAll_overwrite_error {root : Node} {ws : List Write} {failure : RebuildFailure}
    (h : root.writeAll .overwrite ws = .error failure) :
    ∃ path, failure = .taggedNull path := by
  induction ws generalizing root with
  | nil => rw [writeAll] at h; simp at h
  | cons w ws ih =>
      cases hwrite : root.write w with
      | none =>
          rw [writeAll, hwrite] at h
          injection h with h
          exact ⟨w.path, h.symm⟩
      | some written =>
          obtain ⟨node, c⟩ := written
          rw [writeAll_overwrite_cons hwrite] at h
          cases hrest : node.writeAll .overwrite ws with
          | error other =>
              rw [hrest] at h
              injection h with h
              exact ih (h ▸ hrest)
          | ok r => rw [hrest] at h; simp [Except.map] at h

/-- Both policies are at the same document until something collides. -/
theorem writeAll_error {root node : Node} {ws : List Write} {cs : List Collision}
    (h : root.writeAll .overwrite ws = .ok (node, cs)) :
    root.writeAll .error ws = strictly (node, []) cs := by
  induction ws generalizing root cs with
  | nil =>
      rw [writeAll] at h ⊢
      injection h with h
      obtain ⟨rfl, rfl⟩ := Prod.mk.inj h
      rfl
  | cons w ws ih =>
      cases hwrite : root.write w with
      | none => rw [writeAll, hwrite] at h; simp at h
      | some written =>
          obtain ⟨next, c⟩ := written
          rw [writeAll_overwrite_cons hwrite] at h
          cases hrest : next.writeAll .overwrite ws with
          | error failure => rw [hrest] at h; simp [Except.map] at h
          | ok r =>
              obtain ⟨last, ds⟩ := r
              rw [hrest] at h
              injection h with h
              obtain ⟨rfl, rfl⟩ := Prod.mk.inj h
              rw [writeAll, hwrite]
              cases c with
              | none => exact ih hrest
              | some c => rfl

end Node

theorem rebuild_overwrite_error {ws : List Write} {failure : RebuildFailure}
    (h : rebuild .overwrite ws = .error failure) : ∃ path, failure = .taggedNull path :=
  Node.writeAll_overwrite_error h

theorem rebuild_error {ws : List Write} {node : Node} {cs : List Collision}
    (h : rebuild .overwrite ws = .ok (node, cs)) :
    rebuild .error ws = strictly (node, []) cs :=
  Node.writeAll_error h

namespace Migration

/-- A migration that the lenient policy brings to an end is the two rebuilds
that it brings to an end. -/
theorem exists_rebuilds {document result : Node} {kind : DocumentKind} {rules : RuleTable}
    {policy : CollisionPolicy} {report : Report}
    (h : convert document kind rules policy = .ok (result, report)) :
    ∃ staged first second,
      rebuild policy ((flattenUnder kind document).flatMap rules.modifiers.writesOf) =
        .ok (staged, first) ∧
      rebuild policy ((staged.flattenAt "").flatMap rules.terminal.writesOf) =
        .ok (result, second) ∧
      report.collisions = first ++ second := by
  cases hfirst : rebuild policy ((flattenUnder kind document).flatMap rules.modifiers.writesOf) with
  | error failure => rw [convert_error_first hfirst] at h; simp at h
  | ok built =>
      obtain ⟨staged, first⟩ := built
      cases hsecond : rebuild policy ((staged.flattenAt "").flatMap rules.terminal.writesOf) with
      | error failure => rw [convert_error_second hfirst hsecond] at h; simp at h
      | ok built =>
          obtain ⟨last, second⟩ := built
          rw [convert_ok hfirst hsecond] at h
          injection h with h
          obtain ⟨rfl, rfl⟩ := Prod.mk.inj h
          exact ⟨staged, first, second, rfl, hsecond, rfl⟩

theorem convert_overwrite_error {document : Node} {kind : DocumentKind} {rules : RuleTable}
    {failure : RebuildFailure} (h : convert document kind rules .overwrite = .error failure) :
    ∃ path, failure = .taggedNull path := by
  cases hfirst : rebuild .overwrite
      ((flattenUnder kind document).flatMap rules.modifiers.writesOf) with
  | error other =>
      rw [convert_error_first hfirst] at h
      injection h with h
      exact rebuild_overwrite_error (h ▸ hfirst)
  | ok built =>
      obtain ⟨staged, first⟩ := built
      cases hsecond : rebuild .overwrite
          ((staged.flattenAt "").flatMap rules.terminal.writesOf) with
      | error other =>
          rw [convert_error_second hfirst hsecond] at h
          injection h with h
          exact rebuild_overwrite_error (h ▸ hsecond)
      | ok built => rw [convert_ok hfirst hsecond] at h; simp at h

/-- The second rebuild of a strict migration is reached only past a first one
without collisions, and then from the same document. -/
theorem convert_error {document result : Node} {kind : DocumentKind} {rules : RuleTable}
    {report : Report} (h : convert document kind rules .overwrite = .ok (result, report)) :
    convert document kind rules .error = strictly (result, report) report.collisions := by
  obtain ⟨staged, first, second, hfirst, hsecond, hcollisions⟩ := exists_rebuilds h
  have hstrict := rebuild_error hfirst
  rw [hcollisions]
  cases first with
  | cons c cs => exact convert_error_first hstrict
  | nil =>
      have hstrict' := rebuild_error hsecond
      cases second with
      | cons c cs => exact convert_error_second hstrict hstrict'
      | nil =>
          rw [List.append_nil, strictly, ← h, convert_ok hfirst hsecond]
          exact convert_ok hstrict hstrict'

/-- Where the lenient policy meets no tagged null, the strict one has the same
result with the same report if nothing collided, and otherwise fails at the
first of the collisions that the lenient one reports. No policy has another
failure then. -/
theorem convert_policies_agree {document : Node} {kind : DocumentKind} {rules : RuleTable}
    (hends : ∀ path, convert document kind rules .overwrite ≠ .error (.taggedNull path)) :
    ∃ result report, convert document kind rules .overwrite = .ok (result, report) ∧
      (report.collisions = [] → convert document kind rules .error = .ok (result, report)) ∧
      (∀ c cs, report.collisions = c :: cs →
        convert document kind rules .error = .error (.collision c.path)) ∧
      ∀ policy failure, convert document kind rules policy = .error failure →
        ∃ path, failure = .collision path := by
  cases h : convert document kind rules .overwrite with
  | error failure =>
      obtain ⟨path, rfl⟩ := convert_overwrite_error h
      exact absurd h (hends path)
  | ok built =>
      obtain ⟨result, report⟩ := built
      have hstrict := convert_error h
      refine ⟨result, report, rfl, ?_, ?_, ?_⟩
      · intro hnone
        rw [hstrict, hnone, strictly]
      · intro c cs hcollisions
        rw [hstrict, hcollisions, strictly]
      · intro policy failure hfailure
        cases policy with
        | overwrite => rw [h] at hfailure; simp at hfailure
        | error =>
            rw [hstrict] at hfailure
            cases hcollisions : report.collisions with
            | nil => rw [hcollisions] at hfailure; simp [strictly] at hfailure
            | cons c cs =>
                rw [hcollisions] at hfailure
                injection hfailure with hfailure
                exact ⟨c.path, hfailure.symm⟩

/-- Two leaves that go to one place in the second pass. -/
theorem convert_policies_agree_merged :
    (∀ path, convert (.mapping [(.text "a", .bool true), (.text "b", .text "x")]) .te
        ⟨[], [⟨"<ANY>", ⟨.empty, []⟩, [Rule.Template.ofText "te.c"]⟩]⟩ .overwrite ≠
      .error (.taggedNull path)) ∧
    (∃ result report,
      convert (.mapping [(.text "a", .bool true), (.text "b", .text "x")]) .te
          ⟨[], [⟨"<ANY>", ⟨.empty, []⟩, [Rule.Template.ofText "te.c"]⟩]⟩ .overwrite =
        .ok (result, report) ∧ report.collisions = [⟨"te.c", .overwritten⟩]) ∧
    convert (.mapping [(.text "a", .bool true), (.text "b", .text "x")]) .te
        ⟨[], [⟨"<ANY>", ⟨.empty, []⟩, [Rule.Template.ofText "te.c"]⟩]⟩ .error =
      .error (.collision "te.c") := by
  have hfirst : rebuild .overwrite ((flattenUnder .te
      (.mapping [(.text "a", .bool true), (.text "b", .text "x")])).flatMap
        (RuleSet.writesOf [])) =
      .ok (.mapping [(.text "te",
        .mapping [(.text "a", .bool true), (.text "b", .text "x")])], []) := rfl
  have hsecond : rebuild .overwrite (((Node.mapping [(.text "te",
      .mapping [(.text "a", .bool true), (.text "b", .text "x")])]).flattenAt "").flatMap
        (RuleSet.writesOf [⟨"<ANY>", ⟨.empty, []⟩, [Rule.Template.ofText "te.c"]⟩])) =
      .ok (.mapping [(.text "te", .mapping [(.text "c", .text "x")])],
        [⟨"te.c", .overwritten⟩]) := rfl
  have hlenient := @convert_ok _ _ _ .te ⟨_, _⟩ _ _ _ hfirst hsecond
  have hends : ∀ path, convert (.mapping [(.text "a", .bool true), (.text "b", .text "x")])
      .te ⟨[], [⟨"<ANY>", ⟨.empty, []⟩, [Rule.Template.ofText "te.c"]⟩]⟩
        .overwrite ≠ .error (.taggedNull path) := by
    intro path h
    rw [hlenient] at h
    simp at h
  obtain ⟨result, report, hconvert, -, hcollision, -⟩ := convert_policies_agree hends
  rw [hlenient] at hconvert
  injection hconvert with hpair
  obtain ⟨rfl, rfl⟩ := Prod.mk.inj hpair
  have hstrict := hcollision ⟨"te.c", .overwritten⟩ [] (List.nil_append _)
  exact ⟨hends, ⟨_, _, hlenient, List.nil_append _⟩, hstrict⟩

end Migration

end Trialbook
