import Trialbook.Command.FileTree
import Trialbook.Proofs.Paths

/-!
# The file beside a file

The name of the file that a migration writes is made from the text of a path: what
comes before the last name is kept, up to slashes and single dots, and another name
is put behind it. Where this leads is another matter, since a path may go up and
down. For a path that a file was read from the two agree: the new path leads to the
directory that the file is in (`FileTree.exists_beside`).

The argument follows the walk. Dropped slashes make no names, dropped dots make
names that stay where they are, and a walk that ends at a file has entered its
directory just before.
-/

namespace Trialbook

open Text

namespace Command.FileTree

/-! ## Contents -/

variable {t : FileTree}

theorem lookup_put_self (here : List String) (content : ByteArray)
    (files : List (List String × ByteArray)) :
    (put here content files).lookup here = some content := by
  induction files with
  | nil => simp [put]
  | cons file files ih =>
      rw [put]
      split
      · simp
      · next hne =>
          have hne' : (here == file.1) = false := by simpa using Ne.symm hne
          rw [List.lookup_cons, hne']
          exact ih

theorem lookup_put_of_ne {here other : List String} (h : other ≠ here) (content : ByteArray)
    (files : List (List String × ByteArray)) :
    (put here content files).lookup other = files.lookup other := by
  have hother : (other == here) = false := by simpa using h
  induction files with
  | nil => rw [put, List.lookup_cons, hother]
  | cons file files ih =>
      rw [put]
      split
      · next heq => rw [List.lookup_cons, List.lookup_cons, heq, hother]
      · rw [List.lookup_cons, List.lookup_cons, ih]

/-- A write changes the content in one place, which its path leads to. -/
theorem exists_of_write? {path : String} {content : ByteArray} {after : FileTree}
    (h : t.write? path content = some after) :
    ∃ above name, (steps path).getLast? = some name ∧
      t.follow (t.origin path) (steps path).dropLast = .ok (.directory above) ∧
      after.get? (above ++ [name]) = some content ∧
      ∀ other, other ≠ above ++ [name] → after.get? other = t.get? other := by
  rw [write?] at h
  split at h
  · next name above hname habove =>
      obtain ⟨-, h⟩ := Option.ite_none_right_eq_some.mp h
      obtain rfl := Option.some.inj h
      exact ⟨above, name, hname, habove, lookup_put_self _ _ _,
        fun other hother => lookup_put_of_ne hother _ _⟩
  · simp at h

/-! ## Walks -/

theorem follow_append (t : FileTree) (l : Location) (names more : List String) :
    t.follow l (names ++ more) = t.follow l names >>= fun l => t.follow l more :=
  List.foldlM_append

theorem follow_singleton (t : FileTree) (l : Location) (name : String) :
    t.follow l [name] = t.enter l name := by
  rw [follow, List.foldlM_cons]
  cases t.enter l name <;> rfl

/-- A walk that a name leads on from, taken apart. -/
theorem exists_follow_of_append {l l' : Location} {names more : List String}
    (h : t.follow l (names ++ more) = .ok l') :
    ∃ middle, t.follow l names = .ok middle ∧ t.follow middle more = .ok l' := by
  rw [follow_append] at h
  cases hnames : t.follow l names with
  | error e => rw [hnames] at h; simp [bind, Except.bind] at h
  | ok middle => rw [hnames] at h; exact ⟨middle, rfl, h⟩

/-- A file is entered from its directory by its name. -/
theorem exists_of_enter_file {l : Location} {name : String} {content : ByteArray}
    {here : List String} (h : t.enter l name = .ok (.file here content)) :
    ∃ above, l = .directory above ∧ here = above ++ [name] ∧ name ≠ "." ∧ name ≠ ".." := by
  cases l with
  | file => simp [enter] at h
  | directory above =>
      rw [enter] at h
      split at h
      · simp at h
      · split at h
        · simp at h
        · next hdot =>
            split at h
            · simp at h
            · next hdots =>
                split at h
                · simp at h
                · dsimp only at h
                  split at h
                  · obtain ⟨rfl, -⟩ := Location.file.inj (Except.ok.inj h)
                    exact ⟨above, rfl, rfl, by simpa using hdot, by simpa using hdots⟩
                  · split at h <;> simp at h

/-- A single dot stays in a directory. -/
theorem eq_of_enter_dot {l l' : Location} (h : t.enter l "." = .ok l') : l' = l := by
  cases l with
  | file => simp [enter] at h
  | directory above =>
      rw [enter] at h
      split at h
      · simp at h
      · exact (Except.ok.inj h).symm

/-- Single dots at the end of a walk to a directory do nothing. -/
theorem follow_of_dots {l : Location} {names above : List String} {count : Nat}
    (h : t.follow l (names ++ List.replicate count ".") = .ok (.directory above)) :
    t.follow l names = .ok (.directory above) := by
  induction count with
  | zero => rwa [List.replicate_zero, List.append_nil] at h
  | succ count ih =>
      rw [List.replicate_succ', ← List.append_assoc] at h
      obtain ⟨middle, hmiddle, hlast⟩ := exists_follow_of_append h
      rw [follow_singleton] at hlast
      obtain rfl := eq_of_enter_dot hlast
      exact ih hmiddle

/-! ## Names -/

/-- The names between the slashes of some characters. -/
def namesOf (cs : List Char) : List String :=
  ((Path.splitAt '/' cs).map String.ofList).filter fun s => !s.isEmpty

theorem namesOf_append (cs ds : List Char) :
    namesOf (cs ++ '/' :: ds) = namesOf cs ++ namesOf ds := by
  rw [namesOf, Path.splitAt_append, List.map_append, List.filter_append]
  rfl

theorem namesOf_of_notMem {cs : List Char} (h : '/' ∉ cs) (hne : cs ≠ []) :
    namesOf cs = [String.ofList cs] := by
  rw [namesOf, Path.splitAt_of_notMem h]
  simp [hne]

theorem steps_eq {path : String} (h : path.toList.getLast? ≠ some '/') :
    steps path = namesOf path.toList := by
  rw [steps, if_neg (by simpa using h)]
  rfl

theorem namesOf_nil : namesOf [] = [] := by
  simp [namesOf, Path.splitAt]

/-- What a path loses at its end are slashes, which make no names, and single dots. -/
theorem exists_namesOf_trimPathEnd (cs : List Char) :
    ∃ count, namesOf cs.reverse =
      namesOf (trimPathEnd cs).reverse ++ List.replicate count "." := by
  fun_induction trimPathEnd cs with
  | case1 => exact ⟨0, by simp⟩
  | case2 rest hrest ih =>
      obtain ⟨count, ih⟩ := ih
      refine ⟨count, ?_⟩
      rw [List.reverse_cons, namesOf_append, ih, namesOf_nil, List.append_nil]
  | case3 rest ih =>
      obtain ⟨count, ih⟩ := ih
      have hdot : namesOf ['.'] = ["."] := namesOf_of_notMem (by decide) (by decide)
      rw [List.reverse_cons, namesOf_append, namesOf_nil, List.append_nil] at ih
      refine ⟨count + 1, ?_⟩
      rw [List.reverse_cons, List.reverse_cons, List.append_assoc, List.singleton_append,
        namesOf_append, ih, hdot, List.replicate_succ', List.append_assoc]
  | case4 cs => exact ⟨0, by simp⟩

/-- A path that is cut short still starts where it did. -/
theorem getLast?_trimPathEnd (cs : List Char) : (trimPathEnd cs).getLast? = cs.getLast? := by
  fun_induction trimPathEnd cs with
  | case1 => rfl
  | case2 rest hrest ih =>
      obtain ⟨c, more, rfl⟩ := List.exists_cons_of_ne_nil (fun hnil => hrest hnil)
      rw [ih, List.getLast?_cons_cons]
  | case3 rest ih => rw [ih, List.getLast?_cons_cons]
  | case4 cs => rfl

/-- A path is not cut short in a name. -/
theorem trimPathEnd_of_name {name : List Char} (hslash : '/' ∉ name) (hne : name ≠ [])
    (hdot : name ≠ ['.']) (more : List Char) :
    trimPathEnd (name.reverse ++ more) = name.reverse ++ more := by
  obtain ⟨c, cs, hname⟩ := List.exists_cons_of_ne_nil (mt List.reverse_eq_nil_iff.mp hne)
  have hmem : ∀ c ∈ name.reverse, c ≠ '/' := by
    rintro c hc rfl
    exact hslash (List.mem_reverse.mp hc)
  rw [hname] at hmem ⊢
  have hc := hmem c List.mem_cons_self
  unfold trimPathEnd
  split
  · next heq => exact absurd (List.cons.inj heq).1 hc
  · next heq => exact absurd (List.cons.inj heq).1 hc
  · next rest heq =>
      obtain ⟨rfl, hrest⟩ := List.cons.inj heq
      cases cs with
      | nil => exact absurd (List.reverse_eq_iff.mp hname) hdot
      | cons c cs =>
          exact absurd (List.cons.inj hrest).1 (hmem c (List.mem_cons_of_mem _ List.mem_cons_self))
  · rfl

/-! ## Paths to files -/

/-- A path as the characters before its last name and that name, which is no dots. -/
structure EndsIn (path : String) (above : List Char) (name : String) : Prop where
  spelled : path.toList = above ++ name.toList
  slash : above = [] ∨ ∃ front, above = front ++ ['/']
  noSlash : '/' ∉ name.toList
  ne_empty : name ≠ ""
  ne_here : name ≠ "."
  ne_parent : name ≠ ".."

theorem exists_split (cs : List Char) :
    ∃ above name, cs = above ++ name ∧ (above = [] ∨ ∃ front, above = front ++ ['/']) ∧
      '/' ∉ name := by
  induction cs with
  | nil => exact ⟨[], [], rfl, Or.inl rfl, List.not_mem_nil⟩
  | cons c cs ih =>
      obtain ⟨above, name, rfl, rfl | ⟨front, rfl⟩, hname⟩ := ih
      · by_cases hc : c = '/'
        · exact ⟨['/'], name, by rw [hc]; rfl, Or.inr ⟨[], rfl⟩, hname⟩
        · exact ⟨[], c :: name, rfl, Or.inl rfl, by simpa [Ne.symm hc] using hname⟩
      · exact ⟨c :: front ++ ['/'], name, rfl, Or.inr ⟨c :: front, rfl⟩, hname⟩

theorem namesOf_append_name {above name : List Char}
    (habove : above = [] ∨ ∃ front, above = front ++ ['/']) (hslash : '/' ∉ name)
    (hne : name ≠ []) : namesOf (above ++ name) = namesOf above ++ [String.ofList name] := by
  obtain rfl | ⟨front, rfl⟩ := habove
  · rw [List.nil_append, namesOf_of_notMem hslash hne, namesOf_nil]
    rfl
  · rw [List.append_assoc, List.singleton_append, namesOf_append, namesOf_append, namesOf_nil,
      List.append_nil, namesOf_of_notMem hslash hne]

/-- The path that a file is read from ends in its name. -/
theorem exists_endsIn_of_follow {path : String} {content : ByteArray} {here : List String}
    (h : t.follow (t.origin path) (steps path) = .ok (.file here content)) :
    ∃ above name names, EndsIn path above name ∧ here = names ++ [name] ∧
      t.follow (t.origin path) (namesOf above) = .ok (.directory names) := by
  have hlast : path.toList.getLast? ≠ some '/' := by
    intro hlast
    rw [steps, if_pos (by simp [hlast])] at h
    obtain ⟨middle, -, hdot⟩ := exists_follow_of_append h
    rw [follow_singleton] at hdot
    obtain ⟨_, -, -, hne, -⟩ := exists_of_enter_file hdot
    exact hne rfl
  obtain ⟨above, name, hpath, habove, hslash⟩ := exists_split path.toList
  rw [steps_eq hlast, hpath] at h
  have hname : name ≠ [] := by
    rintro rfl
    obtain rfl | ⟨front, rfl⟩ := habove
    · rw [List.nil_append, namesOf_nil] at h
      simp [follow, origin, pure, Except.pure] at h
    · exact hlast (by simp [hpath])
  rw [namesOf_append_name habove hslash hname] at h
  obtain ⟨middle, hmiddle, hlast'⟩ := exists_follow_of_append h
  rw [follow_singleton] at hlast'
  obtain ⟨names, rfl, rfl, hhere, hparent⟩ := exists_of_enter_file hlast'
  refine ⟨above, String.ofList name, names, ⟨?_, habove, ?_, ?_, hhere, hparent⟩, rfl, hmiddle⟩
  · rw [String.toList_ofList, hpath]
  · rwa [String.toList_ofList]
  · intro hempty
    exact hname (by rw [← String.toList_ofList (l := name), hempty]; rfl)

/-! ## Another name in its place -/

section

variable {path name other : String} {above : List Char}

theorem EndsIn.fileName? (h : EndsIn path above name) : Text.fileName? path = some name := by
  have hpieces : ∃ pieces, (Path.splitAt '/' path.toList).map String.ofList = pieces ++ [name] := by
    rw [h.spelled]
    obtain rfl | ⟨front, rfl⟩ := h.slash
    · exact ⟨[], by rw [List.nil_append, Path.splitAt_of_notMem h.noSlash]; simp⟩
    · refine ⟨(Path.splitAt '/' front).map String.ofList, ?_⟩
      rw [List.append_assoc, List.singleton_append, Path.splitAt_append,
        Path.splitAt_of_notMem h.noSlash, List.map_append]
      simp
  obtain ⟨pieces, hpieces⟩ := hpieces
  rw [Text.fileName?, pathComponents, hpieces]
  cases pieces with
  | nil => simp [h.ne_empty, h.ne_here, h.ne_parent]
  | cons first pieces => simp [h.ne_empty, h.ne_here, h.ne_parent]

theorem EndsIn.parentPath (h : EndsIn path above name) :
    Text.parentPath path = String.ofList (trimPathEnd above.reverse).reverse := by
  have hname : name.toList ≠ [] := fun hnil => h.ne_empty (String.toList_eq_nil_iff.mp hnil)
  have hdot : name.toList ≠ ['.'] := fun hdot => h.ne_here (String.toList_inj.mp hdot)
  have hpast : (name.toList.reverse ++ above.reverse).dropWhile (· != '/') = above.reverse := by
    rw [List.dropWhile_append_of_pos (by
      intro c hc
      have hne : c ≠ '/' := fun heq => h.noSlash (heq ▸ List.mem_reverse.mp hc)
      simpa using hne)]
    obtain habove | ⟨front, habove⟩ := h.slash
    · rw [habove]; rfl
    · rw [habove]; simp
  rw [Text.parentPath, h.spelled, List.reverse_append, trimPathEnd_of_name h.noSlash hname hdot,
    hpast]

variable (hslash : '/' ∉ other.toList)

include hslash

theorem head?_joinPath_iff {directory : String} :
    (joinPath directory other).toList.head? = some '/' ↔ directory.toList.head? = some '/' := by
  have hother : other.toList.head? ≠ some '/' := fun h => hslash (List.mem_of_mem_head? h)
  rw [joinPath]
  cases hdirectory : directory.toList with
  | nil =>
      obtain rfl := String.toList_eq_nil_iff.mp hdirectory
      simpa using hother
  | cons c cs => split <;> simp [String.toList_append, hdirectory]

/-- The file beside another one is looked for from where that one is. -/
theorem origin_joinPath (t : FileTree) (h : EndsIn path above name) :
    t.origin (joinPath (Text.parentPath path) other) = t.origin path := by
  have hparent : (Text.parentPath path).toList.head? = above.head? := by
    rw [h.parentPath, String.toList_ofList, List.head?_reverse, getLast?_trimPathEnd,
      List.getLast?_reverse]
  have hpath : path.toList.head? = some '/' ↔ above.head? = some '/' := by
    rw [h.spelled]
    cases above with
    | nil =>
        refine iff_of_false (fun hhead => h.noSlash (List.mem_of_mem_head? ?_)) (by simp)
        exact hhead
    | cons c cs => rfl
  have hsame : (joinPath (Text.parentPath path) other).toList.head? = some '/' ↔
      path.toList.head? = some '/' := by
    rw [head?_joinPath_iff hslash, hparent, hpath]
  simp only [origin, beq_iff_eq, hsame]

variable (hne : other ≠ "")

include hne

theorem steps_joinPath (directory : String) :
    steps (joinPath directory other) = namesOf directory.toList ++ [other] := by
  have hother : other.toList ≠ [] := fun hnil => hne (String.toList_eq_nil_iff.mp hnil)
  have hlast : ∀ front : List Char, (front ++ other.toList).getLast? ≠ some '/' := by
    intro front hlast
    rw [List.getLast?_append_of_ne_nil _ hother] at hlast
    exact hslash (List.mem_of_getLast? hlast)
  have hnames : ∀ front : List Char, (front = [] ∨ ∃ more, front = more ++ ['/']) →
      namesOf (front ++ other.toList) = namesOf front ++ [other] := by
    intro front hfront
    rw [namesOf_append_name hfront hslash hother, String.ofList_toList]
  rw [joinPath]
  split
  · next hend =>
      rw [steps_eq (by rw [String.toList_append]; exact hlast _), String.toList_append]
      refine hnames _ ?_
      rw [Bool.or_eq_true] at hend
      rcases hend with hempty | hend
      · exact Or.inl (by simpa using hempty)
      · exact Or.inr (List.getLast?_eq_some_iff.mp (by simpa using hend))
  · have hchars : (directory ++ "/" ++ other).toList =
        (directory.toList ++ ['/']) ++ other.toList := by simp [String.toList_append]
    rw [steps_eq (by rw [hchars]; exact hlast _), hchars, hnames _ (Or.inr ⟨_, rfl⟩),
      namesOf_append, namesOf_nil, List.append_nil]

end

/-- Where a path leads to a file, it leads to the directory of that file with
another name put in place of its last one. -/
theorem exists_beside {path : String} {content : ByteArray} {here : List String}
    (h : t.follow (t.origin path) (steps path) = .ok (.file here content)) :
    ∃ names name, here = names ++ [name] ∧ Text.fileName? path = some name ∧
      '/' ∉ name.toList ∧ ∀ other, '/' ∉ other.toList → other ≠ "" →
        (steps (joinPath (Text.parentPath path) other)).getLast? = some other ∧
        t.follow (t.origin (joinPath (Text.parentPath path) other))
          (steps (joinPath (Text.parentPath path) other)).dropLast = .ok (.directory names) := by
  obtain ⟨above, name, names, hends, rfl, hfollow⟩ := exists_endsIn_of_follow h
  have hparent : (Text.parentPath path).toList = (trimPathEnd above.reverse).reverse := by
    rw [hends.parentPath, String.toList_ofList]
  obtain ⟨count, hcount⟩ := exists_namesOf_trimPathEnd above.reverse
  rw [List.reverse_reverse, ← hparent] at hcount
  rw [hcount] at hfollow
  refine ⟨names, name, rfl, hends.fileName?, hends.noSlash, fun other hslash hne => ?_⟩
  rw [origin_joinPath hslash t hends, steps_joinPath hslash hne, List.dropLast_concat]
  exact ⟨List.getLast?_concat, follow_of_dots hfollow⟩

end Command.FileTree

end Trialbook
