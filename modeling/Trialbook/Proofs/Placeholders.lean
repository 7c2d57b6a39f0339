import Trialbook.Rule.Placeholder
import Mathlib.Data.List.TakeWhile

/-!
# Texts with something in place of their placeholders

A text is read from left to right. Where a placeholder begins, something is put in its
place and reading goes on behind it, so that nothing that has been put in is read. Any
other character stays (`Replaced`). What is put in may depend on the name and on the
text in front.

That says what becomes of a text without a word of the pieces it is cut into, and the
pieces give just that (`replaced_iff`). A placeholder holds one opening bracket, its
first character. So the pieces of a text that is cut in front of such a bracket are
those of its two parts (`Piece.scanFrom_append`).
-/

namespace Trialbook.Rule

/-- A placeholder's name: letters, digits and underscores, of which the first is no
digit. -/
def IsName (name : List Char) : Prop :=
  ∃ first others, name = first :: others ∧ Piece.startsName first = true ∧
    ∀ c ∈ others, Piece.continuesName c = true

namespace Piece

variable {cs name rest : List Char}

theorem continuesName_of_isName (h : IsName name) : ∀ c ∈ name, continuesName c = true := by
  obtain ⟨first, others, rfl, hfirst, hothers⟩ := h
  refine List.forall_mem_cons.mpr ⟨?_, hothers⟩
  rw [continuesName, hfirst, Bool.true_or]

theorem takeWhile_continuesName (h : ∀ c ∈ name, continuesName c = true) (rest : List Char) :
    (name ++ '>' :: rest).takeWhile continuesName = name := by
  rw [List.takeWhile_append_of_pos h, List.takeWhile_cons_of_neg (by decide), List.append_nil]

theorem name?_eq_some_iff :
    name? cs = some name ↔ IsName name ∧ ∃ rest, cs = name ++ '>' :: rest := by
  constructor
  · intro h
    unfold name? at h
    dsimp only at h
    split at h
    · next first others rest hname hdrop =>
        split at h
        · next hfirst =>
            obtain rfl := Option.some.inj h
            refine ⟨⟨first, others, hname, hfirst, fun c hc => ?_⟩, rest, ?_⟩
            · exact List.mem_takeWhile_imp (hname ▸ List.mem_cons_of_mem first hc)
            · rw [← hdrop]
              exact (List.prefix_iff_eq_append.mp (List.takeWhile_prefix _)).symm
        · simp at h
    · simp at h
  · rintro ⟨hname, rest, rfl⟩
    have htake := takeWhile_continuesName (continuesName_of_isName hname) rest
    obtain ⟨first, others, rfl, hfirst, -⟩ := hname
    unfold name?
    dsimp only
    rw [htake, List.drop_left]
    exact if_pos hfirst

theorem notMem_of_isName (h : IsName name) : '<' ∉ name ++ ['>'] := by
  intro hmem
  rcases List.mem_append.mp hmem with hmem | hmem
  · exact absurd (continuesName_of_isName h _ hmem) (by decide)
  · exact absurd (List.mem_singleton.mp hmem) (by decide)

/-- A placeholder does not reach beyond an opening bracket. -/
theorem exists_of_name_append (hname : IsName name) {behind : List Char}
    (h : cs ++ '<' :: rest = name ++ '>' :: behind) : ∃ more, cs = name ++ '>' :: more := by
  rw [List.append_cons name] at h
  rcases List.append_eq_append_iff.mp h with ⟨more, hmore, hrest⟩ | ⟨more, hmore, -⟩
  · cases more with
    | nil => exact ⟨[], by rw [← List.append_nil cs, ← hmore]⟩
    | cons c more =>
        obtain ⟨rfl, -⟩ := List.cons.inj hrest
        exact absurd (hmore ▸ List.mem_append_right cs List.mem_cons_self) (notMem_of_isName hname)
  · exact ⟨more, by rw [hmore, List.append_assoc]; rfl⟩

theorem name?_append (cs rest : List Char) : name? (cs ++ '<' :: rest) = name? cs := by
  refine Option.ext fun name => ?_
  rw [name?_eq_some_iff, name?_eq_some_iff]
  refine and_congr_right fun hname => ⟨fun ⟨_, h⟩ => exists_of_name_append hname h, ?_⟩
  rintro ⟨behind, rfl⟩
  exact ⟨behind ++ '<' :: rest, by rw [List.append_assoc]; rfl⟩

/-! ## The pieces of a text -/

theorem scanFrom_append_of_length (read rest : List Char) :
    scanFrom read.length (read ++ rest) = scanFrom 0 rest := by
  induction read with
  | nil => rfl
  | cons c read ih => exact ih

theorem scanFrom_placeholder (hname : IsName name) (rest : List Char) :
    scanFrom 0 ('<' :: (name ++ '>' :: rest)) =
      .reference (String.ofList name) :: scanFrom 0 rest := by
  rw [scanFrom, if_pos rfl, name?_eq_some_iff.mpr ⟨hname, rest, rfl⟩]
  have hread : name ++ '>' :: rest = (name ++ ['>']) ++ rest := List.append_cons ..
  have hlength : name.length + 1 = (name ++ ['>']).length := by simp
  dsimp only
  rw [hread, hlength, scanFrom_append_of_length]

theorem scanFrom_char {c : Char}
    (h : ∀ name rest', IsName name → c :: rest ≠ '<' :: (name ++ '>' :: rest')) :
    scanFrom 0 (c :: rest) = .char c :: scanFrom 0 rest := by
  rw [scanFrom]
  split
  · next hc =>
      split
      · next name hfound =>
          obtain ⟨hname, rest', rfl⟩ := name?_eq_some_iff.mp hfound
          exact absurd (congrArg (· :: (name ++ '>' :: rest')) hc) (h name rest' hname)
      · rfl
  · rfl

/-- In front of an opening bracket a text can be cut. -/
theorem scanFrom_append (skipped : Nat) (cs rest : List Char) (h : skipped ≤ cs.length) :
    scanFrom skipped (cs ++ '<' :: rest) = scanFrom skipped cs ++ scanFrom 0 ('<' :: rest) := by
  induction skipped, cs using scanFrom.induct with
  | case1 skipped =>
      obtain rfl := Nat.le_zero.mp h
      simp [scanFrom]
  | case2 skipped c cs ih => exact ih (Nat.le_of_succ_le_succ h)
  | case3 cs name hname ih =>
      obtain ⟨-, more, hmore⟩ := name?_eq_some_iff.mp hname
      rw [List.cons_append, scanFrom, if_pos rfl, name?_append, hname, scanFrom, if_pos rfl, hname]
      refine congrArg _ (ih ?_)
      rw [hmore, List.length_append, List.length_cons]
      omega
  | case4 cs hnone ih =>
      rw [List.cons_append, scanFrom, if_pos rfl, name?_append, hnone, scanFrom, if_pos rfl, hnone]
      exact congrArg _ (ih (Nat.zero_le _))
  | case5 c cs hc ih =>
      rw [List.cons_append, scanFrom, if_neg hc, scanFrom, if_neg hc]
      exact congrArg _ (ih (Nat.zero_le _))

theorem flatMap_written_scanFrom (skipped : Nat) (cs : List Char) :
    (scanFrom skipped cs).flatMap written = cs.drop skipped := by
  induction skipped, cs using scanFrom.induct with
  | case1 skipped => simp [scanFrom]
  | case2 skipped c rest ih =>
      rw [scanFrom, ih]
      rfl
  | case3 rest name hname ih =>
      obtain ⟨-, others, rfl⟩ := name?_eq_some_iff.mp hname
      rw [scanFrom, if_pos rfl, hname]
      show written (.reference (String.ofList name)) ++ (scanFrom (name.length + 1)
        (name ++ '>' :: others)).flatMap written = '<' :: (name ++ '>' :: others)
      rw [ih, written, String.toList_ofList, ← List.drop_drop, List.drop_left]
      simp
  | case4 rest hnone ih =>
      rw [scanFrom, if_pos rfl, hnone]
      exact congrArg ('<' :: ·) ih
  | case5 c rest hc ih =>
      rw [scanFrom, if_neg hc]
      exact congrArg (c :: ·) ih

/-- The pieces of a text are the text. -/
theorem flatMap_written_scan (text : String) : (scan text).flatMap written = text.toList :=
  flatMap_written_scanFrom 0 text.toList

theorem isName_of_mem_scanFrom {skipped : Nat} {cs : List Char} {name : String}
    (h : .reference name ∈ scanFrom skipped cs) : IsName name.toList := by
  induction skipped, cs using scanFrom.induct with
  | case1 skipped => simp [scanFrom] at h
  | case2 skipped c rest ih =>
      rw [scanFrom] at h
      exact ih h
  | case3 rest found hfound ih =>
      rw [scanFrom, if_pos rfl, hfound] at h
      rcases List.mem_cons.mp h with h | h
      · rw [Piece.reference.inj h, String.toList_ofList]
        exact (name?_eq_some_iff.mp hfound).1
      · exact ih h
  | case4 rest hnone ih =>
      rw [scanFrom, if_pos rfl, hnone] at h
      exact ih (by simpa using h)
  | case5 c rest hc ih =>
      rw [scanFrom, if_neg hc] at h
      exact ih (by simpa using h)

end Piece

/-! ## Putting something in -/

/-- What becomes of the rest of a text, behind what has been read of it, with
something in place of every placeholder. -/
inductive Replaced (put : List Char → String → List Char) :
    List Char → List Char → List Char → Prop
  | done {before : List Char} : Replaced put before [] []
  | placeholder {before : List Char} {name : String} {rest text : List Char}
      (hname : IsName name.toList)
      (others : Replaced put (before ++ '<' :: (name.toList ++ ['>'])) rest text) :
      Replaced put before ('<' :: (name.toList ++ '>' :: rest)) (put before name ++ text)
  | char {before : List Char} {c : Char} {rest text : List Char}
      (hplain : ∀ name rest', IsName name → c :: rest ≠ '<' :: (name ++ '>' :: rest'))
      (others : Replaced put (before ++ [c]) rest text) :
      Replaced put before (c :: rest) (c :: text)

variable {put : List Char → String → List Char} {before cs text : List Char}

/-- The pieces, behind what has been read, with something in place of the
placeholders. -/
def replaceFrom (put : List Char → String → List Char) : List Char → List Piece → List Char
  | _, [] => []
  | before, .char c :: rest => c :: replaceFrom put (before ++ [c]) rest
  | before, .reference name :: rest =>
      put before name ++ replaceFrom put (before ++ '<' :: (name.toList ++ ['>'])) rest

theorem Replaced.eq (h : Replaced put before cs text) :
    text = replaceFrom put before (Piece.scanFrom 0 cs) := by
  induction h with
  | done => rfl
  | placeholder hname _ ih =>
      rw [Piece.scanFrom_placeholder hname, String.ofList_toList, replaceFrom, ih]
  | char hplain _ ih => rw [Piece.scanFrom_char hplain, replaceFrom, ih]

theorem replaced_replaceFrom (put : List Char → String → List Char) (before cs : List Char) :
    Replaced put before cs (replaceFrom put before (Piece.scanFrom 0 cs)) := by
  induction hlength : cs.length using Nat.strongRecOn generalizing before cs with
  | ind length ih =>
      subst hlength
      cases cs with
      | nil => exact .done
      | cons c rest =>
          by_cases hplain : ∀ name rest', IsName name → c :: rest ≠ '<' :: (name ++ '>' :: rest')
          · rw [Piece.scanFrom_char hplain, replaceFrom]
            exact .char hplain (ih _ (Nat.lt_succ_self _) _ _ rfl)
          · simp only [not_forall, not_not] at hplain
            obtain ⟨name, rest', hname, heq⟩ := hplain
            rw [heq, Piece.scanFrom_placeholder hname, replaceFrom]
            have hothers := ih rest'.length (by rw [heq]; simp; omega)
              (before ++ '<' :: ((String.ofList name).toList ++ ['>'])) rest' rfl
            have hread := Replaced.placeholder (by rwa [String.toList_ofList]) hothers
            rwa [String.toList_ofList] at hread ⊢

/-- A text is read in one way. -/
theorem replaced_iff : Replaced put before cs text ↔
    text = replaceFrom put before (Piece.scanFrom 0 cs) :=
  ⟨Replaced.eq, fun h => h ▸ replaced_replaceFrom put before cs⟩

theorem replaceFrom_append (before : List Char) (pieces others : List Piece) :
    replaceFrom put before (pieces ++ others) = replaceFrom put before pieces ++
      replaceFrom put (before ++ pieces.flatMap Piece.written) others := by
  induction pieces generalizing before with
  | nil => simp [replaceFrom]
  | cons piece rest ih =>
      cases piece with
      | char c => simp [replaceFrom, ih, Piece.written]
      | reference name => simp [replaceFrom, ih, Piece.written]

/-- A placeholder, with the text around it. -/
theorem replaceFrom_scanFrom_append {name : String} (hname : IsName name.toList)
    (read before behind : List Char) :
    replaceFrom put read (Piece.scanFrom 0 (before ++ '<' :: (name.toList ++ '>' :: behind))) =
      replaceFrom put read (Piece.scanFrom 0 before) ++ put (read ++ before) name ++
        replaceFrom put (read ++ before ++ '<' :: (name.toList ++ ['>']))
          (Piece.scanFrom 0 behind) := by
  rw [Piece.scanFrom_append 0 before _ (Nat.zero_le _), Piece.scanFrom_placeholder hname,
    String.ofList_toList, replaceFrom_append, Piece.flatMap_written_scanFrom, List.drop_zero,
    replaceFrom]
  simp only [List.append_assoc]

end Trialbook.Rule
