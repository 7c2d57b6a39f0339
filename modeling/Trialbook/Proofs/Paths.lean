import Trialbook.Document.Path
import Mathlib.Data.List.Basic

/-!
# Dotted paths and their segments

A path is a text, but everything a document does with it happens on its
segments. This file shows that nothing is lost on the way: the segments of a
path put together give the path back, and segments without dots are the
segments of the path they make. The second half is about how a path grows as
a walk goes down a document, one `child` at a time.

The one place where growing is not appending is the empty path. It has the
empty segment, yet its child is the bare key, so a walk that starts there
forgets the empty keys it meets first.
-/

namespace Trialbook.Path

/-! ## Splitting -/

theorem splitAt_ne_nil (sep : Char) (cs : List Char) : splitAt sep cs ≠ [] := by
  cases cs with
  | nil => simp [splitAt]
  | cons c cs =>
      rw [splitAt]
      split
      · simp
      · split <;> simp

theorem splitAt_cons_of_ne {sep c : Char} {cs piece : List Char}
    {pieces : List (List Char)} (hc : c ≠ sep)
    (h : splitAt sep cs = piece :: pieces) :
    splitAt sep (c :: cs) = (c :: piece) :: pieces := by
  rw [splitAt, if_neg hc, h]

/-- A separator always ends a piece, whatever stands on its two sides. -/
theorem splitAt_append (sep : Char) (cs ds : List Char) :
    splitAt sep (cs ++ sep :: ds) = splitAt sep cs ++ splitAt sep ds := by
  induction cs with
  | nil => simp [splitAt]
  | cons c cs ih =>
      by_cases hc : c = sep
      · subst hc
        simp [splitAt, ih]
      · obtain ⟨piece, pieces, h⟩ := List.exists_cons_of_ne_nil (splitAt_ne_nil sep cs)
        rw [h] at ih
        rw [List.cons_append, splitAt_cons_of_ne hc ih, splitAt_cons_of_ne hc h]
        rfl

theorem splitAt_of_notMem {sep : Char} {cs : List Char} (h : sep ∉ cs) :
    splitAt sep cs = [cs] := by
  induction cs with
  | nil => rfl
  | cons c cs ih =>
      simp only [List.mem_cons, not_or] at h
      exact splitAt_cons_of_ne (Ne.symm h.1) (ih h.2)

theorem notMem_of_mem_splitAt {sep : Char} {cs piece : List Char}
    (h : piece ∈ splitAt sep cs) : sep ∉ piece := by
  induction cs generalizing piece with
  | nil =>
      rw [List.mem_singleton.mp h]
      exact List.not_mem_nil
  | cons c cs ih =>
      obtain ⟨first, others, hs⟩ := List.exists_cons_of_ne_nil (splitAt_ne_nil sep cs)
      rw [hs] at ih
      by_cases hc : c = sep
      · rw [splitAt, if_pos hc, hs] at h
        rcases List.mem_cons.mp h with rfl | h
        · exact List.not_mem_nil
        · exact ih h
      · rw [splitAt_cons_of_ne hc hs] at h
        rcases List.mem_cons.mp h with rfl | h
        · simp only [List.mem_cons, not_or]
          exact ⟨Ne.symm hc, ih List.mem_cons_self⟩
        · exact ih (List.mem_cons_of_mem _ h)

/-! ## Segments -/

/-- A key that reads as one segment. -/
def Dotless (key : String) : Prop := '.' ∉ key.toList

instance (key : String) : Decidable (Dotless key) :=
  inferInstanceAs (Decidable ('.' ∉ key.toList))

theorem segments_ne_nil (path : String) : segments path ≠ [] := by
  simp [segments, splitAt_ne_nil]

theorem dotless_of_mem_segments {path segment : String}
    (h : segment ∈ segments path) : Dotless segment := by
  obtain ⟨piece, hmem, rfl⟩ := List.mem_map.mp h
  rw [Dotless, String.toList_ofList]
  exact notMem_of_mem_splitAt hmem

theorem segments_of_dotless {key : String} (h : Dotless key) :
    segments key = [key] := by
  rw [segments, splitAt_of_notMem h, List.map_singleton, String.ofList_toList]

/-- Only an empty path and a path with a dot in front begin with an empty segment. -/
theorem head?_segments_ne_empty {path : String} (hne : path ≠ "")
    (hdot : path.toList.head? ≠ some '.') : (segments path).head? ≠ some "" := by
  obtain ⟨c, cs, hchars⟩ := List.exists_cons_of_ne_nil (mt String.toList_eq_nil_iff.mp hne)
  have hc : c ≠ '.' := by simpa [hchars] using hdot
  obtain ⟨piece, pieces, hsplit⟩ := List.exists_cons_of_ne_nil (splitAt_ne_nil '.' cs)
  rw [segments, hchars, splitAt_cons_of_ne hc hsplit, List.map_cons, List.head?_cons]
  simp

theorem segments_append_dot (path rest : String) :
    segments (path ++ "." ++ rest) = segments path ++ segments rest := by
  have hchars : (path ++ "." ++ rest).toList = path.toList ++ '.' :: rest.toList := by
    simp [String.toList_append]
  rw [segments, hchars, splitAt_append, List.map_append]
  rfl

theorem ofSegments_cons {segment : String} {rest : List String} (h : rest ≠ []) :
    ofSegments (segment :: rest) = segment ++ "." ++ ofSegments rest := by
  cases rest with
  | nil => exact absurd rfl h
  | cons next others => rfl

theorem toList_ofSegments_splitAt (cs : List Char) :
    (ofSegments ((splitAt '.' cs).map String.ofList)).toList = cs := by
  induction cs with
  | nil => rfl
  | cons c cs ih =>
      obtain ⟨piece, pieces, hs⟩ := List.exists_cons_of_ne_nil (splitAt_ne_nil '.' cs)
      by_cases hc : c = '.'
      · have hne : (splitAt '.' cs).map String.ofList ≠ [] := by simp [hs]
        rw [splitAt, if_pos hc, List.map_cons, ofSegments_cons hne]
        simp [String.toList_append, ih, hc]
      · rw [splitAt_cons_of_ne hc hs]
        rw [hs] at ih
        -- the first piece grows by one character, and so does the path
        cases pieces with
        | nil => simpa [ofSegments, String.toList_ofList] using ih
        | cons second others =>
            simpa [ofSegments, String.toList_append, String.toList_ofList] using ih

theorem ofSegments_segments (path : String) : ofSegments (segments path) = path := by
  rw [← String.toList_inj]
  exact toList_ofSegments_splitAt path.toList

/-! ## Going down -/

theorem child_of_ne_empty {path : String} (hpath : path ≠ "") (key : String) :
    child path key = path ++ "." ++ key := by
  rw [child, if_neg (by simpa [String.isEmpty_iff] using hpath)]

theorem child_ne_empty {path : String} (hpath : path ≠ "") (key : String) :
    child path key ≠ "" := by
  rw [child_of_ne_empty hpath, ← String.toList_inj.ne]
  simp [String.toList_append]

theorem segments_child {path key : String} (hpath : path ≠ "") (hkey : Dotless key) :
    segments (child path key) = segments path ++ [key] := by
  rw [child_of_ne_empty hpath, segments_append_dot, segments_of_dotless hkey]

/-- The path at the end of a walk down the given keys. -/
def descend (path : String) (keys : List String) : String := keys.foldl child path

theorem descend_nil (path : String) : descend path [] = path := rfl

theorem descend_cons (path key : String) (keys : List String) :
    descend path (key :: keys) = descend (child path key) keys := rfl

theorem descend_ne_empty {path : String} (hpath : path ≠ "") (keys : List String) :
    descend path keys ≠ "" := by
  induction keys generalizing path with
  | nil => exact hpath
  | cons key keys ih => exact ih (child_ne_empty hpath key)

theorem segments_descend {path : String} {keys : List String} (hpath : path ≠ "")
    (hkeys : ∀ key ∈ keys, Dotless key) :
    segments (descend path keys) = segments path ++ keys := by
  induction keys generalizing path with
  | nil => rw [descend_nil, List.append_nil]
  | cons key keys ih =>
      have hkey := hkeys key List.mem_cons_self
      have hrest : ∀ k ∈ keys, Dotless k := fun k hk => hkeys k (List.mem_cons_of_mem _ hk)
      rw [descend_cons, ih (child_ne_empty hpath key) hrest, segments_child hpath hkey,
        List.append_assoc, List.singleton_append]

end Trialbook.Path
