import Trialbook.Node.Basic
import Mathlib.Data.String.Basic

/-!
# Numbers are no words

A number is written with digits, a sign, a point and an exponent, and two values that have
no digits have words of their own. A key that is a number is therefore never taken for a
key that is one of the words `test`, `spack` and `module`.
-/

namespace Trialbook

open Decimal (Layout Binary64)

/-- The characters that a number may be written with. -/
def Number.IsNumeral (c : Char) : Prop := c.isDigit = true ∨ c ∈ ['-', '.', 'e', 'n', 'a', 'i', 'f']

instance : DecidablePred Number.IsNumeral := fun c =>
  inferInstanceAs (Decidable (c.isDigit = true ∨ c ∈ ['-', '.', 'e', 'n', 'a', 'i', 'f']))

/-- A text of such characters only. -/
def Number.Numeral (s : String) : Prop := ∀ c ∈ s.toList, IsNumeral c

instance : DecidablePred Number.Numeral := fun s =>
  List.decidableBAll Number.IsNumeral s.toList

namespace Number

theorem Numeral.append {s t : String} (hs : Numeral s) (ht : Numeral t) : Numeral (s ++ t) := by
  intro c hc
  rw [String.toList_append] at hc
  rcases List.mem_append.mp hc with hc | hc
  · exact hs c hc
  · exact ht c hc

theorem Numeral.ofList {cs : List Char} (h : ∀ c ∈ cs, IsNumeral c) :
    Numeral (String.ofList cs) := by
  intro c hc
  rw [String.toList_ofList] at hc
  exact h c hc

theorem numeral_repr (n : Nat) : Numeral (Nat.repr n) := by
  intro c hc
  rw [Nat.toList_repr] at hc
  exact Or.inl (Nat.isDigit_of_mem_toDigits (by decide : 0 < 10) (by decide) hc)

theorem numeral_minus : Numeral "-" := by decide

theorem numeral_toString (i : Int) : Numeral (toString i) := by
  rw [Int.toString_eq_repr, Int.repr_eq_if]
  split
  · exact numeral_repr _
  · exact numeral_minus.append (numeral_repr _)

theorem numeral_zeros (n : Nat) : Numeral (Layout.zeros n) :=
  .ofList fun c hc => Or.inl (by rw [List.eq_of_mem_replicate hc]; rfl)

theorem numeral_writePositional {digits : String} (h : Numeral digits) (exponent : Int) :
    Numeral (Layout.writePositional digits exponent) := by
  have hpoint : Numeral "." := by decide
  have hlead : Numeral "0." := by decide
  have htail : Numeral ".0" := by decide
  rw [Layout.writePositional]
  split
  · exact (h.append (numeral_zeros _)).append htail
  · split
    · exact ((Numeral.ofList fun c hc => h c (List.mem_of_mem_take hc)).append hpoint).append
        (.ofList fun c hc => h c (List.mem_of_mem_drop hc))
    · exact (hlead.append (numeral_zeros _)).append h

theorem numeral_writeScientific {digits : String} (h : Numeral digits) (exponent : Int) :
    Numeral (Layout.writeScientific digits exponent) := by
  have hpoint : Numeral "." := by decide
  have hmark : Numeral "e" := by decide
  rw [Layout.writeScientific]
  split
  · simp [Numeral]
  · next d hdigits =>
      have hd : Numeral d.toString := fun c hc => h c (by simpa [hdigits] using hc)
      exact (hd.append hmark).append (numeral_toString _)
  · next d rest _ hdigits =>
      have hd : Numeral d.toString := fun c hc => by
        obtain rfl : c = d := by simpa using hc
        exact h c (by simp [hdigits])
      have hrest : Numeral (String.ofList rest) := .ofList fun c hc => h c (by simp [hdigits, hc])
      exact (((hd.append hpoint).append hrest).append hmark).append (numeral_toString _)

theorem numeral_toText (n : Number) : Numeral n.toText := by
  cases n with
  | int value => exact numeral_toString value
  | float value =>
      cases value with
      | nan => exact (by decide : Numeral ".nan")
      | infinite negative =>
          cases negative with
          | false => exact (by decide : Numeral ".inf")
          | true => exact (by decide : Numeral "-.inf")
      | finite negative m q =>
          have hsign : Numeral (if negative then "-" else "") := by
            cases negative <;> decide
          refine hsign.append ?_
          split
          · decide
          · dsimp only
            split
            · exact numeral_writePositional (numeral_repr _) _
            · exact numeral_writeScientific (numeral_repr _) _

end Number

/-- A scalar whose text is a word with some other character is that word. -/
theorem Node.eq_text_of_scalarText? {n : Node} {word : String} (h : n.scalarText? = some word)
    (hother : ¬ Number.Numeral word) (hword : word ∉ ["null", "true", "false"]) :
    n = .text word := by
  cases n with
  | null => simp_all [scalarText?]
  | bool value => cases value <;> simp_all [scalarText?]
  | number value =>
      obtain rfl : value.toText = word := Option.some.inj h
      exact absurd value.numeral_toText hother
  | text s => rw [← Option.some.inj h]
  | sequence | mapping | tagged => simp [scalarText?] at h

end Trialbook
