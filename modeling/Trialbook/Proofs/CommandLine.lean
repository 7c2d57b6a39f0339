import Trialbook.Command.Run

/-!
# One option more on a command line

Options are read from left to right and each may be given once, so what an option
means does not depend on where it stands. For an option without a value this is
shown from both sides. Reading goes on in the same way when the option has been
given already (`read?_given`), and what stands before a command is read without a
look at what stands behind it (`exists_front_of_read?`).

Together these say that the command line of a migration that writes a file has a
counterpart that prints, with the option for it right behind the command
(`Invocation.exists_printing`).
-/

namespace Trialbook.Command

namespace Arguments

variable {specs : List OptionSpec} {a b : Arguments}

/-! ## What options amount to -/

/-- The arguments with an option in front that has no value. -/
def given (a : Arguments) (option : String) : Arguments :=
  { a with options := (option, "") :: a.options }

theorem get?_given_of_ne {option name : String} (h : name ≠ option) :
    (a.given option).get? name = a.get? name := by
  have hne : (name == option) = false := by simpa using h
  rw [given, get?, List.lookup_cons, hne, get?]

theorem has_given (option : String) : (a.given option).has option = true := by
  rw [given, has, get?, List.lookup_cons, beq_self_eq_true]
  rfl

theorem has_given_of_ne {option name : String} (h : name ≠ option) :
    (a.given option).has name = a.has name := by
  rw [has, has, get?_given_of_ne h]

theorem add?_eq_some {name value : String} (h : a.add? name value = some b) :
    a.has name = false ∧ b = { a with options := a.options ++ [(name, value)] } := by
  rw [add?] at h
  split at h
  · simp at h
  · next hnew => exact ⟨by simpa using hnew, (Option.some.inj h).symm⟩

theorem has_of_add? {name value : String} (h : a.add? name value = some b) (other : String) :
    b.has other = (a.has other || other == name) := by
  obtain ⟨-, rfl⟩ := add?_eq_some h
  rw [has, has, get?, get?, List.lookup_append]
  cases ha : a.options.lookup other with
  | some found => rfl
  | none =>
      rw [List.lookup_cons]
      cases other == name <;> rfl

theorem add?_given {option name value : String} (h : a.add? name value = some b)
    (hoption : b.has option = false) :
    (a.given option).add? name value = some (b.given option) := by
  have hname : name ≠ option := by
    rintro rfl
    rw [has_of_add? h] at hoption
    simp at hoption
  obtain ⟨hnew, rfl⟩ := add?_eq_some h
  rw [add?, has_given_of_ne hname, hnew]
  rfl

/-- An option's name and value by its argument and the next one, and whether the
latter is the value. -/
def optionOf? (specs : List OptionSpec) (argument : Argument) (next : Option String) :
    Option ((String × String) × Bool) :=
  (spec? specs argument).bind fun spec =>
    match spec.takesValue, ownValue? argument with
    | false, none => some ((spec.name, ""), false)
    | false, some _ => none
    | true, some value => some ((spec.name, value), false)
    | true, none => (next.filter Argument.isValue).map fun value => ((spec.name, value), true)

theorem addOption?_eq (a : Arguments) (argument : Argument) (next : Option String) :
    a.addOption? specs argument next =
      (optionOf? specs argument next).bind fun e => (a.add? e.1.1 e.1.2).map (·, e.2) := by
  rw [addOption?, optionOf?, Option.bind_eq_bind, Option.bind_assoc]
  refine Option.bind_congr fun spec _ => ?_
  have hreturn : ∀ (added : Option Arguments) (takes : Bool),
      (added >>= fun a => pure (a, takes)) = added.map (·, takes) := by
    intro added takes
    cases added <;> rfl
  cases spec.takesValue with
  | false =>
      cases ownValue? argument with
      | none => exact hreturn _ _
      | some _ => rfl
  | true =>
      cases ownValue? argument with
      | some value => exact hreturn _ _
      | none =>
          cases next.filter Argument.isValue with
          | none => rfl
          | some value => exact hreturn _ _

theorem exists_add?_of_addOption? {argument : Argument} {next : Option String} {takes : Bool}
    (h : a.addOption? specs argument next = some (b, takes)) :
    ∃ name value, optionOf? specs argument next = some ((name, value), takes) ∧
      a.add? name value = some b := by
  rw [addOption?_eq, Option.bind_eq_some_iff] at h
  obtain ⟨⟨⟨name, value⟩, takes'⟩, hentry, h⟩ := h
  obtain ⟨c, hadd, h⟩ := Option.map_eq_some_iff.mp h
  obtain ⟨rfl, rfl⟩ := Prod.mk.inj h
  exact ⟨name, value, hentry, hadd⟩

theorem addOption?_given {argument : Argument} {next : Option String} {takes : Bool}
    {option : String} (h : a.addOption? specs argument next = some (b, takes))
    (hoption : b.has option = false) :
    (a.given option).addOption? specs argument next = some (b.given option, takes) := by
  obtain ⟨name, value, hentry, hadd⟩ := exists_add?_of_addOption? h
  rw [addOption?_eq, hentry, Option.bind_some, add?_given hadd hoption]
  rfl

/-! ## Reading on -/

section

variable {upToWord : Bool} {text : String} {next : Arguments}
  (hseparator : Argument.ofText text ≠ .separator)
  (hword : ∀ word, Argument.ofText text ≠ .word word)

include hseparator hword

theorem read?_option {rest : List String}
    (h : a.addOption? specs (Argument.ofText text) rest.head? = some (next, false)) :
    read? specs upToWord (text :: rest) a = read? specs upToWord rest next := by
  rw [read?]
  split
  · next heq => exact absurd heq hseparator
  · next heq => exact absurd heq (hword _)
  · rw [h]

theorem read?_valued {value : String} {rest : List String}
    (h : a.addOption? specs (Argument.ofText text) (some value) = some (next, true)) :
    read? specs upToWord (text :: value :: rest) a = read? specs upToWord rest next := by
  rw [read?]
  split
  · next heq => exact absurd heq hseparator
  · next heq => exact absurd heq (hword _)
  · rw [List.head?_cons, h]

end

/-- Options that have been given stay. -/
theorem has_of_read? {upToWord : Bool} {arguments rest : List String}
    (h : read? specs upToWord arguments a = some (b, rest)) {name : String}
    (hname : a.has name = true) : b.has name = true := by
  have hadded : ∀ {a next : Arguments} {argument : Argument} {following : Option String}
      {takes : Bool}, a.addOption? specs argument following = some (next, takes) →
      a.has name = true → next.has name = true := by
    intro a next argument following takes hadd hname
    obtain ⟨_, _, -, hadd⟩ := exists_add?_of_addOption? hadd
    rw [has_of_add? hadd, hname, Bool.true_or]
  fun_induction read? specs upToWord arguments a with
  | case1 a => rwa [← (Prod.mk.inj (Option.some.inj h)).1]
  | case2 text rest a => rwa [← (Prod.mk.inj (Option.some.inj h)).1]
  | case3 text rest a => rwa [← (Prod.mk.inj (Option.some.inj h)).1]
  | case4 text rest a => rwa [← (Prod.mk.inj (Option.some.inj h)).1]
  | case5 text rest a word hword hup ih => exact ih h hname
  | case6 text rest a hseparator hword hnone => rw [hnone] at h; simp at h
  | case7 text a next rest hseparator hword hadd ih =>
      rw [hadd] at h
      exact ih h (hadded hadd hname)
  | case8 text a next value rest hseparator hword hadd ih =>
      rw [hadd] at h
      exact ih h (hadded hadd hname)
  | case9 text a next hseparator hword hadd => rw [hadd] at h; simp at h

/-- An option that is not among the arguments may have been given before them. -/
theorem read?_given {arguments rest : List String} {option : String}
    (h : read? specs false arguments a = some (b, rest)) (hoption : b.has option = false) :
    read? specs false arguments (a.given option) = some (b.given option, rest) := by
  have habsent : ∀ {next : Arguments} {arguments : List String},
      read? specs false arguments next = some (b, rest) → next.has option = false := by
    intro next arguments h
    cases hhas : next.has option with
    | false => rfl
    | true => rw [← hoption, has_of_read? h hhas]
  fun_induction read? specs false arguments a with
  | case1 a =>
      obtain ⟨rfl, rfl⟩ := Prod.mk.inj (Option.some.inj h)
      rw [read?]
  | case2 text rest a hsep hup => simp at hup
  | case3 text others a hsep hup =>
      obtain ⟨rfl, rfl⟩ := Prod.mk.inj (Option.some.inj h)
      rw [read?, hsep]
      rfl
  | case4 text rest a word hword hup => simp at hup
  | case5 text others a word hword hup ih =>
      rw [read?, hword]
      exact ih h
  | case6 text rest a hseparator hword hnone => rw [hnone] at h; simp at h
  | case7 text a next others hseparator hword hadd ih =>
      rw [hadd] at h
      rw [read?_option hseparator hword (addOption?_given hadd (habsent h))]
      exact ih h
  | case8 text a next value others hseparator hword hadd ih =>
      rw [hadd] at h
      rw [read?_valued hseparator hword (addOption?_given hadd (habsent h))]
      exact ih h
  | case9 text a next hseparator hword hadd => rw [hadd] at h; simp at h

/-- What stands before a command is read in the same way whatever stands behind it. -/
theorem exists_front_of_read? {arguments rest : List String} {command : String}
    (h : read? specs true arguments a = some (b, command :: rest)) :
    ∃ front, arguments = front ++ command :: rest ∧
      ∀ rest', read? specs true (front ++ command :: rest') a = some (b, command :: rest') := by
  fun_induction read? specs true arguments a with
  | case1 a => simp at h
  | case2 text rest a hsep hup =>
      obtain ⟨rfl, hrest⟩ := Prod.mk.inj (Option.some.inj h)
      obtain ⟨rfl, rfl⟩ := List.cons.inj hrest
      refine ⟨[], rfl, fun rest' => ?_⟩
      rw [List.nil_append, read?, hsep]
      rfl
  | case3 text others a hsep hup => simp at hup
  | case4 text others a word hword hup =>
      obtain ⟨rfl, hrest⟩ := Prod.mk.inj (Option.some.inj h)
      obtain ⟨rfl, rfl⟩ := List.cons.inj hrest
      refine ⟨[], rfl, fun rest' => ?_⟩
      rw [List.nil_append, read?, hword]
      rfl
  | case5 text others a word hword hup ih => simp at hup
  | case6 text rest a hseparator hword hnone => rw [hnone] at h; simp at h
  | case7 text a next others hseparator hword hadd ih =>
      rw [hadd] at h
      obtain ⟨front, rfl, hfront⟩ := ih h
      refine ⟨text :: front, rfl, fun rest' => ?_⟩
      have hhead : (front ++ command :: rest').head? = (front ++ command :: rest).head? := by
        cases front <;> rfl
      rw [List.cons_append, read?_option hseparator hword (by rw [hhead]; exact hadd), hfront]
  | case8 text a next value others hseparator hword hadd ih =>
      rw [hadd] at h
      obtain ⟨front, rfl, hfront⟩ := ih h
      refine ⟨text :: value :: front, rfl, fun rest' => ?_⟩
      rw [List.cons_append, List.cons_append, read?_valued hseparator hword hadd, hfront]
  | case9 text a next hseparator hword hadd => rw [hadd] at h; simp at h

/-! ## What a command is asked for -/

theorem file?_given_of_ne {option name : String} (h : name ≠ option) :
    (a.given option).file? name = a.file? name := by
  rw [file?, file?, get?_given_of_ne h]

theorem print_of_conversion? {c : Conversion} (h : a.conversion? = some c) :
    c.print = a.has "stdout" := by
  obtain ⟨name, -, h⟩ := Option.bind_eq_some_iff.mp h
  obtain ⟨kind, -, h⟩ := Option.bind_eq_some_iff.mp h
  obtain ⟨table, -, h⟩ := Option.bind_eq_some_iff.mp h
  obtain ⟨input, -, h⟩ := Option.bind_eq_some_iff.mp h
  obtain rfl := Option.some.inj h
  rfl

theorem conversion?_given {c : Conversion} (h : a.conversion? = some c) :
    (a.given "stdout").conversion? = some { c with print := true } := by
  obtain ⟨name, hname, h⟩ := Option.bind_eq_some_iff.mp h
  obtain ⟨kind, hkind, h⟩ := Option.bind_eq_some_iff.mp h
  obtain ⟨table, htable, h⟩ := Option.bind_eq_some_iff.mp h
  obtain ⟨input, hinput, h⟩ := Option.bind_eq_some_iff.mp h
  obtain rfl := Option.some.inj h
  refine Option.bind_eq_some_iff.mpr ⟨name, (get?_given_of_ne (by decide)).trans hname, ?_⟩
  refine Option.bind_eq_some_iff.mpr ⟨kind, hkind, ?_⟩
  refine Option.bind_eq_some_iff.mpr ⟨table, (file?_given_of_ne (by decide)).trans htable, ?_⟩
  refine Option.bind_eq_some_iff.mpr ⟨input, hinput, ?_⟩
  rw [has_given, has_given_of_ne (by decide)]
  rfl

end Arguments

theorem eq_convert_of_taskOf? {command : String} {rest : List String} {a : Arguments}
    {c : Conversion} (h : taskOf? command rest = some (a, .convert c)) :
    command = "convert" ∧ a.conversion? = some c ∧
      ∃ left, Arguments.read? conversionOptions false rest {} = some (a, left) := by
  unfold taskOf? at h
  split at h
  · obtain ⟨⟨b, left⟩, hread, h⟩ := Option.bind_eq_some_iff.mp h
    obtain ⟨d, hconversion, h⟩ := Option.bind_eq_some_iff.mp h
    obtain ⟨rfl, htask⟩ := Prod.mk.inj (Option.some.inj h)
    obtain rfl := Task.convert.inj htask
    exact ⟨rfl, hconversion, left, hread⟩
  · obtain ⟨⟨b, left⟩, hread, h⟩ := Option.bind_eq_some_iff.mp h
    obtain ⟨e, hexpansion, h⟩ := Option.bind_eq_some_iff.mp h
    simp at h
  · simp at h

theorem taskOf?_printing {rest : List String} {a : Arguments} {c : Conversion}
    (h : taskOf? "convert" rest = some (a, .convert c)) (hprint : c.print = false) :
    taskOf? "convert" ("--stdout" :: rest) =
      some (a.given "stdout", .convert { c with print := true }) := by
  obtain ⟨-, hconversion, left, hread⟩ := eq_convert_of_taskOf? h
  have habsent : a.has "stdout" = false := by
    rw [← Arguments.print_of_conversion? hconversion, hprint]
  have hform : Argument.ofText "--stdout" = .named "stdout" none := by decide
  have hread' : Arguments.read? conversionOptions false ("--stdout" :: rest) {} =
      some (a.given "stdout", left) := by
    have hadd : Arguments.addOption? {} conversionOptions (Argument.ofText "--stdout") rest.head? =
        some (Arguments.given {} "stdout", false) := by
      rw [hform]
      rfl
    rw [Arguments.read?_option (by simp [hform]) (by simp [hform]) hadd]
    exact Arguments.read?_given hread habsent
  refine Option.bind_eq_some_iff.mpr ⟨_, hread', ?_⟩
  exact Option.bind_eq_some_iff.mpr ⟨_, Arguments.conversion?_given hconversion, rfl⟩

/-- A command line for a migration that writes a file, and the one that prints. -/
theorem Invocation.exists_printing {arguments : List String} {settings : Option String}
    {c : Conversion} (h : ofArguments? arguments = some ⟨settings, .convert c⟩)
    (hprint : c.print = false) :
    ∃ front rest, arguments = front ++ "convert" :: rest ∧
      ofArguments? (front ++ "convert" :: "--stdout" :: rest) =
        some ⟨settings, .convert { c with print := true }⟩ := by
  obtain ⟨⟨before, left⟩, hbefore, h⟩ := Option.bind_eq_some_iff.mp h
  obtain ⟨command, hcommand, h⟩ := Option.bind_eq_some_iff.mp h
  obtain ⟨⟨behind, task⟩, htask, h⟩ := Option.bind_eq_some_iff.mp h
  obtain ⟨outer, houter, h⟩ := Option.bind_eq_some_iff.mp h
  obtain ⟨inner, hinner, h⟩ := Option.bind_eq_some_iff.mp h
  obtain ⟨rfl, rfl⟩ := Invocation.mk.inj (Option.some.inj h)
  obtain ⟨rest, rfl⟩ : ∃ rest, left = command :: rest := by
    cases left with
    | nil => simp at hcommand
    | cons head rest =>
        obtain rfl := Option.some.inj hcommand
        exact ⟨rest, rfl⟩
  obtain ⟨rfl, -, -⟩ := eq_convert_of_taskOf? htask
  obtain ⟨front, rfl, hfront⟩ := Arguments.exists_front_of_read? hbefore
  refine ⟨front, rest, rfl, ?_⟩
  refine Option.bind_eq_some_iff.mpr ⟨_, hfront ("--stdout" :: rest), ?_⟩
  refine Option.bind_eq_some_iff.mpr ⟨_, rfl, ?_⟩
  refine Option.bind_eq_some_iff.mpr ⟨_, taskOf?_printing htask hprint, ?_⟩
  refine Option.bind_eq_some_iff.mpr ⟨outer, houter, ?_⟩
  refine Option.bind_eq_some_iff.mpr ⟨inner, ?_, rfl⟩
  rw [Arguments.file?_given_of_ne (by decide)]
  exact hinner

end Trialbook.Command
