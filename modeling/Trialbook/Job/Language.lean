/-!
# Source languages

The languages a compiler descriptor may offer a command for, most preferred
first, and how the extension of a file tells its language.
-/

namespace Trialbook

/-- A source language. -/
inductive Language where
  | f08 | f03 | f95 | f90 | f77 | fc | cxx | cc
  deriving DecidableEq, Repr, Inhabited

namespace Language

/-- Every language, most preferred first. -/
def byPreference : List Language := [f08, f03, f95, f90, f77, fc, cxx, cc]

/-- The tag by which descriptors and jobs name a language. -/
def tag : Language → String
  | f08 => "f08"
  | f03 => "f03"
  | f95 => "f95"
  | f90 => "f90"
  | f77 => "f77"
  | fc => "fc"
  | cxx => "cxx"
  | cc => "cc"

/-- The language of files with an extension. Case counts: `C` is not `c`. -/
def ofExtension? (extension : String) : Option Language :=
  match extension with
  | "f08" | "F08" => some f08
  | "f03" | "F03" => some f03
  | "f95" | "F95" => some f95
  | "f90" | "F90" => some f90
  | "f77" | "F77" => some f77
  | "f" | "F" | "for" | "FOR" | "ftn" => some fc
  | "cpp" | "cxx" | "cc" | "C" | "c++" | "hpp" | "hxx" => some cxx
  | "c" | "h" => some cc
  | _ => none

end Language

end Trialbook
