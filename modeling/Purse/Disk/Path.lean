import Purse.Text.Split

/-!
# Paths

A path is a text whose parts are set apart by slashes. Empty parts stand for nothing. A single dot
stands for the directory that it is met in, and two dots for the one above.
-/

namespace Purse

structure Path where
  text : String
  deriving DecidableEq, Inhabited

namespace Path

def isAbsolute (path : Path) : Bool :=
  path.text.toList.head? = some '/'

/-- The path of `part` seen from `base`. An absolute part stands for itself. -/
def join (base : Path) (part : String) : Path :=
  if (Path.mk part).isAbsolute || base.text.isEmpty then ⟨part⟩
  else if base.text.toList.getLast? = some '/' then ⟨base.text ++ part⟩
  else ⟨base.text ++ "/" ++ part⟩

/-- The parts of the path, dots among them. -/
def steps (path : Path) : List String :=
  ((Text.splitAll '/' path.text.toList).filter fun part => part ≠ []).map String.ofList

/-- The parts of the path without single dots. -/
def names (path : Path) : List String :=
  path.steps.filter fun step => step ≠ "."

def endsInSlash (path : Path) : Bool :=
  path.text.toList.getLast? = some '/'

/-- Whether the text holds the character that no path may hold. -/
def hasNul (path : Path) : Bool :=
  path.text.toList.contains '\x00'

/-- Drops slashes and dot parts from the front of a reversed path. -/
def dropEndReversed : List Char → List Char
  | '/' :: rest => dropEndReversed rest
  | '.' :: '/' :: rest => dropEndReversed rest
  | text => text

/-- A name up to its last dot, unless it has no dot after its first character. -/
def stem (name : List Char) : List Char :=
  match Text.splitLast? '.' name with
  | some ([], _) => name
  | some (before, _) => before
  | none => name

/-- The path with another extension. A path without a file name stays as it is. The extension goes
before the new one comes, and if only two dots are left at the end, they name no file and get no
extension. -/
def withExtension (path : Path) (extension : String) : Path :=
  let reversed := dropEndReversed path.text.toList.reverse
  let name := (reversed.takeWhile (· ≠ '/')).reverse
  let front := (reversed.dropWhile (· ≠ '/')).reverse
  if name = [] ∨ name = ['.'] ∨ name = ['.', '.'] then path
  else if stem name = ['.'] ∧ reversed = path.text.toList.reverse then
    ⟨String.ofList (front ++ ['.', '.'])⟩
  else ⟨String.ofList (front ++ stem name ++ '.' :: extension.toList)⟩

end Path

end Purse
