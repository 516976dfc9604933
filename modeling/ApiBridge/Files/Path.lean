import ApiBridge.Text.Lowercase

/-!
# Paths

A path is written as names with slashes between them. Empty names and single dots say nothing and
are left out; two dots lead back to the directory above.
-/

namespace ApiBridge

/-- A path as it is written. -/
structure Path where
  /-- The slashes at its start, if it starts at the top of all directories. -/
  top : String
  names : List String
  deriving DecidableEq, Repr, Inhabited

namespace Path

/-- The path that a text spells. Exactly two slashes at the start are kept as they are. -/
def ofText (s : String) : Path where
  top :=
    match s.toList with
    | '/' :: '/' :: '/' :: _ => "/"
    | '/' :: '/' :: _ => "//"
    | '/' :: _ => "/"
    | _ => ""
  names := ((s.toList.splitOn '/').map String.ofList).filter fun n => n ≠ "" && n ≠ "."

/-- The text of a path. The path without names is a dot. -/
def text (p : Path) : String :=
  if p.top = "" ∧ p.names = [] then "." else p.top ++ "/".intercalate p.names

/-- The path of something inside a directory. -/
def child (p : Path) (name : String) : Path :=
  { p with names := p.names ++ [name] }

/-- The directory that the path is in. -/
def parent (p : Path) : Path :=
  { p with names := p.names.dropLast }

/-- The last name. -/
def name (p : Path) : String :=
  p.names.getLastD ""

/-- What follows the last dot of a name, with the dot. A dot at the start or at the end of the name
does not count. -/
def suffix (p : Path) : String :=
  let after := p.name.toList.reverse.takeWhile (· ≠ '.')
  if after.isEmpty || p.name.length ≤ after.length + 1 then ""
  else String.ofList ('.' :: after.reverse)

example : (ofText "./a//b.tar.gz").text = "a/b.tar.gz" := by decide +kernel
example : (ofText "./a//b.tar.gz").suffix = ".gz" := by decide +kernel
example : (ofText ".json").suffix = "" := by decide +kernel

end Path

end ApiBridge
