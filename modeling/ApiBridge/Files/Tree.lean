import ApiBridge.Files.Path
import ApiBridge.Text.Quoted
import ApiBridge.Text.Utf8

/-!
# Trees of files

A tree holds files and directories at places, where a place is the list of names that leads to it
from the top. Names and paths have a greatest length. There may be files that cannot be opened and
directories that cannot be entered; in the others new files can be made. What is written goes to a
new file first, which then takes the place of the old one or is taken away.
-/

namespace ApiBridge

/-- Where something is in a tree. -/
abbrev Place := List String

/-- Files and directories. A directory that holds something need not be listed. -/
structure FileTree where
  files : List (Place × List UInt8)
  directories : List Place
  /-- Where a file cannot be opened; a new one that takes its place can. -/
  locked : List Place := []
  /-- Directories that cannot be entered: nothing below them can be looked at. -/
  closed : List Place := []
  deriving Repr, Inhabited

/-- Why a path leads to no place. -/
inductive PathFault
  /-- A directory on the way is not in the tree. -/
  | missing
  /-- A file is on the way. -/
  | notDirectory
  /-- A directory on the way cannot be entered. -/
  | denied
  | nameTooLong
  /-- A name holds the character with the code zero. -/
  | nullCharacter
  deriving DecidableEq, Repr

/-- Does the fault keep from telling whether something is there? With the others nothing is. -/
def PathFault.isObstacle : PathFault → Bool
  | .denied | .nameTooLong => true
  | .missing | .notDirectory | .nullCharacter => false

/-- Why a file cannot be read or written. -/
inductive FileError
  | unreachable (fault : PathFault) (path : String)
  /-- The file is there and cannot be opened. -/
  | locked (path : String)
  /-- A file is where a directory is to be made. -/
  | fileExists (path : String)
  /-- A directory is where a file is to be written. -/
  | isDirectory (path : String)
  /-- The new file could not take its place. -/
  | notReplaced (path : String)
  deriving DecidableEq, Repr

/-- The report of a file that cannot be read or written. -/
def FileError.message : FileError → String
  | .unreachable .missing path => "[Errno 2] No such file or directory: " ++ Text.quoted path
  | .unreachable .notDirectory path => "[Errno 20] Not a directory: " ++ Text.quoted path
  | .unreachable .denied path => "[Errno 13] Permission denied: " ++ Text.quoted path
  | .unreachable .nameTooLong path => "[Errno 36] File name too long: " ++ Text.quoted path
  | .unreachable .nullCharacter _ => "embedded null byte"
  | .locked path => "[Errno 13] Permission denied: " ++ Text.quoted path
  | .fileExists path => "[Errno 17] File exists: " ++ Text.quoted path
  | .isDirectory path => "[Errno 21] Is a directory: " ++ Text.quoted path
  | .notReplaced path => "[Errno 5] Input/output error: " ++ Text.quoted path

/-- The most bytes that a name may have. -/
def nameLimit : Nat := 255

/-- A path must have fewer bytes than this. -/
def pathLimit : Nat := 4096

namespace FileTree

/-! ### Looking -/

/-- The bytes of a file. -/
def fileAt? (t : FileTree) (p : Place) : Option (List UInt8) :=
  t.files.lookup p

/-- Is there a directory? Everything above a file or a directory is one. -/
def isDirectoryAt (t : FileTree) (p : Place) : Bool :=
  p.isEmpty || (t.files.any fun f => p.isPrefixOf f.1 && p != f.1)
    || t.directories.any p.isPrefixOf

/-- Follow names from a place. Only the last of them may lead to what is no directory. -/
def walk (t : FileTree) (p : Place) : List String → Except PathFault Place
  | [] => .ok p
  | n :: ns =>
    if t.isDirectoryAt p then
      if t.closed.contains p then .error .denied
      else if nameLimit < n.utf8ByteSize then .error .nameTooLong
      else t.walk (if n = ".." then p.dropLast else p ++ [n]) ns
    else .error (if (t.fileAt? p).isSome then .notDirectory else .missing)

/-- The place of a path, seen from the directory `base`. -/
def locate (t : FileTree) (base : Place) (p : Path) : Except PathFault Place :=
  if p.text.toList.contains '\x00' then .error .nullCharacter
  else if pathLimit ≤ p.text.utf8ByteSize then .error .nameTooLong
  else t.walk (if p.top = "" then base else []) p.names

/-- What looking for a file comes to. It may be impossible; and where there is a file, opening it
gives its bytes or fails. -/
abbrev Found := Except FileError (Option (Except FileError (List UInt8)))

/-- Look for the file that a path leads to, and open it. -/
def find (t : FileTree) (base : Place) (p : Path) : Found :=
  match t.locate base p with
  | .ok place =>
    .ok ((t.fileAt? place).map fun bytes =>
      if t.locked.contains place then .error (.locked p.text) else .ok bytes)
  | .error fault => if fault.isObstacle then .error (.unreachable fault p.text) else .ok none

/-! ### Writing -/

/-- Replace the file at a place. -/
def setFile (t : FileTree) (p : Place) (bytes : List UInt8) : FileTree :=
  { t with files :=
      if t.files.any (·.1 = p) then t.files.map fun f => if f.1 = p then (p, bytes) else f
      else t.files ++ [(p, bytes)] }

/-- Take the file at a place away. -/
def removeFile (t : FileTree) (p : Place) : FileTree :=
  { t with files := t.files.filter fun f => f.1 ≠ p }

/-- Set a file at a place that can be opened, whatever was there. -/
def replaceFile (t : FileTree) (p : Place) (bytes : List UInt8) : FileTree :=
  { t.setFile p bytes with locked := t.locked.filter (· ≠ p) }

/-- Let the file at the place `p` take the place `q`, over the file that is there. -/
def moveFile (t : FileTree) (p q : Place) : FileTree :=
  match t.fileAt? p with
  | some bytes => (t.removeFile p).replaceFile q bytes
  | none => t

/-- A tree after a step, and what made the step fail. -/
abbrev Written := FileTree × Option FileError

/-- Make a directory inside one that is there. -/
def makeOne (t : FileTree) (base : Place) (path : Path) : Except FileError FileTree :=
  match t.locate base path with
  | .error fault => .error (.unreachable fault path.text)
  | .ok place =>
    if (t.fileAt? place).isSome || t.isDirectoryAt place then .error (.fileExists path.text)
    else .ok { t with directories := t.directories ++ [place] }

/-- The outcome of making a directory, which does not matter if the directory is there. -/
def ensured (t : FileTree) (base : Place) (path : Path) : Except FileError FileTree → Written
  | .ok t => (t, none)
  | .error e =>
    match t.locate base path with
    | .ok place => (t, if t.isDirectoryAt place then none else some e)
    | .error _ => (t, some e)

/-- Make a directory, and those above it if the one above is missing. -/
def makeDirectory (t : FileTree) (base : Place) (path : Path) : Written :=
  match t.makeOne base path with
  | .error (.unreachable .missing shown) =>
    if _h : path.names = [] then (t, some (.unreachable .missing shown))
    else
      match t.makeDirectory base path.parent with
      | (t, some e) => (t, some e)
      | (t, none) => t.ensured base path (t.makeOne base path)
  | outcome => t.ensured base path outcome
termination_by path.names.length
decreasing_by
  simp only [Path.parent, List.length_dropLast]
  have := List.length_pos_iff.2 _h
  omega

/-! ### New files -/

/-- The name of the new file for a file, with the letters that are drawn for it. -/
def temporaryName (name letters : String) : String :=
  "." ++ name ++ "." ++ letters ++ ".tmp"

/-- The path of the new file for a path, without the letters that are drawn. -/
def temporaryPath (path : Path) : Path :=
  path.parent.child (temporaryName path.name "________")

/-- The letters of a draw: eight of them, as long as numbers of eight digits are enough. -/
def drawnLetters (n : Nat) : String :=
  String.ofList ((Nat.toDigits 10 n).leftpad 8 '_')

/-- Is nothing at a place? -/
def isFreeAt (t : FileTree) (p : Place) : Bool :=
  !(t.fileAt? p).isSome && !t.isDirectoryAt p

/-- The place of a new file in a directory: letters are drawn until nothing is there, which takes no
more draws than there are places in the tree, and one. -/
def freePlace (t : FileTree) (directory : Place) (name : String) : Place :=
  let drawn (n : Nat) : Place := directory ++ [temporaryName name (drawnLetters n)]
  let draws := List.range (t.files.length + t.directories.length + 1)
  drawn ((draws.find? fun n => t.isFreeAt (drawn n)).getD 0)

/-- Let the new file at the place `new` take the place of the file at a path; `stuck` says that it
cannot. -/
def replace (t : FileTree) (base : Place) (path : Path) (new : Place) (stuck : Bool) :
    Except FileError FileTree :=
  match t.locate base path with
  | .error fault => .error (.unreachable fault path.text)
  | .ok place =>
    if stuck then .error (.notReplaced path.text)
    else if t.isDirectoryAt place then .error (.isDirectory path.text)
    else .ok (t.moveFile new place)

/-- Write a file through a new file at a place: it is made, it gets the bytes, and it takes the
place of the old file. It is taken away again if it cannot. -/
def writeThrough (t : FileTree) (base : Place) (path : Path) (new : Place) (text : String)
    (stuck : Bool) : Written :=
  let created := t.setFile new []
  let filled := created.setFile new (Text.encode text)
  match filled.replace base path new stuck with
  | .ok replaced => (replaced, none)
  | .error e => (filled.removeFile new, some e)

/-- Write a file, making its directory first. -/
def write (t : FileTree) (base : Place) (path : Path) (text : String) (stuck : Bool) : Written :=
  match t.makeDirectory base path.parent with
  | (t, some e) => (t, some e)
  | (t, none) =>
    match t.locate base (temporaryPath path) with
    | .error fault => (t, some (.unreachable fault (temporaryPath path).text))
    | .ok shown => t.writeThrough base path (t.freePlace shown.dropLast path.name) text stuck

end FileTree

end ApiBridge
