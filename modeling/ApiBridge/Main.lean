import ApiBridge.CommandLine.Run

/-!
# The program

What a run may look at is read into a host, the run is computed, and what it has done is carried
out. No server answers this program and no command is run by it: it makes files and prints.
-/

namespace ApiBridge.CommandLine

/-- The variables that a run may look at. -/
def environmentNames : List String :=
  ["NO_COLOR", "TERM", Settings.pathVariable]

def readEnvironment : IO (List (String × String)) := do
  let found ← environmentNames.mapM fun name => return (← IO.getEnv name).map (name, ·)
  return found.filterMap id

/-- The text of the input, line by line. -/
partial def readLines (input : IO.FS.Stream) (text : String) : IO String := do
  let line ← input.getLine
  if line.isEmpty then return text else readLines input (text ++ line)

def readInput : IO Input := do
  try return .text (← readLines (← IO.getStdin) "")
  catch e => return .unreadable (toString e)

/-- A tree with the file that a path leads to, if there is one. -/
def addFile (h : Host) (t : FileTree) (path : String) : IO FileTree := do
  let place := (h.absolute (Path.ofText path)).names
  try
    let bytes ← IO.FS.readBinFile path
    return { t with files := t.files ++ [(place, bytes.toList)] }
  catch
    | .permissionDenied .. =>
      return { t with files := t.files ++ [(place, [])], locked := t.locked ++ [place] }
    | _ => return t

/-- The host of a run with the given words: the files that are read are those that the words or the
environment name, and those of the working directory that settings come from. -/
def readHost (words : List String) : IO Host := do
  let environment ← readEnvironment
  let input ← if words.contains "-" then readInput else pure .missing
  let host : Host := {
    directory := Path.ofText (← IO.currentDir).toString
    tree := { files := [], directories := [] }
    environment := environment
    input := input
    fetch := fun _ => .failed "no server is asked"
    commands := []
    atTerminal := ← (← IO.getStdout).isTty }
  let paths := words.map (fun word => (word.splitOn "=").getLastD "") ++ environment.map (·.2)
    ++ [Settings.fileName, Settings.manifestName]
  let start : FileTree := { files := [], directories := [host.directory.names] }
  return { host with tree := ← (paths.filter (· ≠ "")).foldlM (addFile host) start }

/-- Write the files that are new or changed. -/
def writeFiles (before after : FileTree) : IO Unit := do
  for (place, bytes) in after.files do
    if before.fileAt? place != some bytes then
      let path : Path := ⟨"/", place⟩
      IO.FS.createDirAll path.parent.text
      IO.FS.writeBinFile path.text ⟨bytes.toArray⟩

end ApiBridge.CommandLine

open ApiBridge in
def main (words : List String) : IO UInt32 := do
  let host ← CommandLine.readHost words
  let outcome := CommandLine.run host words
  CommandLine.writeFiles host.tree outcome.tree
  for printed in outcome.printed do
    match printed with
    | .data text => IO.print text
    | .message text => IO.eprint text
  return outcome.exitCode.toUInt32
