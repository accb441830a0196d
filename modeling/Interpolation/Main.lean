import Interpolation.Command

/-!
# The program

Carries out the command line it is started with. What the run can see is gathered first – the environment, the
standard input if an operand stands for it, and the files at or below the paths that the request names – then
the run itself is the pure function `Interpolation.Command.run`, and what it leaves behind is written out.
-/

namespace Interpolation.Program

open Command

/-- The variables that a run looks at. -/
def variableNames : List String := [directoryVariable, depthVariable, colourVariable, "HOME"]

/-- The variables of the environment that are set. -/
def environment : IO Environment := do
  let values ← variableNames.filterMapM fun name => do
    return (← IO.getEnv name).map (name, ·)
  return ⟨values⟩

/-- All that can still be read from a stream. -/
partial def readAll (stream : IO.FS.Stream) (done : ByteArray) : IO ByteArray := do
  let chunk ← stream.read 65536
  if chunk.isEmpty then return done else readAll stream (done ++ chunk)

/-- The text of an absolute path to a place. -/
def textOf (place : List String) : String := "/" ++ "/".intercalate place

/-- What lies at or below a place, which is entered no deeper than the given number of levels. -/
def gather : Nat → List String → IO (List (List String × Entry))
  | 0, _ => return []
  | levels + 1, place => do
    let there := (← IO.currentDir) / textOf place
    if ← there.isDir then
      let below ← there.readDir
      let found ← below.toList.mapM fun entry => gather levels (place ++ [entry.fileName])
      return (place, .directory) :: found.flatten
    else if ← there.pathExists then
      try
        return [(place, .file (← IO.FS.readBinFile there))]
      catch _ =>
        return [(place, .locked)]
    else
      return []

/-- How many levels of directories are entered. -/
def deepest : Nat := 256

/-- The place behind one step along a path. -/
def stepFrom (place : List String) : Component → List String
  | .root => []
  | .here => place
  | .up => place.dropLast
  | .name name => place ++ [name]

/-- The places that a path leads through from the given place, the last one first. -/
def placesOf (here : List String) (path : Path) : List (List String) :=
  path.components.foldl (fun places component => stepFrom (places.headD here) component :: places) [here]

/-- The directories among several places. -/
def directories (places : List (List String)) : IO (List (List String × Entry)) :=
  places.filterMapM fun place => do
    let there := (← IO.currentDir) / textOf place
    return if ← there.isDir then some (place, .directory) else none

/-- The files that a request can see. -/
def filesFor (request : Request) : IO Files := do
  let here := (placesOf [] ⟨(← IO.currentDir).toString⟩).headD []
  let found ← request.paths.mapM fun path => do
    match placesOf here path with
    | last :: passed => return (← directories passed) ++ (← gather deepest last)
    | [] => return []
  return .ofEntries here found.flatten

/-- Whether a request reads the standard input. -/
def readsInput (request : Request) : Bool := request.paths.any (·.text == standardInput)

/-- What a run with the given words can see. -/
def contextFor (words : List String) : IO Context := do
  let environment ← environment
  match Request.read words environment with
  | .error _ => return ⟨words, environment, .empty, .ofEntries [] []⟩
  | .ok request =>
    let input ← if readsInput request then readAll (← IO.getStdin) .empty else pure .empty
    return ⟨words, environment, input, ← filesFor request⟩

/-- Writes the files that a run has changed. -/
def writeChanges (before after : Files) : IO Unit := do
  for ((place, old), (_, new)) in before.entries.zip after.entries do
    match old, new with
    | .file old, .file new => if old != new then IO.FS.writeBinFile (textOf place) new
    | _, _ => pure ()

end Interpolation.Program

open Interpolation Program in
/-- **The program.** -/
def main (words : List String) : IO UInt32 := do
  let context ← contextFor words
  let outcome := Command.run context
  writeChanges context.files outcome.files
  (← IO.getStdout).putStr outcome.output
  (← IO.getStderr).putStr outcome.errors
  return UInt32.ofNat outcome.code
