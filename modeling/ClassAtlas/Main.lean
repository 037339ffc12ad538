import ClassAtlas.Command.Invoke

/-!
The command line. A command runs against the files named on standard input, one path a line,
each read into the file system it sees, relative paths from the working directory; the
variables `UNREAL_ENGINE_PATH`, `UNREAL_CUSTOM_CODEBASE` and `UNREAL_INDEX_CACHE_SIZE` are read
from the environment. What the command writes goes to standard output, and the kind of an
error that escapes to standard error.
-/

open ClassAtlas ClassAtlas.Command ClassAtlas.Files ClassAtlas.Index

def variableNames : List String :=
  ["UNREAL_ENGINE_PATH", "UNREAL_CUSTOM_CODEBASE", "UNREAL_INDEX_CACHE_SIZE"]

/-- The lines left on a stream, without their line breaks. -/
partial def remainingLines (stream : IO.FS.Stream) (acc : Array String) : IO (Array String) := do
  let line ← stream.getLine
  if line.isEmpty then return acc
  else
    let trimmed := String.ofList ((line.toList.reverse.dropWhile fun c => c = '\n' || c = '\r').reverse)
    remainingLines stream (if trimmed.isEmpty then acc else acc.push trimmed)

/-- A file system holding the working directory and the files named, each read as it is. -/
def loadFiles (workingDir : String) (paths : Array String) : IO Tree :=
  paths.foldlM (fun t path => do
    let located := if isRooted path then path else workingDir ++ "/" ++ path
    let bytes ← IO.FS.readBinFile located
    return t.write (resolvePath located) bytes) (Tree.empty.makeDirs (resolvePath workingDir))

/-- Runs a command line against the files named on standard input. -/
def main (args : List String) : IO UInt32 := do
  let workingDir := toString (← IO.currentDir)
  let paths ← remainingLines (← IO.getStdin) #[]
  let tree ← loadFiles workingDir paths
  let settings ← variableNames.filterMapM fun name => do
    return (← IO.getEnv name).map (name, ·)
  let transcript := invoke ⟨tree, workingDir, settings⟩ args
  IO.print transcript.output
  match transcript.escaped with
  | some kind => IO.eprintln kind
  | none => pure ()
  return transcript.exitCode.toUInt32
