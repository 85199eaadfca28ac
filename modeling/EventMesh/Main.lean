import EventMesh.Cli.Session
import Std.Time.DateTime.Timestamp

/-!
The program: it reads the files and variables that a session looks at, carries the session out and
prints what it answers.
-/

open EventMesh

/-- What a path leads to. -/
def lookAt (path : String) : IO Config.FileContent := do
  try
    return .bytes (← IO.FS.readBinFile path)
  catch
    | .permissionDenied .. => return .unreadable "Permission denied (os error 13)"
    | _ => return .missing

/-- The time of day. -/
def timeOfDay : IO Time.Wall := do
  let now ← Std.Time.Timestamp.now
  return Time.Wall.shift ⟨0, 0⟩ now.toNanosecondsSinceUnixEpoch.val

/-- What a session sees of the system. -/
def surroundings (words : List String) (directory : String) : IO Config.Surroundings := do
  let home := (← IO.getEnv "HOME").getD ""
  let files ← (Cli.filesToRead words home directory).mapM fun path => return (path, ← lookAt path)
  let settings ← Config.variableNames.mapM fun name => return (name, ← IO.getEnv name)
  return { home
           file path := (files.lookup path).getD .missing
           text? name := (settings.lookup name).join }

def main (words : List String) : IO UInt32 := do
  let directory := toString (← IO.currentDir)
  let finish := Cli.session (← surroundings words directory) directory (← timeOfDay) words
  IO.sleep (UInt32.ofNat (min finish.millis 4294967295))
  IO.print finish.output
  IO.eprint finish.errors
  return finish.code.toUInt32
