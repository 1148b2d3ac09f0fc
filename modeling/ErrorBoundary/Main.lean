import ErrorBoundary.Launch.Program

/-!
# ErrorBoundary.Main

The command line. The settings are read from the files under `config` and from the environment;
the log goes to the standard output. No socket is opened: the system's answer to a server that asks
to listen is `Network.unprivileged`, and one that may listen is stopped when the standard input
ends.
-/

namespace ErrorBoundary

def readText? (path : String) : IO (Option String) := do
  try
    let bytes ← IO.FS.readBinFile path
    return some (Utf8.replaced bytes.toList)
  catch _ => return none

def readVariables : IO Environment := do
  try
    let bytes ← IO.FS.readBinFile "/proc/self/environ"
    return Environment.ofBlock bytes.toList
  catch _ => return []

/-- The files of settings that a deployment may use. -/
def readFiles (deployment : String) : IO Directory := do
  let paths := ConfigFile.candidates Config.defaultName ++ ConfigFile.candidates deployment
  let mut files : Directory := []
  for path in paths do
    if let some text ← readText? path then
      files := Members.put path text files
  return files

/-- What is said of a file that cannot be read, whatever is wrong with it. -/
def complaint (f : ConfigFile) : String := s!"no text of the format {f.format.extension}"

/-- Waits for the end of a stream. -/
partial def awaitEnd (input : IO.FS.Stream) : IO Unit := do
  let line ← input.getLine
  if line.isEmpty then return
  awaitEnd input

end ErrorBoundary

open ErrorBoundary

def main : IO UInt32 := do
  let vars ← readVariables
  let files ← readFiles (Program.deployment vars)
  let r := Program.run complaint files vars Network.unprivileged
  for line in r.standardError do
    IO.eprintln line
  for e in r.events do
    IO.println (r.format.line e)
  match r.exitCode with
  | some n => return UInt32.ofNat n
  | none =>
    awaitEnd (← IO.getStdin)
    for e in r.lastEvents do
      IO.println (r.format.line e)
    return 0
