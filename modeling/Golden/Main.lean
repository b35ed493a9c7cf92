/-
This file is the command line as it is run. It reads the files below the working
directory, carries out the command line on them, writes back what changed, prints
what was written, and ends with the exit code. All decisions are made elsewhere.
-/

import Golden.Program
import Golden.Shell.Launch

namespace Golden

/-- The files below a directory of the machine, each with the names on its way. -/
partial def readTree (directory : IO.FS.DirEntry) (location : Location) :
    IO (List (Location × Node)) := do
  if ← directory.path.isDir then
    let mut entries : List (Location × Node) := [(location, .directory)]
    for entry in ← directory.path.readDir do
      entries := entries ++ (← readTree entry (location ++ [entry.fileName]))
    return entries
  else
    let content ← IO.FS.readBinFile directory.path
    return [(location, .file content.toList)]

/-- The files below the working directory. -/
def readFiles : IO Files := do
  let mut entries : List (Location × Node) := []
  for entry in ← (← IO.currentDir).readDir do
    entries := entries ++ (← readTree entry [entry.fileName])
  return ⟨entries⟩

/-- Makes the files below the working directory those of the second tree. -/
def writeBack (before after : Files) : IO Unit := do
  for (location, node) in before.entries do
    if (after.find? location).isNone && node != .directory then
      IO.FS.removeFile ("/".intercalate location)
  for (location, node) in after.entries do
    match node with
    | .directory | .emptyDevice => pure ()
    | .file content =>
      if before.find? location ≠ some node then
        IO.FS.writeBinFile ("/".intercalate location) (ByteArray.mk content.toArray)

end Golden

/-- Carries out the command line in the working directory. -/
def main (arguments : List String) : IO UInt32 := do
  let files ← Golden.readFiles
  let (exit, world) :=
    Golden.Program.carryOut Golden.Shell.launch Golden.Run.Timing.none arguments ⟨files, ()⟩
  Golden.writeBack files world.files
  IO.print exit.written.out
  IO.eprint exit.written.err
  return exit.code.toUInt32
