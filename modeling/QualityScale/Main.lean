import QualityScale.Command.Run

/-!
# The program

The outermost layer.  The names of the files of a checkout come on standard input, one a line, as
in `find . -type f | iqs validate`; everything else is decided by `Command.run`.
-/

namespace QualityScale.Program

/-- The lines of a stream up to its end. -/
partial def readLines (stream : IO.FS.Stream) (lines : Array String) : IO (Array String) := do
  let line ← stream.getLine
  if line.isEmpty then return lines
  else readLines stream (lines.push (line.dropEndWhile (· == '\n')).toString)

/-- The named files with their bytes, as far as they can be read. -/
def readFiles (names : Array String) : IO FileTree := do
  let mut files := FileTree.empty []
  for name in names do
    try
      files := files.write ⟨name⟩ (← IO.FS.readBinFile name)
    catch _ =>
      files := files.makeDirectory ⟨name⟩
  return files

/-- What the environment holds for the program. -/
def readEnvironment : IO Command.Environment := do
  return {
    root := ← IO.getEnv "HASSFEST_ROOT"
    exemptions := ← IO.getEnv "IQS_EXEMPTIONS"
    log := ← IO.getEnv "IQS_LOG" }

/-- The files that a command line needs. -/
def neededFiles (environment : Command.Environment) (arguments : List String) : IO FileTree :=
  match Command.Request.ofArguments? environment arguments with
  | some { action := .validate .., .. } => do
    readFiles (← readLines (← IO.getStdin) #[])
  | _ => return FileTree.empty []

end QualityScale.Program

open QualityScale in
/-- Runs a command line. -/
def main (arguments : List String) : IO UInt32 := do
  let environment ← Program.readEnvironment
  let files ← Program.neededFiles environment arguments
  let result := Command.run files environment arguments
  let stderr ← IO.getStderr
  for e in result.trace do
    stderr.putStrLn e.toJson.compactText
  (← IO.getStdout).putStr result.output
  if let some failure := result.failure then
    stderr.putStrLn failure.text
  return result.code.toUInt32
