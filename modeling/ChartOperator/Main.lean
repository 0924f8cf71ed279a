import ChartOperator.FileTree.Single
import ChartOperator.Log.Line
import ChartOperator.Startup.Process

/-!
# The program

Hands the command line, the environment and the configuration file to the operator, and writes what
it logs.  The program has no transport to a cluster, so a run ends where the client is needed.
-/

open ChartOperator

/-- The values of the variables that the operator reads. -/
def readEnvironment : IO Environment := do
  let values ← Variable.all.mapM fun v => do return (v.name, ← IO.getEnv v.name)
  return fun name => (values.lookup name).join

/-- The directory in which the program runs. -/
def readPlace : IO FileTree.Location := do
  let path := (← IO.currentDir).toString
  return ⟨(Path.components (Utf8.ofString path)).filter fun name => name ≠ []⟩

/-- The configuration file that a command line names, if it can be read. -/
def readFiles (arguments : List Argument) : IO FileTree := do
  match CommandLine.parse arguments with
  | .error _ => return FileTree.empty
  | .ok options =>
      match options.flags.configFile with
      | none => return FileTree.empty
      | some path =>
          try
            let content ← IO.FS.readBinFile path.display
            return FileTree.ofFile (← readPlace) path content.toList
          catch _ => return FileTree.empty

/-- Writes what a process writes to its standard output. -/
def writeOutput : Output → IO Unit
  | .text text => IO.print text
  | .events format events => events.forM fun event => IO.println (event.line format)

/-- The program. -/
def main (arguments : List String) : IO UInt32 := do
  let arguments := (Build.program :: arguments).map Utf8.ofString
  let sources : ConfigSources := {
    files := ← readFiles arguments
    environment := ← readEnvironment
    processors := 1 }
  let result := runProcess arguments {
    sources := sources
    cluster := .error (.noConfiguration ⟨"no transport to a cluster"⟩) }
  writeOutput result.output
  result.complaint.forM fun complaint => IO.eprintln complaint
  return result.exitCode.toUInt32
