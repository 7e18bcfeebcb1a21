import UidPolicy.Program

/-!
# The command line

Reads the command line, the configuration file and the log filter of the environment, runs the
program on a machine with new maps, and writes what it shows.
-/

namespace UidPolicy

def readConfiguration (path : String) : IO (Except Errno FileTree) := do
  try
    let bytes ← IO.FS.readBinFile path
    pure (.ok (.file 0o100644 bytes.toList))
  catch
    | .noFileOrDirectory .. => pure (.error Errno.noEntry)
    | .inappropriateType .. => pure (.ok (.directory 0o40755 []))
    | _ => pure (.error Errno.inputOutput)

/-- Writes what a run shows, and answers its exit code. -/
def Report.write (r : Report) : IO UInt32 := do
  r.log.forM fun line => IO.eprintln (line.render r.format)
  IO.print r.stdout
  match r.failure with
  | none => pure 0
  | some failure => do
    IO.eprintln failure.render
    pure 1

/-- One run of the program. -/
def runProgram (args : List String) : IO UInt32 := do
  match Cli.parse args with
  | .error usage => do
    IO.eprintln s!"error: {usage.name}"
    pure (UInt32.ofNat usage.exitCode)
  | .ok invocation => do
    let found ← readConfiguration invocation.config
    let logFilter ← IO.getEnv "RUST_LOG"
    let env : Environment := ⟨.single invocation.config found, logFilter⟩
    (Program.run env invocation .fresh).1.write

end UidPolicy

def main (args : List String) : IO UInt32 := UidPolicy.runProgram args
