import LitMesh.Demo

/-!
# Command line

Runs the demo, with the configuration file named by the first argument if there is one. The log goes
to standard error; the variable `LITMESH_LOG` sets its level, which is `info` otherwise.
-/

open LitMesh

/-- The input that the arguments ask for. -/
def readInput : List String → IO Demo.Input
  | [] => return .default
  | path :: _ => do
    let bytes ← (some <$> IO.FS.readBinFile path) <|> pure none
    return .file path bytes

def main (args : List String) : IO UInt32 := do
  let level ← IO.getEnv "LITMESH_LOG"
  let filter := (level.bind Filter.ofName?).getD (.upTo .info)
  match Demo.run (← readInput args) with
  | .ok log =>
    for line in logLines filter log do
      IO.eprintln line
    return 0
  | .error e =>
    IO.eprintln s!"Error: {e.message}"
    return 1
