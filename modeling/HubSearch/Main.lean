/-
The command line: it takes its configuration from flags and environment, reads Search objects from
standard input, one per line, and rehearses the reconcile of each.
-/
import HubSearch.Cluster.Rehearsal
import HubSearch.Config.Arguments

namespace HubSearch

/-- The environment variables that the configuration looks at. -/
def environment : IO (Dict String) :=
  Setting.all.foldlM (fun env setting => do
    match ← IO.getEnv setting.variableName with
    | some value => pure (env.insert setting.variableName value)
    | none => pure env) .empty

/-- Rehearse every line of the input. -/
partial def rehearseLines (config : OperatorConfig) (input output : IO.FS.Stream) : IO Unit := do
  let line ← input.getLine
  unless line.isEmpty do
    (Rehearsal.answer config line).forM output.putStrLn
    rehearseLines config input output

end HubSearch

open HubSearch in
/-- Run the command line. Flags that give no configuration end it with code 2. -/
def main (arguments : List String) : IO UInt32 := do
  match OperatorConfig.parse? arguments (← environment) with
  | .ok config => do
    rehearseLines config (← IO.getStdin) (← IO.getStdout)
    pure 0
  | .error e => do
    (← IO.getStderr).putStrLn e.notice
    pure (if e = .helpAsked ∨ e = .versionAsked then 0 else 2)
