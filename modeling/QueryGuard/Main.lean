import QueryGuard.CommandLine.Session

/-!
The command line. No driver is built in, so the commands that need a database end with the
report that there is none for the scheme of its address.
-/

open QueryGuard CommandLine

/-- The variables of the environment that are looked at. -/
def variableNames : List String :=
  ["DATABASE_URL", "SQLGATE_LOG", "AUDIT_LOG_PATH"] ++ Credential.keyNames

def readEnvironment : IO (List (String × String)) :=
  variableNames.filterMapM fun name => do
    return (← IO.getEnv name).map (name, ·)

def hostWith (environment : List (String × String)) : Host where
  environment := environment
  driver := fun address =>
    .error (.database (.noDriver ((Address.scheme? address).getD "")))
  drafter := fun _ _ _ => .error .noDrafter
  log := fun _ => .disabled
  time := ""
  elapsed := fun _ => 0.0

def main (arguments : List String) : IO UInt32 := do
  let ending := CommandLine.run (hostWith (← readEnvironment)) arguments
  if let some output := ending.output then
    IO.print output.render
  if let some message := ending.error then
    IO.eprintln ("error: " ++ message)
  return ending.code.toUInt32
