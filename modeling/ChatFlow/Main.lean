import ChatFlow.Service
import Std.Time.DateTime.Timestamp

open ChatFlow

/-- The variables of the environment that are set, of those that a configuration is taken from. -/
def readVariables : List String → IO (List (String × String))
  | [] => return []
  | name :: rest => do
    let others ← readVariables rest
    match ← IO.getEnv name with
    | some text => return (name, text) :: others
    | none => return others

def readClock : IO Instant := do
  let now ← Std.Time.Timestamp.now
  return .ofMillis now.toMillisecondsSinceUnixEpoch.val

partial def tickForever (service : Service) : IO Unit := do
  let now ← readClock
  IO.sleep (1000 - now.toMillis % 1000).toNat.toUInt32
  let clock ← readClock
  tickForever (service.tick clock)

def main : IO UInt32 := do
  let held ← readVariables Config.variableNames
  let config := Config.ofEnvironment fun name => held.lookup name
  let clock ← readClock
  match (Service.build config (Service.emptyWorld clock default)).bind Service.start with
  | .error failure =>
    IO.eprintln ("Error: " ++ failure.message)
    return 1
  | .ok service =>
    IO.println ("Flow service running, sweeping at '" ++ config.sweep.schedule ++ "'")
    (← IO.getStdout).flush
    tickForever service
    return 0
