import ChatFlow.Run.Dispatch
import ChatFlow.Run.World
import ChatFlow.Store.Location
import ChatFlow.Time.Schedule

namespace ChatFlow

def Config.settings (c : Config) : Settings := ⟨c.policy, c.engine.maxSteps, c.engine.timeout⟩

structure Service where
  config : Config
  world : World
  /-- when there is a sweep, once the service is started -/
  schedule : Option Schedule

namespace Service

def emptyWorld (clock : Instant) (firstId : Identifier) : World :=
  .start clock (.rows .empty) (.rows []) firstId

/-- A service on the database of a world. No conversation is locked and no sweep is under way. -/
def build (config : Config) (world : World) : Except Failure Service :=
  match world.registry.load config.policy with
  | .error failure =>
    .error (.other ("Failed to load active flows from storage: " ++ failure.message))
  | .ok registry => .ok ⟨config, { world with registry, locks := .empty, sweeping := false }, none⟩

def buildAmong (files : Files) (config : Config) (world : World) : Except Failure Service :=
  match files.openDatabase config.database with
  | .error failure => .error (.other ("Failed to open database: " ++ failure.message))
  | .ok () => build config world

def attempt {α : Type} (service : Service) (activity : Activity α) : Option α × Service :=
  let (a, world) := service.world.attempt activity
  (a, { service with world })

/-- Stores a version of a flow, makes it the active one and puts it to use. -/
def publish (service : Service) (botId version : String) (flow : Flow) :
    Except Failure ActiveFlow × Service :=
  let (result, registry) :=
    service.world.registry.publish service.config.policy botId version flow
  (result, { service with world := { service.world with registry } })

def message (service : Service) (botId conversationId text : String) (extra : Option Json) :
    Option Dispatch.Result × Service :=
  service.attempt (Dispatch.message service.config.settings botId conversationId text extra)

/-- Resumes what is due, up to the number of records of a sweep. -/
def sweep (service : Service) : Option (Except Failure SweepReport) × Service :=
  service.attempt (Dispatch.sweep service.config.settings service.config.sweep.batch)

def wait (service : Service) (ms : Int) : Service :=
  { service with world := { service.world with clock := service.world.clock.shift ms } }

/-- Puts the sweeps on their schedule; a service that is started stays as it is. -/
def start (service : Service) : Except Failure Service :=
  if service.schedule.isSome then .ok service
  else match Schedule.ofText? service.config.sweep.schedule with
    | some schedule => .ok { service with schedule := some schedule }
    | none =>
      .error (.other
        ("Invalid sweep schedule '" ++ service.config.sweep.schedule ++ "': ParseSchedule"))

def stop (service : Service) : Service := { service with schedule := none }

/-- Lets a second begin: the clock is set, and there is a sweep if the schedule says so. -/
def tick (service : Service) (clock : Instant) : Service :=
  let service := { service with world := { service.world with clock } }
  if service.schedule.any (·.isDue clock) then service.sweep.2 else service

end Service

end ChatFlow
