/-
NetWatch.Service — all parts of the monitor together (`Engine`).

The service is started, stopped and called off as a whole: with it go the
schedule of the checks and the listener to events. Events that are told while
the listener is there wait for it in its backlog; those told before it came or
after it left are lost to it.
-/
import NetWatch.Execution
import NetWatch.Listener
import NetWatch.Schedule

namespace NetWatch

/-- The service between the things it does (`Engine`). -/
structure Service where
  monitor : Monitor
  scheduler : Scheduler
  /-- What waits for the listener, while there is one. -/
  backlog : Option Backlog
  /-- Whether the service was started and not yet stopped. -/
  started : Bool
  /-- What checks are named that are made for devices. -/
  names : Names

namespace Service

/-- A service that has not been started (`Engine::new`). -/
def create (monitor : Monitor) (workers : Nat) (names : Names) : Service :=
  ⟨monitor, .idle workers, none, false, names⟩

/-- Starts the schedule and the listener, unless that was done already (`Engine::start`). -/
def start (s : Service) : Service :=
  if s.started then s
  else { s with scheduler := s.scheduler.start, backlog := some .empty, started := true }

/-- Calls everything off (the parent token of `Engine::start`); the service counts as started until
it is stopped. -/
def cancel (s : Service) : Service :=
  if s.started then { s with scheduler := s.scheduler.cancel, backlog := none } else s

/-- Calls everything off and waits for the end (`Engine::stop`). -/
def stop (s : Service) : Service :=
  if s.started then { s with scheduler := s.scheduler.stop, backlog := none, started := false }
  else s

/-- Whether checks are being scheduled. -/
def isRunning (s : Service) : Bool :=
  s.scheduler.isRunning

/-- Tells events to the listener, if there is one. -/
def tell (s : Service) (events : List Event) : Service :=
  { s with backlog := s.backlog.map fun b => events.foldl .push b }

/-- Lets the monitor do something and tells what came of it. -/
def perform {α : Type} (s : Service) (f : Monitor → Monitor.Step α) : Service × Trace α :=
  let step := f s.monitor
  ({ s with monitor := step.monitor }.tell step.trace.events, step.trace)

/-- Does what follows from events, one after the other; each finds the headers of the channels in
orders of its own. -/
def heed (w : World) :
    (Nat → Enumeration) → List Event → Service → Service × List Http.Request
  | _, [], s => (s, [])
  | orders, e :: rest, s =>
    let step := s.monitor.perform w (Listener.handle (orders 0) e s.names.next)
    let names := if step.trace.result == some true then s.names.taken else s.names
    let others := heed w (fun n => orders (n + 1)) rest { s with monitor := step.monitor, names }
    (others.1, step.trace.requests ++ others.2)

/-- Lets the listener, if there is one, take all that waits for it (the task of
`EventListener::spawn`). -/
def listen (s : Service) (w : World) (orders : Nat → Enumeration) :
    Service × List Http.Request :=
  match s.backlog with
  | none => (s, [])
  | some b => heed w orders b.events { s with backlog := some .empty }

end Service

end NetWatch
