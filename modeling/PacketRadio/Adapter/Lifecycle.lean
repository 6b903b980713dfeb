/-!
# The lifecycle of an adapter

An adapter is paused once it is set up. It is restarted in two steps and then takes traffic. A pause
takes effect at once if nothing is outstanding, and otherwise when the last of it has come back.

`halted` and `shutdown` complete the picture: an adapter is destroyed instead of entering them.
-/

namespace PacketRadio

/-- Where an adapter stands. -/
inductive Lifecycle
  | halted
  | initializing
  | paused
  | restarting
  | running
  | pausing
  | shutdown
  deriving DecidableEq

/-- What moves an adapter on. -/
inductive LifecycleEvent
  /-- The adapter is set up. -/
  | initComplete
  /-- The host wants traffic to stop; `busy` if some is still outstanding. -/
  | pause (busy : Bool)
  /-- The last outstanding traffic has come back. -/
  | pauseComplete
  /-- The host wants traffic to flow. -/
  | restart
  /-- The link is up. -/
  | restartComplete
  deriving DecidableEq

namespace Lifecycle

/-- Every state. -/
def all : List Lifecycle :=
  [halted, initializing, paused, restarting, running, pausing, shutdown]

/-- The word for the state. -/
def name : Lifecycle → String
  | halted => "Halted"
  | initializing => "Initializing"
  | paused => "Paused"
  | restarting => "Restarting"
  | running => "Running"
  | pausing => "Pausing"
  | shutdown => "Shutdown"

/-- The next state, if the event is allowed in this one. -/
def next? : Lifecycle → LifecycleEvent → Option Lifecycle
  | initializing, .initComplete => some paused
  | paused, .restart => some restarting
  | restarting, .restartComplete => some running
  | running, .pause false => some paused
  | running, .pause true => some pausing
  | pausing, .pauseComplete => some paused
  | _, _ => none

/-- Traffic may flow in both directions. -/
def acceptsTraffic (s : Lifecycle) : Bool := s == running

/-- An adapter that exists can be in this state. -/
def isLive : Lifecycle → Bool
  | halted | shutdown => false
  | _ => true

/-- One step of a walk: a refused event leaves the state as it is. -/
def advance (s : Lifecycle) (event : LifecycleEvent) : Lifecycle :=
  (s.next? event).getD s

end Lifecycle

end PacketRadio
