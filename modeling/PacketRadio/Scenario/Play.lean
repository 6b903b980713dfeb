import PacketRadio.Scenario.Objects
import PacketRadio.Scenario.Snapshot

/-!
# Playing a scenario

The steps on driver contexts, and the run of a scenario: each step is answered with its reply and
with all that could be observed of it.
-/

namespace PacketRadio.Scenario

open Pool

namespace Bench

/-- The calls to the host among some observations. -/
def callsOf (seen : List Observation) : List HostCall := seen.filterMap Observation.call?

/-- The bench after the host has heard what the driver called it for. -/
def heard (o : Played) : Played :=
  o.within fun b => { b with host := (callsOf o.events).foldl Host.hear b.host }

/-- Names a context that was made in `arena`. -/
def keepContext (name : Name)
    (o : Outcome Observation Bench (Except Failure (Owned Context))) : Played :=
  o.andThen fun made b =>
    match made with
    | .error why => b.reply (.ofFailure why)
    | .ok owned => thenReply (b.storeContext name (some owned)) .done

/-- Lets `op` make a context in an arena, as the next active one. -/
def makeContext (b : Bench) (name arena : Name)
    (op : Arena → Activity →
      Outcome Event (Arena × Activity) (Except Failure (Owned Context))) : Played :=
  match b.arenaNamed? arena with
  | none => b.unknown arena
  | some arena =>
    keepContext name (((op arena b.activity).mapEvents Observation.event).within fun state =>
      { b.putArena state.1 with activity := state.2 })

/-- A request to a loaded driver. -/
def request (b : Bench) (name : Name) (owned : Owned Context) (request : Request) : Played :=
  match b.arenaNumbered? owned.block.arena with
  | none => b.unknown name
  | some (_, arena) =>
    let served := Driver.serve ⟨owned, arena⟩ b.host.answers request
    ((served.mapEvents Observation.event).within fun d =>
        { b.putArena d.arena with contexts := b.contexts.put name (some d.context) }).map fun
      | .ok response => .ofResponse response
      | .error why => .stopped why

/-- A step on a context. -/
def contextStep (b : Bench) (name : Name) (step : ContextStep) : Played :=
  match b.contexts.get? name with
  | none => b.unknown name
  | some box =>
    let gone : Bench := { b with contexts := b.contexts.remove name }
    let emptied : Bench := { b with contexts := b.contexts.put name none }
    let use (f : Owned Context → Played) : Played :=
      match box with
      | none => b.emptyBox (Pooled.tag Context)
      | some owned => f owned
    match step with
    | .unload => (gone.endContext box Context.unload).map Reply.ofFault
    | .drop => (gone.endContext box Context.discard).map Reply.ofFault
    | .destroy => (emptied.endContext box Context.discard).map Reply.ofFault
    | .take target => thenReply (emptied.storeContext target box) .done
    | .request r => use fun owned => b.request name owned r
    | .notify handle status =>
      use fun owned =>
        let told := b.request name owned (.notifyRestart handle status)
        told.map fun _ => .count (callsOf told.events).length
    | .adapter handle =>
      use fun owned => b.reply (.ofExcept .adapter (owned.value.slots.get handle))
    | .find interface =>
      use fun owned => b.reply (.brief ((owned.value.adapterFor? interface).map Brief.ofAdapter))
    | .info =>
      use fun owned =>
        match b.arenaNumbered? owned.block.arena with
        | none => b.unknown name
        | some (_, arena) =>
          b.reply (.contextInfo owned.value (Text.applied "PoolBox" owned.value.debug) arena.stats)

/-- A step of a scenario. -/
def step (b : Bench) (s : Step) : Played :=
  heard (match s with
    | .openArena name size skew => b.openArena name size skew
    | .arena name step => b.arenaStep name step
    | .copyBlock block target => b.copyBlock block target
    | .debugBlock block => b.debugBlock block
    | .build arena box recipe => b.build arena box recipe
    | .emptyBox name kind => thenReply (b.storeBox name (.empty kind)) .done
    | .box name step => b.boxStep name step
    | .createAdapter name arena handle interface config =>
      b.createAdapter name arena handle interface config
    | .dropAdapter name => b.dropAdapter name
    | .adapter target step => b.adapterStep target step
    | .newTable name => thenReply (b.storeTable name SlotTable.empty) .done
    | .table name step => b.tableStep name step
    | .newInFlight name => .quiet .done { b with inFlight := b.inFlight.put name InFlight.empty }
    | .inFlight name step => b.inFlightStep name step
    | .newMulticast name =>
      .quiet .done { b with multicast := b.multicast.put name Multicast.empty }
    | .multicast name step => b.multicastStep name step
    | .host plan => .quiet .done { b with host.plan := plan }
    | .createContext name arena config =>
      b.makeContext name arena fun arena activity => Context.create arena activity config
    | .loadContext name arena driver path config =>
      b.makeContext name arena fun arena activity =>
        Context.load arena activity b.host.answers driver path config
    | .context name step => b.contextStep name step)

end Bench

/-- What is told about a step: its reply, the driver's calls to the host, the samples that were
destroyed, the reports that are loud enough, and the readings that changed. -/
structure Answer where
  reply : Reply
  calls : List HostCall
  drops : List String
  log : List String
  changed : List (String × Option Reading)

/-- The line of a report, if it is as loud as `threshold` asks. Without one nothing is reported. -/
def logLine? (threshold : Option Severity) (o : Observation) : Option String := do
  let threshold ← threshold
  let (severity, text) ← o.report?
  if severity.reaches threshold then some s!"{severity.text} {text}" else none

/-- Plays the steps of a scenario, one after the other. -/
def play (threshold : Option Severity) : Bench → Snapshot → List Step → List Answer
  | _, _, [] => []
  | b, old, s :: steps =>
    let played := b.step s
    let new := played.state.snapshot
    { reply := played.answer
      calls := Bench.callsOf played.events
      drops := played.events.filterMap Observation.dropped?
      log := played.events.filterMap (logLine? threshold)
      changed := old.changes new } :: play threshold played.state new steps

end PacketRadio.Scenario
