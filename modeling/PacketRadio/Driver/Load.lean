import PacketRadio.Driver.Teardown

/-!
# Loading a driver

A context is made in a block of an arena and becomes the active one. A driver is loaded by making a
context and registering it; whatever fails on the way, nothing is left behind.
-/

namespace PacketRadio

open Pool

namespace Context

/-- Moves a context whose claim was granted into a block of `arena`. Without a block it is destroyed
at once. -/
def settleIn (c : Context) (arena : Arena) (activity : Activity) :
    Outcome Event (Arena × Activity) (Except Failure (Owned Context)) :=
  let got := (arena.allocateFor Context).mapEvents Event.pool
  match got.answer with
  | .ok block =>
    { answer := .ok ⟨block, c⟩
      state := (got.state, activity)
      events := got.events ++ [.notice (.contextCreated c.id)] }
  | .error why =>
    let torn := c.teardown got.state activity
    { answer :=
        match torn.answer with
        | .ok () => .error (.refused (.ofRefusal why))
        | .error fault => .error (.fatal (.pool fault))
      state := torn.state
      events := got.events ++ torn.events ++ [.notice (.noBlockForContext c.id arena.id why)] }

/-- Makes a context in `arena` and makes it the active one. -/
def create (arena : Arena) (activity : Activity) (config : DriverConfig) :
    Outcome Event (Arena × Activity) (Except Failure (Owned Context)) :=
  match config.fault? with
  | some fault =>
    ⟨.error (.refused .invalidConfig), (arena, activity), [.notice (.badConfig fault)]⟩
  | none =>
    activity.claim.andThen fun claimed activity =>
      match claimed with
      | .error why => .quiet (.error (.refused why)) (arena, activity)
      | .ok id => (fresh id config).settleIn arena activity

/-- Makes a context and registers it with the host. -/
def load (arena : Arena) (activity : Activity) (answers : HostAnswers) (driver : DriverObject)
    (path : String) (config : DriverConfig) :
    Outcome Event (Arena × Activity) (Except Failure (Owned Context)) :=
  ((create arena activity config).andThen fun created state =>
    match created with
    | .error why => .quiet (.error why) state
    | .ok owned =>
      let registered := owned.value.register answers driver path
      let context : Owned Context := ⟨owned.block, registered.state⟩
      match registered.answer with
      | .ok _ => ⟨.ok context, state, registered.events⟩
      | .error why =>
        ((discard (some context) state.1 state.2).map fun
          | .ok () => .error (.refused why)
          | .error fault => .error (.fatal (.pool fault))).after
            (registered.events ++ [.notice (.loadFailed why)])).after
    [.notice (.loading path)]

end Context

end PacketRadio
