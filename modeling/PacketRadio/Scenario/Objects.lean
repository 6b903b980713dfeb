import PacketRadio.Scenario.Bench

/-!
# Steps on arenas, boxes and adapters

What the steps of a scenario do that need no driver context.
-/

namespace PacketRadio.Scenario

open Pool

namespace Bench

/-! ## Arenas and blocks -/

/-- Opens an arena. A region that is refused takes no number. -/
def openArena (b : Bench) (name : Name) (size skew : Nat) : Played :=
  match Arena.open? (b.arenas.length + 1) skew size with
  | .error why => b.reply (.refusedByPool why)
  | .ok (arena, notices) =>
    { answer := .opened arena.id arena.size
      state := { b with arenas := (name, arena) :: b.arenas }
      events := notices.map Observation.pool }

/-- Allocates a block and names it. -/
def allocate (b : Bench) (arena : Arena) (block : Name) (layout : Layout) (size : Nat) (tag : Tag) :
    Outcome Observation Bench (Except Refusal Block) :=
  let got := (arena.allocate layout size tag).mapEvents Observation.pool
  got.within fun arena =>
    let b := b.putArena arena
    match got.answer with
    | .ok taken => { b with blocks := b.blocks.put block taken }
    | .error _ => b

/-- Allocates blocks with numbered names until there are enough or one is refused: how many there
are, and the refusal. -/
def fill (name : Name) (id : Nat) (layout : Layout) (tag : Tag) (done : Nat) :
    Nat → Bench → Outcome Observation Bench (Nat × Option Refusal)
  | 0, b => .quiet (done, none) b
  | count + 1, b =>
    match b.arenaNumbered? id with
    | none => .quiet (done, none) b
    | some (_, arena) =>
      (b.allocate arena s!"{name}{done}" layout layout.size tag).andThen fun got b =>
        match got with
        | .error why => .quiet (done, some why) b
        | .ok _ => fill name id layout tag (done + 1) count b

/-- Gives a block back to an arena, whether it is the block's own or not. -/
def releaseInto (b : Bench) (arena : Arena) (block : Option Block) (tag : Tag) : Played :=
  (((arena.releaseAny block tag).mapEvents Observation.pool).within b.putArena).map fun
    | .ok () => .done
    | .error why => .refusedByPool why

/-- A step on an arena. -/
def arenaStep (b : Bench) (name : Name) (step : ArenaStep) : Played :=
  match b.arenaNamed? name with
  | none => b.unknown name
  | some arena =>
    match step with
    | .debug => b.reply (.text arena.debug)
    | .contains offset => b.reply (.flag (arena.contains offset))
    | .allocate block layout size tag optional =>
      (b.allocate arena block layout size tag).map fun
        | .ok taken => .place name taken.offset
        | .error why => if optional then .done else .refusedByPool why
    | .fill block layout tag count =>
      (fill block arena.id layout tag 0 count b).map fun filled => .filled filled.1 filled.2
    | .free none tag => b.releaseInto arena none tag
    | .free (some block) tag =>
      match b.blocks.get? block with
      | none => b.unknown block
      | some given =>
        ({ b with blocks := b.blocks.remove block } : Bench).releaseInto arena (some given) tag

/-- Makes a second copy of a block. -/
def copyBlock (b : Bench) (block target : Name) : Played :=
  match b.blocks.get? block with
  | none => b.unknown block
  | some given => .quiet .done { b with blocks := b.blocks.put target given }

/-- Shows a block. -/
def debugBlock (b : Bench) (block : Name) : Played :=
  match b.blocks.get? block with
  | none => b.unknown block
  | some given => b.reply (.text given.debug)

/-! ## Boxes -/

/-- Writes into a block, for every box that believes to own it. -/
def write (b : Bench) (block : Block) (value : UInt32) : Bench :=
  { b with boxes := b.boxes.map fun entry => (entry.1, entry.2.written block value) }

/-- Makes a boxed sample and names it. -/
def build (b : Bench) (name box : Name) (recipe : Recipe) : Played :=
  match b.arenaNamed? name with
  | none => b.unknown name
  | some arena =>
    ((recipe.follow arena).within b.putArena).andThen fun made b =>
      let reply := Reply.built made.endings
      match made.box.box with
      | none => b.reply reply
      | some owned =>
        thenReply ((b.write owned.block owned.value.value).storeBox box made.box) reply

/-- A step on a box. -/
def boxStep (b : Bench) (name : Name) (step : BoxStep) : Played :=
  match b.boxes.get? name with
  | none => b.unknown name
  | some box =>
    let written (value : UInt32) : Bench :=
      match box.block? with
      | none => b
      | some block => b.write block value
    let emptied : Bench := { b with boxes := b.boxes.put name (.empty box.kind) }
    match step with
    | .get => b.reply (.value box.value?)
    | .set value => .quiet (.flag box.box.isSome) (written value)
    | .use =>
      match box.value? with
      | none => b.emptyBox box.kind.tag
      | some value => b.reply (.value (some value))
    | .useSet value =>
      match box.block? with
      | none => b.emptyBox box.kind.tag
      | some _ => .quiet .done (written value)
    | .info => b.reply (.boxInfo (box.block?.map Block.arena) box.debug)
    | .take target => thenReply (emptied.storeBox target box) .done
    | .reset => (emptied.discardBox box).map Reply.ofFault
    | .drop =>
      (({ b with boxes := b.boxes.remove name } : Bench).discardBox box).map Reply.ofFault
    | .copy target => thenReply (b.storeBox target box) .done

/-! ## Adapters -/

/-- Creates an adapter and names it. -/
def createAdapter (b : Bench) (name arena : Name) (handle : Handle) (interface : Interface)
    (config : AdapterConfig) : Played :=
  match b.arenaNamed? arena with
  | none => b.unknown arena
  | some arena =>
    (((Adapter.create arena handle interface config).mapEvents Observation.event).within
        b.putArena).andThen fun made b =>
      match made with
      | .error why => b.reply (.ofFailure why)
      | .ok owned => thenReply (b.storeAdapter name (some owned)) .done

/-- Destroys an adapter and its name. -/
def dropAdapter (b : Bench) (name : Name) : Played :=
  match b.adapters.get? name with
  | none => b.unknown name
  | some box =>
    (({ b with adapters := b.adapters.remove name } : Bench).discardAdapter box).map Reply.ofFault

/-- Writes bytes into a frame buffer, from a position on. -/
def splice (buffer : Vector UInt8 bufferSize) (position : Nat) (bytes : List UInt8) :
    Vector UInt8 bufferSize :=
  Vector.ofFn fun i => if position ≤ i then bytes.getD (i - position) buffer[i] else buffer[i]

/-- Writes into a frame buffer and reads from it. -/
def useBuffer (a : Adapter) (outbound : Bool) (position : Nat) (bytes : List UInt8)
    (length : Nat) : Outcome Event Adapter Reply :=
  if bufferSize < position + length ∨ bufferSize < position + bytes.length then
    .quiet (.unknown "buffer") a
  else
    let buffer := splice (if outbound then a.outbound else a.inbound) position bytes
    .quiet (.bytes ((buffer.toList.drop position).take length) bufferSize)
      (if outbound then { a with outbound := buffer } else { a with inbound := buffer })

/-- What an adapter does in a step. -/
def perform (a : Adapter) : AdapterStep → Outcome Event Adapter Reply
  | .pause => a.pause.map (.ofExcept fun p => .text p.name)
  | .restart flags => (a.restart flags).map (.ofExcept fun _ => .text "Completed")
  | .send list => (a.send list).map fun
    | .ok () => .done
    | .error status => .declined status
  | .receive list => (a.receive list).map fun
    | .ok () => .done
    | .error status => .declined status
  | .completeSend list => (a.completeSend list).map (.ofExcept .flag)
  | .takeBack list => (a.takeBack list).map (.ofExcept .flag)
  | .takeSend => a.takeSend.map .list
  | .serve request => (a.serve request).map fun served => .served served.1 served.2
  | .view => .quiet (.adapter a) a
  | .buffer outbound position bytes length => useBuffer a outbound position bytes length

/-- A step on an adapter. -/
def adapterStep (b : Bench) (target : Target) (step : AdapterStep) : Played :=
  match target with
  | .box name =>
    match b.adapters.get? name with
    | none => b.unknown name
    | some none => b.emptyBox (Pooled.tag Adapter)
    | some (some owned) =>
      ((perform owned.value step).mapEvents Observation.event).within fun a =>
        { b with adapters := b.adapters.put name (some ⟨owned.block, a⟩) }
  | .slot table handle =>
    match b.tables.get? table with
    | none => b.unknown table
    | some t =>
      (((t.visit handle fun a => perform a step).mapEvents Observation.event).within fun t =>
        { b with tables := b.tables.put table t }).map (.ofExcept id)

/-! ## Tables -/

/-- Fills the first free slot of a table with a new adapter. -/
def fillSlot (b : Bench) (table : Name) (t : SlotTable) (arena : Arena) (interface : Interface)
    (config : AdapterConfig) : Played :=
  match t.firstFree? with
  | none => b.reply (.text "full")
  | some i =>
    (((Adapter.create arena (t.nextHandle i) interface config).mapEvents Observation.event).within
        b.putArena).andThen fun made b =>
      match made with
      | .error why => b.reply (.ofFailure why)
      | .ok owned =>
        match t.occupy i interface (some owned) with
        | .error why => thenReply (b.discardAdapter (some owned)) (.refused why)
        | .ok (handle, t) =>
          .quiet (.handle (some handle)) { b with tables := b.tables.put table t }

/-- Puts an adapter, or an empty box, into a slot. -/
def occupySlot (b : Bench) (table : Name) (t : SlotTable) (index : Nat) (interface : Interface)
    (adapter : Option Name) : Played :=
  match adapter.map fun name => (name, b.adapters.get? name) with
  | some (name, none) => b.unknown name
  | given =>
    let box : Box Adapter := (given.bind Prod.snd).getD none
    let b :=
      match given with
      | some (name, _) => { b with adapters := b.adapters.remove name }
      | none => b
    match t.occupy index interface box with
    | .error why => thenReply (b.discardAdapter box) (.refused why)
    | .ok (handle, t) => .quiet (.handle (some handle)) { b with tables := b.tables.put table t }

/-- A step on a table of slots. -/
def tableStep (b : Bench) (name : Name) (step : TableStep) : Played :=
  match b.tables.get? name with
  | none => b.unknown name
  | some t =>
    match step with
    | .fill arena interface config =>
      match b.arenaNamed? arena with
      | none => b.unknown arena
      | some arena => b.fillSlot name t arena interface config
    | .occupy index interface adapter => b.occupySlot name t index interface adapter
    | .release index target =>
      let (box, t) := t.release index
      let b := { b with tables := b.tables.put name t }
      let stored :=
        match target with
        | some target => b.storeAdapter target box
        | none => b.discardAdapter box
      thenReply stored (.released box.isNone)
    | .resolve handle => b.reply (.ofExcept (fun i => .index (some i.val)) (t.resolve handle))
    | .get handle =>
      b.reply (.ofExcept (fun a => .brief (some (.ofAdapter a))) (t.get handle))
    | .find interface => b.reply (.index ((t.findInterface? interface).map Fin.val))
    | .nextHandle index => b.reply (.handle ((SlotTable.index? index).map t.nextHandle))
    | .slot index => b.reply (.slot (t.slot? index))

/-- A table as an operation leaves it, if it does not refuse. -/
def inFlightStep (b : Bench) (name : Name) (step : InFlightStep) : Played :=
  match b.inFlight.get? name with
  | none => b.unknown name
  | some t =>
    let put (t : InFlight) : Bench := { b with inFlight := b.inFlight.put name t }
    let changed : Option InFlight → Played
      | none => b.reply (.flag false)
      | some t => .quiet (.flag true) (put t)
    match step with
    | .insert list => changed (t.insert? list)
    | .remove list => changed (t.remove? list)
    | .contains list => b.reply (.flag (t.contains list))
    | .pop =>
      match t.pop? with
      | none => b.reply (.list none)
      | some (list, t) => .quiet (.list (some list)) (put t)

/-- A step on a table of groups. -/
def multicastStep (b : Bench) (name : Name) (step : MulticastStep) : Played :=
  match b.multicast.get? name with
  | none => b.unknown name
  | some t =>
    match step with
    | .replace groups =>
      match t.replace groups with
      | .error why => b.reply (.refused why)
      | .ok t => .quiet .done { b with multicast := b.multicast.put name t }
    | .contains group => b.reply (.flag (t.contains group))

end Bench

end PacketRadio.Scenario
