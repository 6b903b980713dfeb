import Mathlib.Algebra.Order.Ring.Nat
import Mathlib.Data.Finmap
import PacketRadio.Proofs.Pool.Restoration

/-!
# An arena is a finite map

All that an arena has to know of its live blocks is a map from places to layouts and tags. The rack of
records, the search through it and the two running totals are ways to keep that map.

`Inventory` is the map with the holes and the four counts of what has happened. `Serves` tells what
each call answers and makes of it; the totals of live blocks and bytes are read off the map. Every
run of an arena is a run of its inventory. What carries the proof is that live blocks lie at places
of their own, so the first record that is found at a place is the only one there.
-/

namespace PacketRadio.Pool

/-! ## Suitable holes -/

/-- The hole can give away a piece for `l` at the first place for it: the piece reaches the end of
the hole, or leaves room for another hole behind it. -/
def Hole.Suits (base : Nat) (l : Layout) (h : Hole) : Prop :=
  h.firstPlace base l.align + l.footprint = h.stop ∨
    h.firstPlace base l.align + l.footprint + Hole.least ≤ h.stop

instance (base : Nat) (l : Layout) (h : Hole) : Decidable (h.Suits base l) :=
  inferInstanceAs (Decidable (_ ∨ _))

theorem Hole.carve?_eq_none {base : Nat} {l : Layout} {h : Hole} :
    h.carve? base l = none ↔ ¬ h.Suits base l := by
  simp only [Hole.carve?, Hole.without?, Hole.Suits, Option.map_eq_none_iff]
  generalize h.firstPlace base l.align + l.footprint = stop
  split
  · rename_i past
    refine iff_of_true rfl ?_
    omega
  · split
    · rename_i ends
      constructor
      · intro kept
        cases kept
      · intro unsuited
        exact absurd (.inl ends) unsuited
    · rename_i inside
      split
      · rename_i scarce
        refine iff_of_true rfl ?_
        omega
      · rename_i rest
        constructor
        · intro kept
          cases kept
        · intro unsuited
          refine absurd (.inr ?_) unsuited
          omega

theorem FreeList.take?_eq_none_iff {base : Nat} {l : Layout} {holes : FreeList} :
    take? base l holes = none ↔ ∀ h ∈ holes, ¬ h.Suits base l := by
  induction holes with
  | nil => simp [take?]
  | cons h holes ih =>
    rw [List.forall_mem_cons, ← Hole.carve?_eq_none, ← ih, take?]
    cases h.carve? base l <;> simp

/-! ## Inventories -/

/-- What is live, by its place, what is free, and how often calls were served or not. -/
structure Inventory where
  entries : Finmap fun _ : Nat => Layout × Tag
  free : FreeList
  allocations : Nat
  deallocations : Nat
  failedAllocations : Nat
  rejectedFrees : Nat

namespace Inventory

/-- Nothing is live, and the whole region is free. -/
def fresh (base size : Nat) : Inventory := ⟨∅, FreeList.ofRegion base size, 0, 0, 0, 0⟩

/-- How many blocks are live. -/
def count (v : Inventory) : Nat := v.entries.entries.card

/-- How many bytes the live blocks were asked to hold. -/
def bytes (v : Inventory) : Nat := (v.entries.entries.map fun entry => entry.2.1.size).sum

/-- The statistics that an arena with this inventory shows. -/
def stats (v : Inventory) : Stats :=
  ⟨v.allocations, v.deallocations, v.failedAllocations, v.rejectedFrees, v.count, v.bytes⟩

/-- Why a request for a block is refused, if it is. -/
def requestRefusal? (base : Nat) (v : Inventory) (layout : Layout) (size : Nat) : Option Refusal :=
  if size ≠ layout.size then some (.sizeMismatch size layout.size)
  else if size = 0 then some .zeroSize
  else if v.count = maxBlocks then some .trackingFull
  else if ∀ h ∈ v.free, ¬ h.Suits base layout then some .outOfMemory
  else none

/-- Why the release of a block is refused, if it is. -/
def releaseRefusal? (id : Nat) (v : Inventory) (block : Block) (tag : Tag) : Option Refusal :=
  if block.arena ≠ id then some .foreignArena
  else
    match v.entries.lookup block.offset with
    | none => some (.unknownBlock block.location)
    | some (_, recorded) => if recorded ≠ tag then some (.tagMismatch recorded tag) else none

/-- The inventory with a block at `offset`. -/
def withEntry (v : Inventory) (offset : Nat) (layout : Layout) (tag : Tag) (free : FreeList) :
    Inventory :=
  { v with
    entries := v.entries.insert offset (layout, tag)
    free := free
    allocations := v.allocations + 1 }

/-- The inventory without the block at `offset`, which had the layout. -/
def withoutEntry (v : Inventory) (offset : Nat) (layout : Layout) : Inventory :=
  { v with
    entries := v.entries.erase offset
    free := v.free.putBack ⟨offset, layout.footprint⟩
    deallocations := v.deallocations + 1 }

/-- The call is answered like this, and makes the second inventory of the first one. -/
inductive Serves (id base : Nat) (v : Inventory) :
    Arena.Call → Except Refusal (Option Block) → Inventory → Prop
  /-- A block is handed out at a place that had none. -/
  | granted {layout : Layout} {type : layout.OfType} {size : Nat} {tag : Tag} {offset : Nat}
      {free : FreeList} (willing : v.requestRefusal? base layout size = none)
      (fresh : offset ∉ v.entries) (taken : v.free.take? base layout = some (offset, free)) :
      Serves id base v (.allocate layout type size tag) (.ok (some ⟨id, offset⟩))
        (v.withEntry offset layout tag free)
  | requestRefused {layout : Layout} {type : layout.OfType} {size : Nat} {tag : Tag} {why : Refusal}
      (refuses : v.requestRefusal? base layout size = some why) :
      Serves id base v (.allocate layout type size tag) (.error why)
        { v with failedAllocations := v.failedAllocations + 1 }
  /-- There is no block to be released. -/
  | nothing {tag : Tag} : Serves id base v (.release none tag) (.ok none) v
  /-- The block goes back, with the bytes that it occupied. -/
  | takenBack {block : Block} {layout : Layout} {tag : Tag}
      (willing : v.releaseRefusal? id block tag = none)
      (known : v.entries.lookup block.offset = some (layout, tag)) :
      Serves id base v (.release (some block) tag) (.ok none) (v.withoutEntry block.offset layout)
  | releaseRefused {block : Block} {tag : Tag} {why : Refusal}
      (refuses : v.releaseRefusal? id block tag = some why) :
      Serves id base v (.release (some block) tag) (.error why)
        { v with rejectedFrees := v.rejectedFrees + 1 }

section Refused

variable {id base : Nat} {v w : Inventory} {answer : Except Refusal (Option Block)} {tag : Tag}
  {why : Refusal}

theorem Serves.request_refused_iff {layout : Layout} {type : layout.OfType} {size : Nat}
    (served : Serves id base v (.allocate layout type size tag) answer w) :
    answer = .error why ↔ v.requestRefusal? base layout size = some why := by
  cases served with
  | granted willing fresh taken =>
    rw [willing]
    exact iff_of_false nofun nofun
  | requestRefused refuses => rw [refuses, Except.error.injEq, Option.some_inj]

theorem Serves.release_refused_iff {block : Block}
    (served : Serves id base v (.release (some block) tag) answer w) :
    answer = .error why ↔ v.releaseRefusal? id block tag = some why := by
  cases served with
  | takenBack willing known =>
    rw [willing]
    exact iff_of_false nofun nofun
  | releaseRefused refuses => rw [refuses, Except.error.injEq, Option.some_inj]

end Refused

/-- The calls are answered like this one after the other. -/
inductive Runs (id base : Nat) :
    Inventory → List Arena.Call → List (Except Refusal (Option Block)) → Inventory → Prop
  | done {v : Inventory} : Runs id base v [] [] v
  | next {v w z : Inventory} {call : Arena.Call} {answer : Except Refusal (Option Block)}
      {calls : List Arena.Call} {answers : List (Except Refusal (Option Block))}
      (first : Serves id base v call answer w) (rest : Runs id base w calls answers z) :
      Runs id base v (call :: calls) (answer :: answers) z

end Inventory

/-! ## The inventory of an arena -/

/-- What a record says about its place. -/
def Record.entry (r : Record) : Σ _ : Nat, Layout × Tag := ⟨r.offset, r.layout, r.tag⟩

namespace Arena

/-- What the arena knows. -/
def inventory (a : Arena) : Inventory where
  entries := (a.live.map Record.entry).toFinmap
  free := a.free
  allocations := a.stats.allocations
  deallocations := a.stats.deallocations
  failedAllocations := a.stats.failedAllocations
  rejectedFrees := a.stats.rejectedFrees

/-- A place is looked up in the map as it is searched for among the records. -/
theorem lookup_inventory (a : Arena) (offset : Nat) :
    a.inventory.entries.lookup offset = (a.recordAt? offset).map fun r => (r.layout, r.tag) := by
  rw [inventory, Finmap.dlookup_list_toFinmap, recordAt?]
  induction a.live with
  | nil => rfl
  | cons r rs ih =>
    by_cases here : r.offset = offset
    · subst here
      rw [List.map_cons, Record.entry, List.dlookup_cons_eq, List.find?_cons_of_pos (by simp)]
      rfl
    · rw [List.map_cons, Record.entry, List.dlookup_cons_ne _ _ (Ne.symm here), ih,
        List.find?_cons_of_neg (by simpa using here)]

theorem dedupKeys_eq {l : List (Σ _ : Nat, Layout × Tag)} (distinct : l.NodupKeys) :
    l.dedupKeys = l := by
  induction l with
  | nil => rfl
  | cons entry l ih =>
    obtain ⟨fresh, rest⟩ := List.nodupKeys_cons.1 distinct
    rw [List.dedupKeys_cons, ih rest, List.kinsert_def, List.kerase_of_notMem_keys fresh]

/-- In a sound arena every record has an entry of its own. -/
theorem Sound.entries_inventory {a : Arena} (sound : a.Sound) :
    a.inventory.entries.entries = a.live.map Record.entry := by
  have distinct : (a.live.map Record.entry).NodupKeys := by
    have places := sound.offsets_nodup
    rwa [List.NodupKeys, List.keys, List.map_map]
  exact congrArg _ (dedupKeys_eq distinct)

theorem Sound.count_inventory {a : Arena} (sound : a.Sound) :
    a.inventory.count = a.live.length := by
  rw [Inventory.count, sound.entries_inventory, Multiset.coe_card, List.length_map]

theorem Sound.bytes_inventory {a : Arena} (sound : a.Sound) :
    a.inventory.bytes = (a.live.map fun r => r.layout.size).sum := by
  rw [Inventory.bytes, sound.entries_inventory, Multiset.map_coe, Multiset.sum_coe, List.map_map]
  rfl

/-- With one block more there is one entry more, at a place that had none. -/
theorem Sound.entries_of_perm {a b : Arena} (sound : a.Sound) (after : b.Sound) {r : Record}
    (live : b.live.Perm (r :: a.live)) :
    r.offset ∉ a.inventory.entries ∧
      b.inventory.entries = a.inventory.entries.insert r.offset (r.layout, r.tag) := by
  have places := after.offsets_nodup
  rw [(live.map Record.offset).nodup_iff, List.map_cons, List.nodup_cons] at places
  have absent : r.offset ∉ a.inventory.entries := by
    rw [← Finmap.lookup_eq_none, lookup_inventory, Option.map_eq_none_iff, Arena.recordAt?,
      List.find?_eq_none]
    intro s member same
    exact places.1 (List.mem_map.2 ⟨s, member, eq_of_beq same⟩)
  refine ⟨absent, Finmap.ext ?_⟩
  rw [Finmap.entries_insert_of_notMem absent, after.entries_inventory, sound.entries_inventory]
  exact Quotient.sound (live.map Record.entry)

/-- A block that is handed out gets an entry at a place that had none. -/
theorem Sound.inventory_withBlock {a : Arena} (sound : a.Sound) {layout : Layout} {offset : Nat}
    {free : FreeList} (tag : Tag) (type : layout.OfType) (room : a.records.isFull = false)
    (taken : a.free.take? a.base layout = some (offset, free)) :
    offset ∉ a.inventory.entries ∧ (a.withBlock ⟨offset, layout, tag⟩ free).inventory =
      a.inventory.withEntry offset layout tag free := by
  obtain ⟨absent, entries⟩ := sound.entries_of_perm (sound.withBlock tag type room taken)
    (live_withBlock ⟨offset, layout, tag⟩ free room)
  refine ⟨absent, ?_⟩
  rw [Inventory.withEntry, ← entries]
  rfl

/-- The entry of a block that is taken back goes. -/
theorem Sound.inventory_withoutBlock {a : Arena} (sound : a.Sound) {r : Record}
    (found : a.recordAt? r.offset = some r) :
    (a.withoutBlock r).inventory = a.inventory.withoutEntry r.offset r.layout := by
  obtain ⟨absent, entries⟩ :=
    (sound.withoutBlock found).entries_of_perm sound (live_withoutBlock found)
  -- The entries before are those afterwards with one more, so the lemma is read backwards.
  have erased : a.inventory.entries.erase r.offset = (a.withoutBlock r).inventory.entries := by
    refine Finmap.ext_lookup fun offset => ?_
    by_cases same : offset = r.offset
    · rw [same, Finmap.lookup_erase, Finmap.lookup_eq_none.2 absent]
    · rw [Finmap.lookup_erase_ne same, entries, Finmap.lookup_insert_of_ne _ same]
  rw [Inventory.withoutEntry, erased]
  rfl

/-! ## Totals -/

/-- The running totals of an arena are right, and whatever was handed out was taken back or is live.
-/
structure Booked (a : Arena) : Prop where
  blocks : a.Counted
  bytes : a.stats.liveBytes = (a.live.map fun r => r.layout.size).sum
  balanced : a.stats.allocations = a.stats.deallocations + a.stats.liveBlocks

theorem fresh_booked (id base size : Nat) : (fresh id base size).Booked := by
  refine ⟨?_, ?_, rfl⟩ <;> simp [Counted, live, fresh]

/-- One block more counts for one, and for as many bytes as it was asked to hold. -/
theorem totals_of_perm {a b : Arena} {r : Record} (live : b.live.Perm (r :: a.live)) :
    b.live.length = a.live.length + 1 ∧
      (b.live.map fun s => s.layout.size).sum =
        r.layout.size + (a.live.map fun s => s.layout.size).sum := by
  have total := (live.map fun s => s.layout.size).sum_eq
  rw [List.map_cons, List.sum_cons] at total
  exact ⟨live.length_eq, total⟩

theorem Booked.withBlock {a : Arena} (booked : a.Booked) (r : Record) (free : FreeList)
    (room : a.records.isFull = false) : (a.withBlock r free).Booked := by
  obtain ⟨length, total⟩ := totals_of_perm (live_withBlock r free room)
  have blocks : a.stats.liveBlocks = a.live.length := booked.blocks
  have bytes := booked.bytes
  have balanced := booked.balanced
  refine ⟨?_, ?_, ?_⟩
  · change a.stats.liveBlocks + 1 = _
    omega
  · change a.stats.liveBytes + r.layout.size = _
    omega
  · change a.stats.allocations + 1 = a.stats.deallocations + (a.stats.liveBlocks + 1)
    omega

theorem Booked.withoutBlock {a : Arena} (booked : a.Booked) {r : Record}
    (found : a.recordAt? r.offset = some r) : (a.withoutBlock r).Booked := by
  obtain ⟨length, total⟩ := totals_of_perm (live_withoutBlock found)
  have blocks : a.stats.liveBlocks = a.live.length := booked.blocks
  have bytes := booked.bytes
  have balanced := booked.balanced
  refine ⟨?_, ?_, ?_⟩
  · change a.stats.liveBlocks - 1 = _
    omega
  · change a.stats.liveBytes - r.layout.size = _
    omega
  · change a.stats.allocations = a.stats.deallocations + 1 + (a.stats.liveBlocks - 1)
    omega

/-! ## One call -/

/-- A request is refused for the reason that the inventory gives, or served. -/
theorem Sound.allocate_decided {a : Arena} (sound : a.Sound) (layout : Layout) (size : Nat)
    (tag : Tag) :
    (∃ why notice, a.inventory.requestRefusal? a.base layout size = some why ∧
      a.allocate layout size tag = a.refuseRequest why notice) ∨
    ∃ offset free notices, a.inventory.requestRefusal? a.base layout size = none ∧
      a.records.isFull = false ∧ a.free.take? a.base layout = some (offset, free) ∧
      a.allocate layout size tag =
        ⟨.ok ⟨a.id, offset⟩, a.withBlock ⟨offset, layout, tag⟩ free, notices⟩ := by
  have count : a.inventory.count = maxBlocks ↔ a.records.isFull = true := by
    rw [sound.count_inventory, a.isFull_iff]
  have holes : (∀ h ∈ a.inventory.free, ¬ h.Suits a.base layout) ↔
      a.free.take? a.base layout = none := FreeList.take?_eq_none_iff.symm
  simp only [allocate, Inventory.requestRefusal?, count, holes]
  split
  · exact .inl ⟨_, _, rfl, rfl⟩
  · split
    · exact .inl ⟨_, _, rfl, rfl⟩
    · split
      · exact .inl ⟨_, _, rfl, rfl⟩
      · rename_i room
        cases taken : a.free.take? a.base layout with
        | none => exact .inl ⟨_, _, rfl, rfl⟩
        | some there =>
          exact .inr ⟨there.1, there.2, _, rfl, Bool.eq_false_iff.2 room, rfl, rfl⟩

/-- A release is refused for the reason that the inventory gives, or the block is taken back. -/
theorem release_decided (a : Arena) (block : Block) (tag : Tag) :
    (∃ why notice, a.inventory.releaseRefusal? a.id block tag = some why ∧
      a.release block tag = a.refuseRelease why notice) ∨
    ∃ r notices, a.inventory.releaseRefusal? a.id block tag = none ∧
      a.recordAt? block.offset = some r ∧ r.tag = tag ∧
      a.release block tag = ⟨.ok (), a.withoutBlock r, notices⟩ := by
  unfold release Inventory.releaseRefusal?
  rw [lookup_inventory]
  split
  · exact .inl ⟨_, _, rfl, rfl⟩
  · cases found : a.recordAt? block.offset with
    | none => exact .inl ⟨_, _, rfl, rfl⟩
    | some r =>
      by_cases other : r.tag ≠ tag
      · simp only [Option.map_some, if_pos other]
        exact .inl ⟨_, _, rfl, rfl⟩
      · simp only [Option.map_some, if_neg other]
        exact .inr ⟨r, _, trivial, rfl, Decidable.not_not.1 other, rfl⟩

/-- The call is answered as the inventory says, and the totals stay right. -/
structure Agrees (a : Arena) (call : Call) : Prop where
  served : a.inventory.Serves a.id a.base call (a.serve call).answer (a.serve call).state.inventory
  booked : (a.serve call).state.Booked

/-- **A call is served as the inventory says.** -/
theorem Sound.agrees {a : Arena} (sound : a.Sound) (booked : a.Booked) (call : Call) :
    a.Agrees call := by
  cases call with
  | allocate layout type size tag =>
    rcases sound.allocate_decided layout size tag with
      ⟨why, notice, refuses, same⟩ | ⟨offset, free, notices, willing, room, taken, same⟩
    · constructor <;> rw [serve, same]
      · exact .requestRefused refuses
      · exact ⟨booked.blocks, booked.bytes, booked.balanced⟩
    · obtain ⟨absent, after⟩ := sound.inventory_withBlock tag type room taken
      constructor <;> rw [serve, same]
      · rw [Outcome.map_state, after]
        exact .granted willing absent taken
      · exact booked.withBlock _ free room
  | release block tag =>
    cases block with
    | none => exact ⟨.nothing, booked⟩
    | some block =>
      rcases a.release_decided block tag with
        ⟨why, notice, refuses, same⟩ | ⟨r, notices, willing, found, rfl, same⟩
      · constructor <;> rw [serve, releaseAny, same]
        · exact .releaseRefused refuses
        · exact ⟨booked.blocks, booked.bytes, booked.balanced⟩
      · have place := (recordAt?_eq_some found).2
        have found' : a.recordAt? r.offset = some r := place ▸ found
        have known : a.inventory.entries.lookup block.offset = some (r.layout, r.tag) := by
          rw [lookup_inventory, found]
          rfl
        constructor <;> rw [serve, releaseAny, same]
        · rw [Outcome.map_state, sound.inventory_withoutBlock found', place]
          exact .takenBack willing known
        · exact booked.withoutBlock found'

/-! ## All calls -/

/-- Every run of an arena is one of its inventory. -/
theorem Sound.runs {a : Arena} (sound : a.Sound) (booked : a.Booked) (calls : List Call) :
    a.inventory.Runs a.id a.base calls (a.run calls).answer (a.run calls).state.inventory ∧
      (a.run calls).state.Booked := by
  induction calls generalizing a with
  | nil => exact ⟨.done, booked⟩
  | cons call calls ih =>
    have change := a.change_serve call
    have first := sound.agrees booked call
    obtain ⟨rest, last⟩ := ih (change.sound sound) first.booked
    rw [change.region.1, change.region.2.1] at rest
    exact ⟨.next first.served rest, last⟩

/-- The statistics are read off the map. -/
theorem Booked.stats {a : Arena} (booked : a.Booked) (sound : a.Sound) :
    a.stats = a.inventory.stats := by
  have blocks : a.stats.liveBlocks = a.inventory.count := by
    rw [sound.count_inventory]
    exact booked.blocks
  have bytes : a.stats.liveBytes = a.inventory.bytes := by
    rw [sound.bytes_inventory, booked.bytes]
  rw [Inventory.stats, ← blocks, ← bytes]
  rfl

/-- A refused call changes nothing but one of two counts. -/
theorem serve_refused {a : Arena} {call : Call} {why : Refusal}
    (refused : (a.serve call).answer = .error why) :
    (a.serve call).state = { a with stats.failedAllocations := a.stats.failedAllocations + 1 } ∨
      (a.serve call).state = { a with stats.rejectedFrees := a.stats.rejectedFrees + 1 } := by
  cases call with
  | allocate layout type size tag =>
    rcases a.allocate_cases layout size tag with ⟨_, _, -, -, -, answer, -⟩ | ⟨_, -, same⟩
    · simp only [serve, Outcome.map_answer, answer] at refused
      cases refused
    · exact .inl same
  | release block tag =>
    cases block with
    | none => cases refused
    | some block =>
      rcases a.release_cases block tag with ⟨_, -, -, -, answer, -⟩ | ⟨_, -, same⟩
      · simp only [serve, releaseAny, Outcome.map_answer, answer] at refused
        cases refused
      · exact .inr same

/-- What the calls made of an empty region of `size` bytes at `base` is told by maps. -/
structure Inventoried (id base size : Nat) (calls : List Call)
    (o : Outcome Notice Arena (List (Except Refusal (Option Block)))) : Prop where
  runs : (Inventory.fresh base size).Runs id base calls o.answer o.state.inventory
  stats : o.state.stats = o.state.inventory.stats
  /-- What was handed out was taken back or is live. -/
  balanced : o.state.stats.allocations = o.state.stats.deallocations + o.state.inventory.count
  /-- The next request is refused for the reason that the map gives, or served. -/
  requests : ∀ {layout : Layout} (type : layout.OfType) (size : Nat) (tag : Tag) (why : Refusal),
    (o.state.serve (.allocate layout type size tag)).answer = .error why ↔
      o.state.inventory.requestRefusal? base layout size = some why
  /-- And so is the next release. -/
  releases : ∀ (block : Block) (tag : Tag) (why : Refusal),
    (o.state.serve (.release (some block) tag)).answer = .error why ↔
      o.state.inventory.releaseRefusal? id block tag = some why
  /-- If the next call is refused, only a count tells of it. -/
  refused : ∀ call why, (o.state.serve call).answer = .error why →
    (o.state.serve call).state =
        { o.state with stats.failedAllocations := o.state.stats.failedAllocations + 1 } ∨
      (o.state.serve call).state =
        { o.state with stats.rejectedFrees := o.state.stats.rejectedFrees + 1 }

/-- **An arena is a finite map.** Its answers to any calls, with any layouts, block values and tags,
are those of a map from places to layouts and tags, and its statistics are read off that map. -/
theorem calls_inventoried (id base : Nat) {size : Nat} (large : minRegion ≤ size) :
    ∃ opened notices, open? id base size = .ok (opened, notices) ∧
      ∀ calls : List Call, Inventoried id base size calls (opened.run calls) := by
  refine ⟨fresh id base size, _, if_neg (Nat.not_lt.2 large), fun calls => ?_⟩
  have start := fresh_sound id base large
  have nothing : (fresh id base size).live = [] := Rack.held_empty
  have empty : (fresh id base size).inventory = .fresh base size := by
    rw [inventory, nothing]
    rfl
  obtain ⟨runs, booked⟩ := start.runs (fresh_booked id base size) calls
  rw [empty] at runs
  have sound := run_sound start calls
  have stats := booked.stats sound
  have served (call : Call) := (sound.agrees booked call).served
  obtain ⟨number, place, -⟩ := (fresh id base size).run_region calls
  rw [number, place] at served
  refine ⟨runs, stats, ?_, ?_, ?_, fun call why => serve_refused⟩
  · rw [booked.balanced, stats]
    rfl
  · intro layout type size tag why
    exact (served _).request_refused_iff
  · intro block tag why
    exact (served _).release_refused_iff

/-- Two blocks are handed out. One of them goes back, after it was released under a wrong tag and as
a block of another arena. Then its place is released again, and a block of the wrong size is asked
for. -/
theorem haggle_inventoried :
    let haggle : List Call :=
      [.allocate ⟨100, 1⟩ ⟨0, rfl⟩ 100 Tag.generic, .allocate ⟨128, 64⟩ ⟨6, rfl⟩ 128 Tag.generic,
        .release (some ⟨1, 5⟩) (Tag.ofChars 'a' 'x' 'O' 'T'), .release (some ⟨2, 5⟩) Tag.generic,
        .release (some ⟨1, 5⟩) Tag.generic, .release (some ⟨1, 5⟩) Tag.generic,
        .allocate ⟨128, 64⟩ ⟨6, rfl⟩ 100 Tag.generic, .release none Tag.generic]
    minRegion ≤ 1000 ∧
      ∃ opened notices, open? 1 4099 1000 = .ok (opened, notices) ∧
        Inventoried 1 4099 1000 haggle (opened.run haggle) ∧
        (opened.run haggle).state.stats = ⟨2, 1, 1, 3, 1, 128⟩ := by
  intro haggle
  have large : minRegion ≤ 1000 := by decide
  refine ⟨large, ?_⟩
  obtain ⟨opened, notices, isOpen, told⟩ := calls_inventoried 1 4099 large
  have start : open? 1 4099 1000 = .ok (fresh 1 4099 1000, [.opened 1 1000]) := rfl
  cases start.symm.trans isOpen
  exact ⟨_, _, rfl, told haggle, by decide +kernel⟩

end Arena

end PacketRadio.Pool
