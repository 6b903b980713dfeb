import PacketRadio.Proofs.Driver.Activity
import PacketRadio.Proofs.Driver.Identity
import PacketRadio.Proofs.Driver.Tenancy

/-!
# Where a driver can be

Between its creation and its end a driver serves requests. In the meantime others use its arena,
who leave the driver's blocks alone, and other contexts ask in vain for the role of the active one.
In every state that is reached like this the slots agree, the blocks are in order, the settings are
such that adapters can run with them, and the record of the active context names the driver's,
unless its number is the one that stands for nobody.
-/

namespace PacketRadio

open Pool

namespace Driver

/-- The block is that of the context, or of one of its adapters. -/
def Owns (d : Driver) (block : Block) : Prop :=
  block = d.context.block ∨ ∃ i owned, (d.slots.slot i).occupant = some owned ∧ block = owned.block

/-- A call of somebody else, who gives none of the driver's blocks back. -/
def SparedBy (d : Driver) : Arena.Call → Prop
  | .allocate .. => True
  | .release block _ => ∀ b, block = some b → ¬ d.Owns b

/-- A driver with the record of the active context, from the driver's creation on. -/
inductive Reachable : Driver → Activity → Prop
  | created {arena : Arena} (opened : arena.Opened) {activity : Activity} {config : DriverConfig}
      {owned : Owned Context}
      (made : (Context.create arena activity config).answer = .ok owned) :
      Reachable ⟨owned, (Context.create arena activity config).state.1⟩
        (Context.create arena activity config).state.2
  | loaded {arena : Arena} (opened : arena.Opened) {activity : Activity} (answers : HostAnswers)
      (driver : DriverObject) (path : String) {config : DriverConfig} {owned : Owned Context}
      (made : (Context.load arena activity answers driver path config).answer = .ok owned) :
      Reachable ⟨owned, (Context.load arena activity answers driver path config).state.1⟩
        (Context.load arena activity answers driver path config).state.2
  | served {d : Driver} {activity : Activity} (before : Reachable d activity)
      (answers : HostAnswers) (request : Request) :
      Reachable (d.serve answers request).state activity
  /-- Somebody else uses the arena. -/
  | shared {d : Driver} {activity : Activity} (before : Reachable d activity) (call : Arena.Call)
      (spared : d.SparedBy call) : Reachable { d with arena := (d.arena.serve call).state } activity
  /-- Another context is asked for. -/
  | contended {d : Driver} {activity : Activity} (before : Reachable d activity) (arena : Arena)
      (config : DriverConfig) : Reachable d (Context.create arena activity config).state.2

/-- Where a driver can be, it can be after any requests. -/
theorem Reachable.run {d : Driver} {activity : Activity} (reachable : d.Reachable activity)
    (requests : List (HostAnswers × Request)) : (d.run requests).state.Reachable activity :=
  run_keeps (P := fun e => e.Reachable activity)
    (fun _ answers request before => before.served answers request) reachable requests

end Driver

/-! ## The arena -/

/-- Making an adapter is a sequence of calls to the arena. -/
theorem Adapter.create_opened {arena : Arena} (opened : arena.Opened) (handle : Handle)
    (interface : Interface) (config : AdapterConfig) :
    (create arena handle interface config).state.Opened := by
  have asked := opened.allocateFor adapter_layout_ofType
  cases (create_making arena handle interface config).1 with
  | made _ _ state =>
    rw [state]
    exact asked
  | unhoused _ _ state =>
    rw [state]
    exact asked
  | @unfit block _ _ state =>
    rw [state]
    exact asked.surrenderOf block

theorem Context.create_opened {arena : Arena} (opened : arena.Opened) {activity : Activity}
    {config : DriverConfig} {owned : Owned Context}
    (made : (create arena activity config).answer = .ok owned) :
    (create arena activity config).state.1.Opened := by
  rw [(create_made made).2.1]
  exact opened.allocateFor context_layout_ofType

theorem Context.load_opened {arena : Arena} (opened : arena.Opened) {activity : Activity}
    {answers : HostAnswers} {driver : DriverObject} {path : String} {config : DriverConfig}
    {owned : Owned Context}
    (made : (load arena activity answers driver path config).answer = .ok owned) :
    (load arena activity answers driver path config).state.1.Opened := by
  obtain ⟨first, created, -, same⟩ := load_made made
  rw [same]
  exact create_opened opened created

namespace Driver

/-- **What a driver does to its arena, it does by calls.** -/
theorem serve_opened {d : Driver} (opened : d.arena.Opened) (answers : HostAnswers)
    (request : Request) : (d.serve answers request).state.arena.Opened := by
  cases errand : request.errand with
  | aside =>
    rw [(serve_aside errand answers).arena]
    exact opened
  | visit v =>
    cases found : d.slots.locate v.adapter with
    | error why =>
      rw [serve_of_missing errand found]
      exact opened
    | ok there =>
      obtain ⟨i, owned⟩ := there
      rw [serve_of_found errand found]
      exact opened
  | create p refuse =>
    rw [serve_create errand]
    change (d.context.value.createAdapter d.arena answers p).state.2.Opened
    have made := fun i => Adapter.create_opened opened (d.slots.nextHandle i) p.interface
      (d.context.value.settingsFor p)
    cases d.context.value.createAdapter_creation d.arena answers p with
    | turnedAway _ state =>
      rw [state]
      exact opened
    | unmade _ _ state =>
      rw [state]
      exact made _
    | @withdrawn i owned _ _ _ state =>
      rw [state]
      exact (made i).surrenderOf owned.block
    | installed _ _ _ _ state =>
      rw [state]
      exact made _
  | halt handle action =>
    rw [serve_halt errand]
    change (d.context.value.haltAdapter d.arena handle action).state.2.Opened
    cases found : d.slots.locate handle with
    | error why =>
      rw [(Context.haltAdapter_of_missing found d.arena action).2.1]
      exact opened
    | ok there =>
      obtain ⟨i, owned⟩ := there
      rw [(Context.haltAdapter_of_found found d.arena action).2.1]
      exact opened.surrenderOf owned.block

end Driver

/-! ## Who the driver is -/

namespace Context

/-- `after` is the context `before` in the same block, with the number and the settings of it. -/
structure SameMake (before after : Owned Context) : Prop where
  block : after.block = before.block
  id : after.value.id = before.value.id
  config : after.value.config = before.value.config

theorem SameMake.refl (owned : Owned Context) : SameMake owned owned := ⟨rfl, rfl, rfl⟩

theorem leave_make (c : Context) : c.leave.state.id = c.id ∧ c.leave.state.config = c.config := by
  unfold leave
  split <;> exact ⟨rfl, rfl⟩

theorem register_make (c : Context) (answers : HostAnswers) (driver : DriverObject)
    (path : String) :
    (c.register answers driver path).state.id = c.id ∧
      (c.register answers driver path).state.config = c.config := by
  unfold register
  split
  · exact ⟨rfl, rfl⟩
  · split <;> exact ⟨rfl, rfl⟩

theorem deregister_make (c : Context) (handle : DriverHandle) :
    (c.deregister handle).state.id = c.id ∧ (c.deregister handle).state.config = c.config := by
  unfold deregister
  split
  · exact ⟨rfl, rfl⟩
  · split
    · exact ⟨rfl, rfl⟩
    · exact c.leave_make

theorem createAdapter_make (c : Context) (arena : Arena) (answers : HostAnswers) (p : Parameters) :
    (c.createAdapter arena answers p).state.1.id = c.id ∧
      (c.createAdapter arena answers p).state.1.config = c.config := by
  rcases c.createAdapter_creation arena answers p with
    ⟨-, state⟩ | ⟨-, -, state⟩ | ⟨-, -, state⟩ | ⟨-, -, -, -, state⟩ <;>
  · rw [state]
    exact ⟨rfl, rfl⟩

/-- A context that is made has the next number, and settings that fit; it is the active one then. -/
theorem create_grants {arena : Arena} {activity : Activity} {config : DriverConfig}
    {owned : Owned Context} (made : (create arena activity config).answer = .ok owned) :
    config.fault? = none ∧ owned.value = fresh activity.next config ∧
      (create arena activity config).state.2.active = activity.next := by
  unfold create at made ⊢
  split at made
  · cases made
  · rename_i fits
    refine ⟨fits, ?_⟩
    simp only [Outcome.andThen_answer, Outcome.andThen_state] at made ⊢
    by_cases unclaimed : activity.active = 0
    · simp only [Activity.claim, if_pos unclaimed] at made ⊢
      unfold settleIn at made ⊢
      simp only [Outcome.mapEvents_answer] at made ⊢
      cases got : (arena.allocateFor Context).answer with
      | error why =>
        simp only [got] at made
        split at made <;> cases made
      | ok block =>
        simp only [got] at made ⊢
        cases made
        exact ⟨rfl, trivial⟩
    · simp only [Activity.claim, if_neg unclaimed] at made
      cases made

/-- While a context is active, no other one becomes it. -/
theorem create_contended {arena : Arena} {activity : Activity} {config : DriverConfig}
    (claimed : activity.active ≠ 0) :
    (create arena activity config).state.2.active = activity.active := by
  unfold create
  split
  · rfl
  · simp only [Outcome.andThen_state]
    unfold Activity.claim
    rw [if_neg claimed]
    rfl

end Context

namespace Driver

/-- No request changes who the driver is. -/
theorem serve_make (d : Driver) (answers : HostAnswers) (request : Request) :
    Context.SameMake d.context (d.serve answers request).state.context := by
  cases errand : request.errand with
  | aside =>
    cases request
    case register driver path =>
      obtain ⟨id, config⟩ := d.context.value.register_make answers driver path
      exact ⟨rfl, id, config⟩
    case deregister handle =>
      obtain ⟨id, config⟩ := d.context.value.deregister_make handle
      exact ⟨rfl, id, config⟩
    case halt handle action =>
      cases handle with
      | none => exact .refl d.context
      | some handle => cases errand
    case checkForHang handle =>
      simp only [serve, onContext, Context.checkForHang]
      split <;> exact .refl d.context
    case notePnp handle event =>
      simp only [serve, onContext, Context.notePnp]
      split <;> exact .refl d.context
    case notifyRestart => exact .refl d.context
    case cancelSend => exact .refl d.context
    case cancelRequest => exact .refl d.context
    case reset => exact .refl d.context
    case shutdown => exact .refl d.context
    all_goals cases errand
  | visit v =>
    cases found : d.slots.locate v.adapter with
    | error why =>
      rw [serve_of_missing errand found]
      exact .refl d.context
    | ok there =>
      obtain ⟨i, owned⟩ := there
      rw [serve_of_found errand found]
      exact ⟨rfl, rfl, rfl⟩
  | create p refuse =>
    rw [serve_create errand]
    obtain ⟨id, config⟩ := d.context.value.createAdapter_make d.arena answers p
    exact ⟨rfl, id, config⟩
  | halt handle action =>
    rw [serve_halt errand]
    cases found : d.slots.locate handle with
    | error why =>
      have state := (Context.haltAdapter_of_missing found d.arena action).2.1
      refine ⟨rfl, ?_, ?_⟩ <;> simp [onBoth, state]
    | ok there =>
      obtain ⟨i, owned⟩ := there
      have state := (Context.haltAdapter_of_found found d.arena action).2.1
      refine ⟨rfl, ?_, ?_⟩ <;> simp [onBoth, state]

/-! ## In every reachable state -/

/-- A live block that is neither an adapter's nor the context's is somebody else's. -/
theorem Housed.mem_others {others : List Record} {d : Driver} (housed : d.Housed others) {r : Record}
    (live : r ∈ d.arena.live) {block : Block} (own : block.arena = d.arena.id)
    (place : r.offset = block.offset) (unowned : ¬ d.Owns block) : r ∈ others := by
  have lodging := housed.lodging
  rcases List.mem_append.1 (lodging.live.mem_iff.1 live) with tenant | other
  · obtain ⟨i, -, here⟩ := List.mem_filterMap.1 tenant
    obtain ⟨owned, holds, rfl⟩ := Option.map_eq_some_iff.1 here
    refine absurd (.inr ⟨i, owned, holds, ?_⟩) unowned
    cases block
    exact congrArg₂ Block.mk (own.trans (lodging.own i owned holds).symm) place.symm
  · rcases List.mem_cons.1 other with rfl | other
    · refine absurd (.inl ?_) unowned
      cases block
      exact congrArg₂ Block.mk (own.trans housed.own.symm) place.symm
    · exact other

/-- A call that spares the driver's blocks leaves them where they are. -/
theorem Housed.shared {others : List Record} {d : Driver} (housed : d.Housed others)
    (call : Arena.Call) (spared : d.SparedBy call) :
    ∃ others, Housed others { d with arena := (d.arena.serve call).state } := by
  have lodging := housed.lodging
  have change := d.arena.change_serve call
  have sound := change.sound lodging.sound
  have id := change.region.1
  have lodged : ∀ others, (d.arena.serve call).state.live.Perm
      (d.slots.tenants ++ d.context.block.recordFor Context :: others) →
      Housed others { d with arena := (d.arena.serve call).state } := fun others live =>
    ⟨housed.own.trans id.symm, sound, fun i owned holds => (lodging.own i owned holds).trans id.symm,
      live⟩
  cases call with
  | allocate layout type size tag =>
    obtain ⟨-, -, ⟨block, -, -, joined⟩ | ⟨why, -, same⟩⟩ :=
      d.arena.allocate_grants type size tag lodging.sound
    · refine ⟨⟨block.offset, layout, tag⟩ :: others, lodged _ ?_⟩
      have split := (List.Perm.swap (d.context.block.recordFor Context)
        ⟨block.offset, layout, tag⟩ others).append_left d.slots.tenants
      exact (joined.trans (lodging.live.cons _)).trans (List.perm_middle.symm.trans split)
    · refine ⟨others, lodged _ ?_⟩
      change (d.arena.allocate layout size tag).state.live.Perm _
      rw [same]
      exact lodging.live
  | release block tag =>
    cases block with
    | none => exact ⟨others, lodged _ lodging.live⟩
    | some block =>
      obtain ⟨-, -, ⟨r, -, own, place, left⟩ | ⟨why, -, same⟩⟩ :=
        d.arena.release_spends block tag lodging.sound
      · have rest := housed.mem_others (left.mem_iff.2 List.mem_cons_self) own place
          (spared block rfl)
        have split := (((List.perm_cons_erase rest).cons (d.context.block.recordFor Context)).trans
          (List.Perm.swap _ _ _)).append_left d.slots.tenants
        have before := left.symm.trans lodging.live
        exact ⟨others.erase r, lodged _ (before.trans (split.trans List.perm_middle)).cons_inv⟩
      · refine ⟨others, lodged _ ?_⟩
        change (d.arena.release block tag).state.live.Perm _
        rw [same]
        exact lodging.live

namespace Reachable

variable {d : Driver} {activity : Activity}

theorem opened (reachable : d.Reachable activity) : d.arena.Opened := by
  induction reachable with
  | created opened made => exact Context.create_opened opened made
  | loaded opened answers driver path made => exact Context.load_opened opened made
  | served before answers request ih => exact serve_opened ih answers request
  | shared before call spared ih => exact ih.serve call
  | contended before arena config ih => exact ih

theorem housed (reachable : d.Reachable activity) : ∃ others, d.Housed others := by
  induction reachable with
  | created opened made => exact (Started.created opened _ _ made).housed
  | loaded opened answers driver path made =>
    exact (Started.loaded opened _ answers driver path _ made).housed
  | served before answers request ih =>
    obtain ⟨others, housed⟩ := ih
    exact ⟨others, serve_housed housed answers request⟩
  | shared before call spared ih =>
    obtain ⟨others, housed⟩ := ih
    exact housed.shared call spared
  | contended before arena config ih => exact ih

theorem agrees (reachable : d.Reachable activity) : ∃ past, Agrees past d := by
  induction reachable with
  | created opened made => exact ⟨[], run_agrees (.created opened _ _ made) []⟩
  | loaded opened answers driver path made =>
    exact ⟨[], run_agrees (.loaded opened _ answers driver path _ made) []⟩
  | served before answers request ih =>
    obtain ⟨past, agrees⟩ := ih
    exact ⟨_, agrees.step answers request⟩
  | shared before call spared ih =>
    obtain ⟨past, agrees⟩ := ih
    exact ⟨past, agrees.coherent, agrees.standing, agrees.counted⟩
  | contended before arena config ih => exact ih

theorem coherent (reachable : d.Reachable activity) : d.slots.Coherent := by
  obtain ⟨past, agrees⟩ := reachable.agrees
  exact agrees.coherent

/-- What an adapter has when it comes up, and keeps while it works, all adapters have. -/
theorem all {P : Adapter → Prop}
    (new : ∀ handle interface config, P (Adapter.setUpFor handle interface config))
    (kept : ∀ {request : Request} {v : Visit}, request.errand = .visit v → ∀ a, P a →
      P (v.work a).state) (reachable : d.Reachable activity) : d.All P := by
  induction reachable with
  | created opened made => exact run_all new kept (.created opened _ _ made) []
  | loaded opened answers driver path made =>
    exact run_all new kept (.loaded opened _ answers driver path _ made) []
  | served before answers request ih => exact serve_all new kept ih answers request
  | shared before call spared ih => exact ih
  | contended before arena config ih => exact ih

/-- The tables of all adapters are sound. -/
theorem sound (reachable : d.Reachable activity) : d.All Adapter.Sound :=
  reachable.all Adapter.setUpFor_sound fun errand a sound => (visit_evolves errand a).sound sound

/-- The settings are such that adapters can run with them. -/
theorem fit (reachable : d.Reachable activity) : d.context.value.config.fault? = none := by
  induction reachable with
  | created opened made =>
    obtain ⟨fits, value, -⟩ := Context.create_grants made
    rw [value]
    exact fits
  | loaded opened answers driver path made =>
    obtain ⟨first, created, rfl, -⟩ := Context.load_made made
    obtain ⟨fits, value, -⟩ := Context.create_grants created
    rw [(first.value.register_make answers driver path).2, value]
    exact fits
  | @served d _ before answers request ih =>
    rw [(d.serve_make answers request).config]
    exact ih
  | shared before call spared ih => exact ih
  | contended before arena config ih => exact ih

/-- **The record of the active context names the driver's.** -/
theorem names (reachable : d.Reachable activity) : activity.Names d.context.value.id := by
  induction reachable with
  | created opened made =>
    obtain ⟨-, value, active⟩ := Context.create_grants made
    rw [value]
    exact Activity.names_of_active active
  | loaded opened answers driver path made =>
    obtain ⟨first, created, rfl, same⟩ := Context.load_made made
    obtain ⟨-, value, active⟩ := Context.create_grants created
    rw [(first.value.register_make answers driver path).1, value]
    exact Activity.names_of_active (same ▸ active)
  | @served d _ before answers request ih =>
    rw [(d.serve_make answers request).id]
    exact ih
  | shared before call spared ih => exact ih
  | contended before arena config ih =>
    intro numbered
    obtain ⟨active, -⟩ := Activity.active?_eq_some.1 (ih numbered)
    refine Activity.active?_eq_some.2 ⟨?_, numbered⟩
    rw [Context.create_contended (active ▸ numbered), active]

end Reachable

theorem sample_reachable : sample.Reachable ⟨1, 2⟩ := by
  have opened : (Arena.fresh 1 4096 16384).Opened := ⟨1, 4096, 16384, _, _, [], rfl, rfl⟩
  have made : (Context.create (Arena.fresh 1 4096 16384) .initial {}).answer =
      .ok ⟨⟨1, 0⟩, Context.fresh 1 {}⟩ := rfl
  exact .created opened made

end Driver

end PacketRadio
