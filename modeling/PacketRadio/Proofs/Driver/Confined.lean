import PacketRadio.Driver.Load
import PacketRadio.Proofs.Driver.Lifespan

/-!
# What does not concern the driver as a whole

A driver has one registration and one role, and few operations touch them. All that adapters do, and
all that is done to bring them up and down, is observed without a word about either: no call to the
host that registers the driver or undoes that, and no report of a context that comes or of a claim
that is turned down or lost.
-/

namespace PacketRadio

open Pool

/-- The event is about the driver's registration, or about who is the active context. -/
def Event.driverwide : Event → Bool
  | .call (.register ..) | .call (.deregister _) => true
  | .notice (.contextCreated _) | .notice (.claimRefused ..) => true
  | .notice (.claimNotRecorded ..) => true
  | _ => false

/-- None of the events is about the driver as a whole. -/
def Confined (events : List Event) : Prop := ∀ e ∈ events, e.driverwide = false

namespace Confined

@[simp] theorem nil : Confined [] := fun _ member => nomatch member

theorem cons_iff {e : Event} {events : List Event} :
    Confined (e :: events) ↔ e.driverwide = false ∧ Confined events :=
  List.forall_mem_cons

theorem append_iff {events more : List Event} :
    Confined (events ++ more) ↔ Confined events ∧ Confined more :=
  List.forall_mem_append

theorem append {events more : List Event} (first : Confined events) (then_ : Confined more) :
    Confined (events ++ more) :=
  append_iff.2 ⟨first, then_⟩

theorem single {e : Event} (here : e.driverwide = false) : Confined [e] :=
  cons_iff.2 ⟨here, nil⟩

theorem andThen {σ τ α β : Type} {o : Outcome Event σ α} {f : α → σ → Outcome Event τ β}
    (first : Confined o.events) (then_ : ∀ answer state, Confined (f answer state).events) :
    Confined (o.andThen f).events :=
  first.append (then_ o.answer o.state)

/-- An arena reports about its blocks only. -/
theorem pool (notices : List Pool.Notice) : Confined (notices.map .pool) := by
  intro e member
  obtain ⟨notice, -, rfl⟩ := List.mem_map.1 member
  rfl

end Confined

/-! ## Adapters -/

namespace Adapter

theorem move_confined (a : Adapter) (event : LifecycleEvent) (operation : String) :
    Confined (a.move event operation).events := by
  unfold move
  split <;> exact .single rfl

theorem pause_confined (a : Adapter) : Confined a.pause.events := by
  refine (a.move_confined _ _).andThen fun moved b => ?_
  split
  · exact .nil
  · exact .single rfl
  · exact .single rfl

theorem restart_confined (a : Adapter) (flags : UInt32) : Confined (a.restart flags).events := by
  refine (a.move_confined _ _).andThen fun moved b => ?_
  split
  · exact .nil
  · refine Confined.append (.single rfl) ((b.move_confined _ _).andThen fun moved c => ?_)
    split
    · exact .nil
    · exact .single rfl

theorem settlePause_confined (a : Adapter) : Confined a.settlePause.events := by
  unfold settlePause
  split
  · exact a.move_confined _ _
  · exact .nil

theorem completeSend_confined (a : Adapter) (list : BufferList) :
    Confined (a.completeSend list).events := by
  unfold completeSend
  split
  · exact .nil
  · exact settlePause_confined _

theorem takeBack_confined (a : Adapter) (list : BufferList) :
    Confined (a.takeBack list).events := by
  unfold takeBack
  split
  · exact .nil
  · exact settlePause_confined _

theorem receive_confined (a : Adapter) (list : BufferList) : Confined (a.receive list).events := by
  rcases a.receive_cases list with ⟨receives, -, -, same⟩ | ⟨status, same⟩
  · rw [same]
    exact .nil
  · rw [same]
    exact .nil

theorem takeSend_confined (a : Adapter) : Confined a.takeSend.events := by
  unfold takeSend
  split
  · exact .nil
  · exact settlePause_confined _

theorem flush_confined (rounds : Nat) (a : Adapter) : Confined (flush rounds a).events := by
  induction rounds generalizing a with
  | zero => exact .nil
  | succ rounds ih =>
    refine a.takeSend_confined.andThen fun taken b => ?_
    split
    · exact .nil
    · exact Confined.append (.single rfl) (ih _)

theorem destroy_confined (a : Adapter) : Confined a.destroy := by
  unfold destroy
  refine Confined.append ?_ (.single rfl)
  split
  · exact .single rfl
  · exact .nil

theorem discard_confined (box : Box Adapter) (arena : Arena) :
    Confined (discard box arena).events := by
  cases box with
  | none => exact .nil
  | some owned => exact owned.value.destroy_confined.append (.pool _)

theorem sendRefused_confined (handle : Handle) (list : BufferList) (status : Status) :
    Confined (sendRefused handle list status) :=
  Confined.cons_iff.2 ⟨rfl, .single rfl⟩

theorem sendAll_confined (handle : Handle) (lists : List BufferList) (a : Adapter) :
    Confined (sendAll handle lists a).events := by
  induction lists generalizing a with
  | nil => exact .nil
  | cons list lists ih =>
    have sent : Confined (a.send list).events := by
      rw [send_events]
      exact .nil
    refine sent.andThen fun taken b => Confined.append ?_ (ih b)
    split
    · exact .nil
    · exact sendRefused_confined _ _ _

theorem takeBackAll_confined (handle : Handle) (lists : List BufferList) (a : Adapter) :
    Confined (takeBackAll handle lists a).events := by
  induction lists generalizing a with
  | nil => exact .nil
  | cons list lists ih =>
    refine (a.takeBack_confined list).andThen fun taken b => Confined.append ?_ (ih b)
    split
    · exact .single rfl
    · exact .nil
    · exact .single rfl

theorem serve_confined (a : Adapter) (r : AttributeRequest) : Confined (a.serve r).events := by
  unfold serve
  split
  · unfold query
    split
    · exact .single rfl
    · exact .nil
  · unfold set
    split
    · unfold setFilter
      split
      · exact .nil
      · dsimp only
        split
        · exact .single rfl
        · exact .nil
    · unfold setVlan
      split
      · exact .nil
      · split <;> exact .nil
    · unfold setGroups
      split
      · exact .nil
      · split <;> exact .nil
    · exact .single rfl

theorem create_confined (arena : Arena) (handle : Handle) (interface : Interface)
    (config : AdapterConfig) : Confined (create arena handle interface config).events := by
  have made : ∀ arena, Confined (make handle interface config arena).events := by
    intro arena
    unfold make
    split
    · exact .single rfl
    · exact .nil
  have built : Confined
      (ArenaIn.self.placeWith Event.pool arena (make handle interface config)).events := by
    refine Confined.andThen (.pool _) fun got arena => ?_
    split
    · exact .nil
    · refine (made arena).andThen fun value arena => ?_
      unfold ArenaIn.settle
      split
      · exact .nil
      · exact .pool _
  unfold create
  dsimp only
  split
  · exact built.append (.single rfl)
  · exact built
  · exact built
  · refine built.append (Confined.append (move_confined _ _ _) (.single rfl))

end Adapter

/-! ## Requests -/

theorem Request.levelWarning_confined (differs : Bool) {notice : Notice}
    (plain : Event.driverwide (.notice notice) = false) :
    Confined (levelWarning differs notice) := by
  unfold levelWarning
  split
  · exact .single plain
  · exact .nil

/-- Adapters work without a word about the driver as a whole. -/
theorem Visit.work_confined {request : Request} {v : Visit} (errand : request.errand = .visit v)
    (a : Adapter) : Confined (v.work a).events := by
  cases Request.visits_of_errand errand with
  | pause handle => exact a.pause_confined
  | restart handle flags => exact a.restart_confined flags
  | accessAttribute handle request => exact a.serve_confined request
  | send level handle lists flags =>
    exact (Request.levelWarning_confined _ rfl).append (a.sendAll_confined handle lists)
  | takeBack level handle lists flags =>
    exact (Request.levelWarning_confined _ rfl).append (a.takeBackAll_confined handle lists)
  | completeSend handle list status =>
    have completed := a.completeSend_confined list
    simp only [Visit.completeSend]
    split
    · exact completed
    · refine completed.append (Confined.cons_iff.2 ⟨rfl, ?_⟩)
      split
      · exact Confined.cons_iff.2 ⟨rfl, .single rfl⟩
      · exact .nil
  | indicate handle list =>
    have received := a.receive_confined list
    simp only [Visit.indicate]
    split
    · exact received
    · exact received.append (.single rfl)

/-- So it is when the adapter is not there. -/
theorem Visit.missed_confined {request : Request} {v : Visit} (errand : request.errand = .visit v)
    (why : Error) : Confined (v.missed why).2 := by
  cases Request.visits_of_errand errand with
  | send level handle lists flags =>
    refine (Request.levelWarning_confined _ rfl).append fun e member => ?_
    obtain ⟨list, -, here⟩ := List.mem_flatMap.1 member
    exact Adapter.sendRefused_confined handle list why.status e here
  | takeBack level handle lists flags =>
    exact (Request.levelWarning_confined _ rfl).append (Confined.cons_iff.2 ⟨rfl, .single rfl⟩)
  | _ => exact .nil

namespace Context

theorem present_confined (answers : HostAnswers) (a : Adapter) :
    Confined (present answers a).2 := by
  unfold present
  split
  · exact .single rfl
  · split <;> exact Confined.cons_iff.2 ⟨rfl, .single rfl⟩

theorem install_confined (c : Context) (answers : HostAnswers) (i : Fin maxAdapters)
    (interface : Interface) (owned : Owned Adapter) (arena : Arena) :
    Confined (c.install answers i interface owned arena).events := by
  have shown := present_confined answers owned.value
  have gone := Adapter.discard_confined (some owned) arena
  unfold install
  split
  · rename_i status events presented
    rw [presented] at shown
    exact (shown.append (.single rfl)).append gone
  · rename_i events presented
    rw [presented] at shown
    split
    · exact shown.append gone
    · exact shown

theorem createAdapter_confined (c : Context) (arena : Arena) (answers : HostAnswers)
    (p : Parameters) : Confined (c.createAdapter arena answers p).events := by
  unfold createAdapter
  dsimp only
  split
  · exact .single rfl
  · split
    · exact .single rfl
    · split
      · exact Confined.cons_iff.2 ⟨rfl, .single rfl⟩
      · rename_i i free
        have made := Adapter.create_confined arena (c.slots.nextHandle i) p.interface
          (c.config.adapter.withOverrides p)
        split
        · refine made.append ?_
          split
          · exact .single rfl
          · exact .nil
        · exact made.append (c.install_confined answers i p.interface _ _)

theorem haltAdapter_confined (c : Context) (arena : Arena) (handle : Handle)
    (action : HaltAction) : Confined (c.haltAdapter arena handle action).events := by
  unfold haltAdapter
  split
  · exact .single rfl
  · rename_i i owned found
    have flushed := Adapter.flush_confined maxInFlight owned.value
    exact (flushed.append (.single rfl)).append (Adapter.discard_confined _ arena)

/-! ## The end of the adapters -/

theorem clearSlots_confined (context : UInt32) (is : List (Fin maxAdapters)) (t : SlotTable)
    (arena : Arena) : Confined (clearSlots context is t arena).events := by
  induction is generalizing t arena with
  | nil => exact .nil
  | cons i is ih =>
    unfold clearSlots
    split
    · exact ih _ _
    · rename_i owned holds
      have flushed := Adapter.flush_confined maxInFlight owned.value
      have gone := Adapter.discard_confined (some ⟨owned.block, owned.value.flushSends.state⟩) arena
      have here := (Confined.cons_iff.2 ⟨rfl, flushed⟩ : Confined
        (.notice (.forceDestroying context owned.value.handle owned.value.lifecycle) :: _)).append
          gone
      dsimp only
      split
      · exact here
      · exact here.append (ih _ _)

theorem dropSlots_confined (is : List (Fin maxAdapters)) (t : SlotTable) (arena : Arena) :
    Confined (dropSlots is t arena).events := by
  induction is generalizing arena with
  | nil => exact .nil
  | cons i is ih => exact (Adapter.discard_confined _ arena).append (ih _)

end Context

/-- The request is to register the driver, or to undo that. -/
def Request.driverwide : Request → Bool
  | .register .. | .deregister _ => true
  | _ => false

/-- **Only registering and deregistering concerns the driver as a whole.** -/
theorem Driver.serve_confined (d : Driver) (answers : HostAnswers) {request : Request}
    (plain : request.driverwide = false) : Confined (d.serve answers request).events := by
  cases errand : request.errand with
  | aside =>
    cases request
    case register => cases plain
    case deregister => cases plain
    case halt handle action =>
      cases handle with
      | none => exact .single rfl
      | some handle => cases errand
    case checkForHang handle =>
      simp only [serve, onContext, Context.checkForHang]
      split
      · exact .nil
      · exact .single rfl
    case notePnp handle event =>
      simp only [serve, onContext, Context.notePnp]
      split <;> exact .single rfl
    case notifyRestart => exact .single rfl
    case cancelSend => exact .single rfl
    case cancelRequest => exact .single rfl
    case reset => exact .single rfl
    case shutdown => exact .single rfl
    all_goals cases errand
  | visit v =>
    cases found : d.slots.locate v.adapter with
    | error why =>
      rw [serve_of_missing errand found]
      exact Visit.missed_confined errand why
    | ok there =>
      obtain ⟨i, owned⟩ := there
      rw [serve_of_found errand found]
      exact Visit.work_confined errand _
  | create p refuse =>
    rw [serve_create errand]
    exact d.context.value.createAdapter_confined d.arena answers p
  | halt handle action =>
    rw [serve_halt errand]
    exact d.context.value.haltAdapter_confined d.arena handle action

end PacketRadio
