import PacketRadio.Proofs.Driver.Handles

/-!
# What the host hears

A driver calls its host on a few occasions only, and each of them belongs to a request of one kind.
A call that is about an adapter is about the one that the request was addressed to, unless the
request was to bring one up.
-/

namespace PacketRadio

open Pool

/-- The call has its occasion in the request. -/
inductive Request.Voices : Request → HostCall → Prop
  | registers (driver : DriverObject) (path : String) (c : Characteristics) :
      Voices (.register driver path) (.register driver path c)
  | deregisters (handle : DriverHandle) : Voices (.deregister handle) (.deregister handle)
  | attaches {request : Request} {k : Interface} (wants : request.wantsAdapter? = some k)
      (h : Handle) (descriptor : RegistrationDescriptor) :
      Voices request (.registrationAttributes h descriptor)
  | describes {request : Request} {k : Interface} (wants : request.wantsAdapter? = some k)
      (h : Handle) (descriptor : GeneralDescriptor) :
      Voices request (.generalAttributes h descriptor)
  /-- There is no slot or no memory. -/
  | lacks {request : Request} {k : Interface} (wants : request.wantsAdapter? = some k)
      (code : LogCode) : Voices request (.errorLog none code)
  /-- What is to be sent goes back before the adapter goes. -/
  | flushes {request : Request} {h : Handle} (halts : request.halts? = some h)
      (list : BufferList) : Voices request (.sendComplete h list .failure)
  | returns {level : Level} {h : Handle} {lists : List BufferList} {flags : SendFlags}
      {list : BufferList} (given : list ∈ lists) (status : Status) :
      Voices (.send level h lists flags) (.sendComplete h list status)
  | ends (level : Level) (h : Handle) (lists : List BufferList) (flags : ReturnFlags) :
      Voices (.takeBack level h lists flags) (.pauseComplete h)
  | leaks (level : Level) (h : Handle) (lists : List BufferList) (flags : ReturnFlags) :
      Voices (.takeBack level h lists flags) (.errorLog (some h) .leakBufferLists)
  | completes (h : Handle) (list : BufferList) (status : Status) :
      Voices (.completeSend h list status) (.sendComplete h list status)
  | settles (h : Handle) (list : BufferList) (status : Status) :
      Voices (.completeSend h list status) (.pauseComplete h)
  | indicates (h : Handle) (list : BufferList) :
      Voices (.indicate h list) (.indicateReceive h list)
  | restarts (h : Handle) (status : Status) :
      Voices (.notifyRestart h status) (.restartComplete h status)

/-- The adapter that a call is about. -/
def HostCall.adapter? : HostCall → Option Handle
  | .register .. | .deregister _ => none
  | .registrationAttributes h _ | .generalAttributes h _ | .pauseComplete h | .restartComplete h _
  | .sendComplete h _ _ | .indicateReceive h _ => some h
  | .errorLog h _ => h

/-- What a request to an adapter lets the host hear is about that adapter. -/
theorem Request.Voices.adapter? {request : Request} {call : HostCall}
    (voices : request.Voices call) {h : Handle} (asked : request.addressee? = some h) :
    call.adapter? = some h := by
  have unwanted : request.wantsAdapter? = none := by
    cases request <;> first | rfl | cases asked
  cases voices with
  | attaches wants => cases wants.symm.trans unwanted
  | describes wants => cases wants.symm.trans unwanted
  | lacks wants => cases wants.symm.trans unwanted
  | flushes halts =>
    obtain ⟨action, errand⟩ := errand_of_halts halts
    rw [request.addressee?_of_errand, errand] at asked
    exact asked
  | registers => cases asked
  | deregisters => cases asked
  | restarts => cases asked
  | returns => exact asked
  | ends => exact asked
  | leaks => exact asked
  | completes => exact asked
  | settles => exact asked
  | indicates => exact asked

namespace Adapter

theorem sendAll_calls (handle : Handle) (lists : List BufferList) (a : Adapter) {call : HostCall}
    (heard : call ∈ hostCalls (sendAll handle lists a).events) :
    ∃ list ∈ lists, ∃ status, call = .sendComplete handle list status := by
  induction lists generalizing a with
  | nil => cases heard
  | cons first lists ih =>
    rw [sendAll, Outcome.andThen_events, Outcome.after_events, send_events, List.nil_append,
      hostCalls_append, List.mem_append] at heard
    rcases heard with now | later
    · split at now
      · cases now
      · rename_i status refused
        exact ⟨first, List.mem_cons_self, status, List.mem_singleton.1 now⟩
    · obtain ⟨list, member, status, same⟩ := ih _ later
      exact ⟨list, List.mem_cons_of_mem first member, status, same⟩

theorem takeBackAll_calls (handle : Handle) (lists : List BufferList) (a : Adapter)
    {call : HostCall} (heard : call ∈ hostCalls (takeBackAll handle lists a).events) :
    call = .pauseComplete handle := by
  induction lists generalizing a with
  | nil => cases heard
  | cons list lists ih =>
    rw [takeBackAll, Outcome.andThen_events, Outcome.after_events, hostCalls_append,
      hostCalls_append, takeBack_calls, List.nil_append, List.mem_append] at heard
    rcases heard with now | later
    · split at now
      · exact List.mem_singleton.1 now
      · cases now
      · cases now
    · exact ih _ later

end Adapter

namespace Driver

variable {request : Request} {v : Visit} {call : HostCall}

/-! ## Work for an adapter -/

theorem work_voices (errand : request.errand = .visit v) (a : Adapter)
    (heard : call ∈ hostCalls (v.work a).events) : request.Voices call := by
  cases Request.visits_of_errand errand with
  | pause handle =>
    rw [show hostCalls ((Visit.pause handle).work a).events = [] from
      a.pause_onlyMoves.calls] at heard
    cases heard
  | restart handle flags =>
    rw [show hostCalls ((Visit.restart handle flags).work a).events = [] from
      (a.restart_onlyMoves flags).calls] at heard
    cases heard
  | accessAttribute handle request =>
    rw [show hostCalls ((Visit.accessAttribute handle request).work a).events = [] from
      (a.serve_onlySets request).2] at heard
    cases heard
  | send level handle lists flags =>
    simp only [Visit.after, Visit.send, Outcome.after_events, Outcome.map_events, hostCalls_append,
      Request.levelWarning_calls, List.nil_append] at heard
    obtain ⟨list, given, status, rfl⟩ := a.sendAll_calls handle lists heard
    exact .returns given status
  | takeBack level handle lists flags =>
    simp only [Visit.after, Visit.takeBack, Outcome.after_events, Outcome.map_events,
      hostCalls_append, Request.levelWarning_calls, List.nil_append] at heard
    cases a.takeBackAll_calls handle lists heard
    exact .ends level handle lists flags
  | completeSend handle list status =>
    cases gone : a.sends.remove? list with
    | none =>
      rw [Visit.completeSend_of_absent gone] at heard
      cases heard
    | some sends =>
      rw [Visit.completeSend_calls gone, List.mem_cons] at heard
      rcases heard with rfl | told
      · exact .completes handle list status
      · split at told
        · cases List.mem_singleton.1 told
          exact .settles handle list status
        · cases told
  | indicate handle list =>
    rcases Visit.indicate_cases a handle list with ⟨receives, -, -, same⟩ | ⟨status, same⟩
    · rw [same] at heard
      cases List.mem_singleton.1 heard
      exact .indicates handle list
    · rw [same] at heard
      cases heard

theorem missed_voices (errand : request.errand = .visit v) (why : Error)
    (heard : call ∈ hostCalls (v.missed why).2) : request.Voices call := by
  cases Request.visits_of_errand errand with
  | send level handle lists flags =>
    simp only [Visit.after, Visit.send, hostCalls_append, Request.levelWarning_calls,
      List.nil_append, hostCalls_flatMap] at heard
    obtain ⟨list, given, told⟩ := List.mem_flatMap.1 heard
    cases List.mem_singleton.1 told
    exact .returns given why.status
  | takeBack level handle lists flags =>
    simp only [Visit.after, Visit.takeBack, hostCalls_append, Request.levelWarning_calls,
      List.nil_append] at heard
    cases List.mem_singleton.1 heard
    exact .leaks level handle lists flags
  | _ => cases heard

/-! ## Everything else -/

theorem createAdapter_voices {c : Context} {arena : Arena} {answers : HostAnswers}
    {p : Parameters} {k : Interface} (wants : request.wantsAdapter? = some k)
    (heard : call ∈ hostCalls (c.createAdapter arena answers p).events) :
    request.Voices call := by
  rcases c.createAdapter_calls arena answers p with
    silent | ⟨code, crowded⟩ | ⟨i, a, -, -, calls⟩
  · rw [silent] at heard
    cases heard
  · rw [crowded] at heard
    cases List.mem_singleton.1 heard
    exact .lacks wants _
  · rw [calls, Adapter.shown, List.mem_cons] at heard
    rcases heard with rfl | second
    · exact .attaches wants _ _
    · split at second
      · cases List.mem_singleton.1 second
        exact .describes wants _ _
      · cases second

theorem aside_voices {d : Driver} {answers : HostAnswers} (errand : request.errand = .aside)
    (heard : call ∈ hostCalls (d.serve answers request).events) : request.Voices call := by
  cases request
  case register driver path =>
    simp only [serve, onContext, Context.register, Outcome.within_events, Outcome.map_events]
      at heard
    split at heard
    · cases heard
    · split at heard
      · cases List.mem_singleton.1 heard
        exact .registers driver path _
      · cases List.mem_singleton.1 heard
        exact .registers driver path _
  case deregister handle =>
    simp only [serve, onContext, Context.deregister, Outcome.within_events, Outcome.map_events]
      at heard
    split at heard
    · cases heard
    · rename_i expected driver registered
      split at heard
      · cases heard
      · rename_i same
        rw [Context.leave, registered] at heard
        cases List.mem_singleton.1 heard
        rw [Classical.not_not.1 same]
        exact .deregisters handle
  case halt handle action =>
    cases handle with
    | none => cases heard
    | some handle => cases errand
  case checkForHang handle =>
    simp only [serve, onContext, Context.checkForHang] at heard
    split at heard <;> cases heard
  case notePnp handle event =>
    simp only [serve, onContext, Context.notePnp] at heard
    split at heard <;> cases heard
  case notifyRestart handle status =>
    cases List.mem_singleton.1 heard
    exact .restarts handle status
  case cancelSend => cases heard
  case cancelRequest => cases heard
  case reset => cases heard
  case shutdown => cases heard
  all_goals cases errand

/-- **Every call to the host has its occasion in the request that is served.** -/
theorem serve_voices {d : Driver} (coherent : d.slots.Coherent) {answers : HostAnswers}
    (heard : call ∈ hostCalls (d.serve answers request).events) : request.Voices call := by
  obtain ⟨wants, halts⟩ := request.wants_of_errand
  cases errand : request.errand with
  | aside => exact aside_voices errand heard
  | visit v =>
    cases found : d.slots.locate v.adapter with
    | error why =>
      rw [serve_of_missing errand found] at heard
      exact missed_voices errand why heard
    | ok there =>
      obtain ⟨i, owned⟩ := there
      rw [serve_of_found errand found] at heard
      exact work_voices errand owned.value heard
  | create p refuse =>
    rw [serve_create errand] at heard
    rw [errand] at wants
    exact createAdapter_voices wants heard
  | halt handle action =>
    rw [serve_halt errand] at heard
    rw [errand] at halts
    simp only [onBoth, Outcome.within_events, Outcome.map_events] at heard
    cases found : d.slots.locate handle with
    | error why =>
      rw [(Context.haltAdapter_of_missing found d.arena action).2.2] at heard
      cases heard
    | ok there =>
      obtain ⟨i, owned⟩ := there
      obtain ⟨holds, at_⟩ := SlotTable.locate_eq_ok.1 found
      have named : owned.value.handle = handle := (coherent.handle i owned holds).trans at_.symm
      rw [(Context.haltAdapter_of_found found d.arena action).2.2, named] at heard
      obtain ⟨list, -, rfl⟩ := List.mem_map.1 heard
      exact .flushes halts list

end Driver

end PacketRadio
