import PacketRadio.Proofs.Adapter.Verdicts
import PacketRadio.Proofs.Driver.Voices

/-!
# Descriptors stand

When an adapter comes up, the host is shown two descriptors of it, which it reads for as long as the
adapter is there. They are made from the template that the driver was set up with; only the address
in use is another one, if the host asks for it. The template is checked when the driver is made, and
checked again with that address when the adapter is.

Nothing that is asked of a driver touches the descriptors of an adapter, nor what is told from them.
-/

namespace PacketRadio

open Pool

/-! ## What descriptors are made of -/

/-- The descriptors of the adapter `h`, made from the template `c` for a host that asks with `p`. -/
structure AdapterConfig.Describes (c : AdapterConfig) (p : Parameters) (h : Handle)
    (registration : RegistrationDescriptor) (general : GeneralDescriptor) : Prop where
  mtu : general.mtu = c.mtu ∧ general.lookahead = c.mtu
  xmit : general.xmitSpeed = c.xmitSpeed ∧ general.maxXmitSpeed = c.maxXmitSpeed
  rcv : general.rcvSpeed = c.rcvSpeed ∧ general.maxRcvSpeed = c.maxRcvSpeed
  permanent : general.permanent = c.permanent
  /-- The address in use is that of the template, unless the host asks for another one. -/
  current : general.current = p.networkAddress.getD c.current
  medium : general.medium = .ieee8023 ∧ general.physicalMedium = .unspecified
  link : general.connectState = .connected ∧ general.duplexState = .half
  options : general.filters = .supported ∧ general.macOptions = ⟨0x09⟩
  addresses : general.addressLength = 7 ∧ general.maxMulticast = 16
  oids : general.oids = supportedOids
  adapter : registration.adapter = h
  hangCheck : registration.hangCheck = c.hangCheck
  attached : registration.interfaceType = .internal ∧ registration.flags = ⟨0x24⟩

/-- **Descriptors are made of the template, and of the address that the host asks for.** Whatever
else they tell is the same for all adapters. -/
theorem AdapterConfig.describes_iff {c : AdapterConfig} {p : Parameters} {h : Handle}
    {registration : RegistrationDescriptor} {general : GeneralDescriptor} :
    c.Describes p h registration general ↔
      registration = .ofConfig h (c.withOverrides p) ∧ general = .ofConfig (c.withOverrides p) := by
  constructor
  · intro describes
    obtain ⟨_, _, _, _⟩ := registration
    obtain ⟨_, _, _, _, _, _, _, _, _, _, _, _, _, _, _, _, _⟩ := general
    obtain ⟨⟨rfl, rfl⟩, ⟨rfl, rfl⟩, ⟨rfl, rfl⟩, rfl, rfl, ⟨rfl, rfl⟩, ⟨rfl, rfl⟩, ⟨rfl, rfl⟩,
      ⟨rfl, rfl⟩, rfl, rfl, rfl, rfl, rfl⟩ := describes
    exact ⟨rfl, rfl⟩
  · rintro ⟨rfl, rfl⟩
    exact ⟨⟨rfl, rfl⟩, ⟨rfl, rfl⟩, ⟨rfl, rfl⟩, rfl, rfl, ⟨rfl, rfl⟩, ⟨rfl, rfl⟩, ⟨rfl, rfl⟩,
      ⟨rfl, rfl⟩, rfl, rfl, rfl, rfl, rfl⟩

/-! ## Settings that fit -/

/-- The descriptor is one of an adapter that can run. -/
structure GeneralDescriptor.Valid (g : GeneralDescriptor) : Prop where
  mtu : 0 < g.mtu ∧ g.mtu ≤ 512
  lookahead : g.lookahead = g.mtu
  xmit : 0 < g.xmitSpeed ∧ g.xmitSpeed ≤ g.maxXmitSpeed
  rcv : 0 < g.rcvSpeed ∧ g.rcvSpeed ≤ g.maxRcvSpeed
  permanent : g.permanent ≠ Address.unused
  current : g.current ≠ Address.unused

/-- An adapter can run with exactly the settings whose descriptor is valid. -/
theorem AdapterConfig.fault?_eq_none {c : AdapterConfig} :
    c.fault? = none ↔ (GeneralDescriptor.ofConfig c).Valid := by
  have large : c.mtu ≤ 512 ↔ ¬ bufferSize < c.mtu.toNat :=
    UInt32.le_iff_toNat_le.trans Nat.not_lt.symm
  have size : ¬ (c.mtu = 0 ∨ bufferSize < c.mtu.toNat) ↔ 0 < c.mtu ∧ c.mtu ≤ 512 := by
    rw [not_or, UInt32.pos_iff_ne_zero, large]
  have speed : ¬ (c.xmitSpeed = 0 ∨ c.rcvSpeed = 0 ∨ c.maxXmitSpeed < c.xmitSpeed ∨
      c.maxRcvSpeed < c.rcvSpeed) ↔
        (0 < c.xmitSpeed ∧ c.xmitSpeed ≤ c.maxXmitSpeed) ∧
          0 < c.rcvSpeed ∧ c.rcvSpeed ≤ c.maxRcvSpeed := by
    simp only [not_or, UInt64.pos_iff_ne_zero, UInt64.not_lt]
    tauto
  have address : ¬ (c.permanent.isUnused || c.current.isUnused) = true ↔
      c.permanent ≠ Address.unused ∧ c.current ≠ Address.unused := by
    simp only [Bool.or_eq_true, not_or, Address.isUnused_iff]
  unfold fault?
  rw [objected_eq_none, objected_eq_none, objected_eq_none, size, speed, address]
  constructor
  · rintro ⟨mtu, ⟨xmit, rcv⟩, ⟨permanent, current⟩, -⟩
    exact ⟨mtu, rfl, xmit, rcv, permanent, current⟩
  · rintro ⟨mtu, -, xmit, rcv, permanent, current⟩
    exact ⟨mtu, ⟨xmit, rcv⟩, ⟨permanent, current⟩, rfl⟩

/-! ## What is shown -/

/-- There are two requests for a new adapter. -/
theorem Request.brings_of_errand {request : Request} {p : Parameters} {refuse : Error → Response}
    (errand : request.errand = .create p refuse) :
    request = .createAdapter p ∨ request = .bringUp p := by
  cases request
  case createAdapter => exact .inl (by cases errand; rfl)
  case bringUp => exact .inr (by cases errand; rfl)
  case halt handle action => cases handle <;> cases errand
  all_goals cases errand

/-- The adapter that the host is told how to read. -/
def HostCall.describes? : HostCall → Option Handle
  | .registrationAttributes h _ | .generalAttributes h _ => some h
  | _ => none

/-- Who does not refuse an adapter is shown both its descriptors. -/
theorem Adapter.shown_of_taken {answers : HostAnswers} (taken : answers.refusal? = none)
    (a : Adapter) :
    a.shown answers =
      [.registrationAttributes a.handle a.registration, .generalAttributes a.handle a.general] := by
  have first : answers.registrationAttributes.isSuccess = true := by
    simpa using List.find?_eq_none.1 taken answers.registrationAttributes List.mem_cons_self
  rw [shown, if_pos first]

theorem Adapter.describes_of_shown {a : Adapter} {answers : HostAnswers} {call : HostCall}
    (shown : call ∈ a.shown answers) : call.describes? = some a.handle := by
  rw [Adapter.shown, List.mem_cons] at shown
  rcases shown with rfl | second
  · rfl
  · split at second
    · rw [List.mem_singleton] at second
      subst second
      rfl
    · cases second

namespace Context

variable {c : Context} {arena : Arena} {answers : HostAnswers} {p : Parameters}

/-- An adapter that comes up is shown as a whole, and the settings that it is made with fit. -/
theorem createAdapter_brings (sound : arena.Sound) (fit : c.config.fault? = none) {h : Handle}
    (answer : (c.createAdapter arena answers p).answer = .ok h) :
    ∃ i, BroughtUp c arena answers p (c.createAdapter arena answers p) i ∧
      answers.refusal? = none ∧ (c.settingsFor p).fault? = none := by
  have fits := DriverConfig.fault?_withOverrides fit p
  have known : c.registration ≠ .unregistered := fun unknown => by
    simp [createAdapter, unknown] at answer
  cases c.createAdapter_creation arena answers p with
  | turnedAway told => cases told.symm.trans answer
  | unmade made told => cases told.symm.trans answer
  | withdrawn made told =>
    rw [answer] at told
    split at told <;> cases told
  | installed unused free made told state =>
    have ended : Ended c arena answers p (c.createAdapter arena answers p) _ :=
      createAdapter_ended_of_slot sound fits known unused free
    split at ended
    · cases ended.answer.symm.trans answer
    · split at ended
      · cases ended.answer.symm.trans answer
      · rename_i set
        cases refusal : answers.refusal? with
        | some status =>
          rw [refusal] at ended
          cases ended.answer.symm.trans answer
        | none =>
          rw [refusal] at ended
          obtain ⟨i, up⟩ := ended
          exact ⟨i, up, rfl, fits.2 set⟩

end Context

namespace Driver

/-- An adapter is who it was, until it is to be halted. -/
theorem serve_identity {d : Driver} {h : Handle} {a : Adapter}
    (named : d.slots.adapter? h = some a) (answers : HostAnswers) {request : Request}
    (kept : request.halts? ≠ some h) :
    ∃ b, (d.serve answers request).state.slots.adapter? h = some b ∧ a.SameIdentity b := by
  cases d.serve_fate answers request h with
  | kept same unasked unhalted ungiven => exact ⟨a, same.trans named, .refl a⟩
  | worked errand here before after answer events =>
    cases before.symm.trans named
    exact ⟨_, after, (visit_evolves errand a).identity⟩
  | arrived unhalted before after answer => cases before.symm.trans named
  | left halts after ungiven => exact absurd halts kept

/-- Nobody is shown descriptors under the handle of an adapter that is there. -/
theorem serve_undescribed {d : Driver} (coherent : d.slots.Coherent) {h : Handle} {a : Adapter}
    (named : d.slots.adapter? h = some a) (answers : HostAnswers) (request : Request) :
    ∀ call ∈ hostCalls (d.serve answers request).events, call.describes? ≠ some h := by
  intro call heard described
  have wants : ∃ k, request.wantsAdapter? = some k := by
    cases serve_voices coherent heard with
    | attaches wants => exact ⟨_, wants⟩
    | describes wants => exact ⟨_, wants⟩
    | _ => cases described
  obtain ⟨k, wants⟩ := wants
  rw [request.wants_of_errand.1] at wants
  split at wants
  · rename_i p refuse errand
    rw [serve_create errand] at heard
    rcases d.context.value.createAdapter_calls d.arena answers p with
      silent | ⟨code, crowded⟩ | ⟨i, b, free, handle, calls⟩
    · change call ∈ hostCalls (d.context.value.createAdapter d.arena answers p).events at heard
      rw [silent] at heard
      cases heard
    · change call ∈ hostCalls (d.context.value.createAdapter d.arena answers p).events at heard
      rw [crowded, List.mem_singleton] at heard
      subst heard
      cases described
    · change call ∈ hostCalls (d.context.value.createAdapter d.arena answers p).events at heard
      rw [calls] at heard
      have same : h = d.slots.nextHandle i := by
        rw [← handle]
        exact Option.some.inj (described.symm.trans (Adapter.describes_of_shown heard))
      have vacant := SlotTable.firstFree?_vacant free
      cases named.symm.trans (SlotTable.adapter?_of_slot (by rw [same]; rfl) (.inr vacant))
  · cases wants

/-- An adapter is who it was, and nobody is told how to read it anew, until it is to be halted. -/
theorem Reachable.run_identity {d : Driver} {activity : Activity} (reachable : d.Reachable activity)
    {h : Handle} {a : Adapter} (named : d.slots.adapter? h = some a)
    {requests : List (HostAnswers × Request)} (kept : ∀ r ∈ requests, r.2.halts? ≠ some h) :
    (∃ b, (d.run requests).state.slots.adapter? h = some b ∧ a.SameIdentity b) ∧
      ∀ call ∈ hostCalls (d.run requests).events, call.describes? ≠ some h := by
  induction requests generalizing d a with
  | nil => exact ⟨⟨a, named, .refl a⟩, fun _ heard => absurd heard List.not_mem_nil⟩
  | cons first requests ih =>
    obtain ⟨b, there, same⟩ := serve_identity named first.1 (kept first List.mem_cons_self)
    obtain ⟨⟨c, later, still⟩, unheard⟩ := ih (reachable.served first.1 first.2) there
      fun r member => kept r (List.mem_cons_of_mem _ member)
    refine ⟨⟨c, later, same.trans still⟩, fun call heard => ?_⟩
    rw [(d.run_cons first.1 first.2 requests).2, hostCalls_append, List.mem_append] at heard
    exact heard.elim (serve_undescribed reachable.coherent named first.1 first.2 call)
      (unheard call)

end Driver

/-! ## What is told from the descriptors -/

/-- What cannot be set is told from the descriptor. -/
theorem Adapter.SameIdentity.encode {a b : Adapter} (same : a.SameIdentity b) {asked : Attribute}
    (fixed : asked.isSettable = false) : b.encode asked = a.encode asked := by
  cases asked with
  | packetFilter | vlan | multicastList => cases fixed
  | _ => simp only [Adapter.encode, same.general]

namespace Driver

/-- An adapter answers for an attribute as it did before, if the attribute cannot be set. -/
theorem serve_query_same {d e : Driver} {h : Handle} {a b : Adapter}
    (before : d.slots.adapter? h = some a) (after : e.slots.adapter? h = some b)
    (same : a.SameIdentity b) {asked : Attribute} (fixed : asked.isSettable = false)
    {q : AttributeRequest} (kind : q.kind = .query) (named : q.oid = asked.oid)
    (first second : HostAnswers) :
    (e.serve second (.accessAttribute h q)).answer =
      (d.serve first (.accessAttribute h q)).answer := by
  have told : ∀ {d : Driver} {a : Adapter}, d.slots.adapter? h = some a → ∀ answers,
      (d.serve answers (.accessAttribute h q)).answer =
        .ok ((Visit.accessAttribute h q).work a).answer := by
    intro d a there answers
    cases found : d.slots.locate h with
    | error why => cases there.symm.trans (SlotTable.adapter?_of_missing found)
    | ok at_ =>
      cases there.symm.trans (SlotTable.adapter?_of_locate found)
      rw [serve_of_found (v := .accessAttribute h q) rfl found]
  have answer : (b.serve q).answer = (a.serve q).answer := by
    rw [Adapter.serve_answer kind named, Adapter.serve_answer kind named, same.encode fixed]
  rw [told after, told before]
  simp only [Visit.accessAttribute, Outcome.map_answer, answer]

/-! ## From creation to halt -/

/-- While the requests are served, the adapter `h` stays as the descriptors tell. -/
structure Stands (d : Driver) (h : Handle) (registration : RegistrationDescriptor)
    (general : GeneralDescriptor) (requests : List (HostAnswers × Request)) : Prop where
  there : ∃ a, (d.run requests).state.slots.get h = .ok a ∧ a.registration = registration ∧
    a.general = general
  /-- The host is shown no others. -/
  unspoken : ∀ call ∈ hostCalls (d.run requests).events, call.describes? ≠ some h
  /-- What cannot be set is answered as at first. -/
  answers : ∀ first second asked q, Attribute.isSettable asked = false →
    q.kind = .query → q.oid = asked.oid →
      ((d.run requests).state.serve second (.accessAttribute h q)).answer =
        (d.serve first (.accessAttribute h q)).answer

/-- The adapter `h` comes up with the parameters `p`, and is what the host is told of it. -/
structure Introduces (d : Driver) (answers : HostAnswers) (request : Request) (h : Handle)
    (p : Parameters) : Prop where
  asked : request = .createAdapter p ∨ request = .bringUp p
  told : hostCalls (d.serve answers request).events =
    [.registrationAttributes h (.ofConfig h (d.context.value.settingsFor p)),
      .generalAttributes h (.ofConfig (d.context.value.settingsFor p))]
  /-- This is what the template and the parameters come to. -/
  describes : d.context.value.config.adapter.Describes p h
    (.ofConfig h (d.context.value.settingsFor p)) (.ofConfig (d.context.value.settingsFor p))
  valid : (GeneralDescriptor.ofConfig (d.context.value.settingsFor p)).Valid
  stands : ∀ requests, (∀ r ∈ requests, Request.halts? r.2 ≠ some h) →
    (d.serve answers request).state.Stands h (.ofConfig h (d.context.value.settingsFor p))
      (.ofConfig (d.context.value.settingsFor p)) requests

/-- What the host is told of the adapters of `d` can be relied on. -/
structure DescribesTruly (d : Driver) : Prop where
  /-- The template fits, and is the same at all times. -/
  fit : d.context.value.config.fault? = none
  template : ∀ requests, (d.run requests).state.context.value.config = d.context.value.config
  introduces : ∀ answers request h, (d.serve answers request).answer = .ok (.adapter h) →
    ∃ p, d.Introduces answers request h p

/-- Only who wants an adapter is answered with a new one. -/
theorem errand_of_adapter {d : Driver} {answers : HostAnswers} {request : Request} {h : Handle}
    (answer : (d.serve answers request).answer = .ok (.adapter h)) :
    ∃ p refuse, request.errand = .create p refuse := by
  cases d.serve_step answers request with
  | created errand => exact ⟨_, _, errand⟩
  | aside errand undisturbed => exact absurd answer (undisturbed.answer h)
  | missed errand missing same =>
    rw [same] at answer
    exact absurd (Except.ok.inj answer) (missed_answer errand _ h)
  | visited errand found same =>
    rw [same] at answer
    exact absurd (Except.ok.inj answer) (work_answer errand _ h)
  | declined errand slots told => exact absurd answer (told h)
  | stopped errand missing slots told => exact absurd answer (told h)
  | halted errand found slots told => exact absurd answer (told h)

/-- **An adapter that comes up is introduced** by the descriptors of its settings, and is there. -/
theorem Reachable.serve_introduces {d : Driver} {activity : Activity}
    (reachable : d.Reachable activity) {answers : HostAnswers} {request : Request} {p : Parameters}
    {refuse : Error → Response} (errand : request.errand = .create p refuse) {h : Handle}
    (answer : (d.serve answers request).answer = .ok (.adapter h)) :
    (d.serve answers request).state.slots.adapter? h =
        some (.setUpFor h p.interface (d.context.value.settingsFor p)) ∧
      hostCalls (d.serve answers request).events =
        [.registrationAttributes h (.ofConfig h (d.context.value.settingsFor p)),
          .generalAttributes h (.ofConfig (d.context.value.settingsFor p))] ∧
      (d.context.value.settingsFor p).fault? = none := by
  rw [serve_create errand] at answer ⊢
  simp only [onBoth, Outcome.within_answer, Outcome.map_answer] at answer
  cases given : (d.context.value.createAdapter d.arena answers p).answer with
  | error why =>
    rw [given] at answer
    exact absurd answer (readCreated_error errand why h)
  | ok k =>
    rw [given] at answer
    cases answer
    obtain ⟨i, up, taken, fits⟩ :=
      Context.createAdapter_brings reachable.opened.sound reachable.fit given
    obtain ⟨block, -, state⟩ := up.state
    have handle : h = d.slots.nextHandle i := Except.ok.inj (given.symm.trans up.answer)
    have vacant : (d.slots.slot i).occupant = none :=
      Option.isNone_iff_eq_none.1 (Option.isSome_eq_false_iff.1 up.lowest.free)
    subst handle
    refine ⟨?_, ?_, fits⟩
    · have filled := SlotTable.adapter?_fill vacant ⟨block, d.context.value.candidate p i⟩
        (some p.interface) (d.slots.nextHandle i)
      rw [if_pos rfl] at filled
      simp only [onBoth, Outcome.within_state, Outcome.map_state, state]
      exact filled
    · have calls := up.calls
      rw [Adapter.shown_of_taken taken] at calls
      exact calls

/-- **Descriptors are made of the template, shown once, and stand** until the adapter is to be
halted, wherever a driver has got to. -/
theorem Reachable.describesTruly {d : Driver} {activity : Activity}
    (reachable : d.Reachable activity) : d.DescribesTruly where
  fit := reachable.fit
  template requests := by
    refine run_keeps (P := fun e => e.context.value.config = d.context.value.config) ?_ rfl requests
    intro e answers request same
    rw [(e.serve_make answers request).config, same]
  introduces answers request h answer := by
    obtain ⟨p, refuse, errand⟩ := errand_of_adapter answer
    obtain ⟨named, told, fits⟩ := reachable.serve_introduces errand answer
    refine ⟨p, Request.brings_of_errand errand, told, AdapterConfig.describes_iff.2 ⟨rfl, rfl⟩,
      AdapterConfig.fault?_eq_none.1 fits, ?_⟩
    intro requests kept
    obtain ⟨⟨a, there, same⟩, unspoken⟩ :=
      (reachable.served answers request).run_identity named kept
    refine ⟨⟨a, SlotTable.get_eq_ok.2 there, same.registration, same.general⟩, unspoken, ?_⟩
    intro first second asked q fixed kind oid
    exact serve_query_same named there same fixed kind oid first second

/-- An adapter that comes up with an address that the host asks for. -/
theorem introduced_describesTruly :
    introduced.Reachable ⟨1, 2⟩ ∧ introduced.DescribesTruly ∧
      (introduced.serve .willing (.bringUp ⟨⟨7⟩, some ⟨5⟩⟩)).answer = .ok (.adapter ⟨0, 1⟩) ∧
      hostCalls (introduced.serve .willing (.bringUp ⟨⟨7⟩, some ⟨5⟩⟩)).events =
        [.registrationAttributes ⟨0, 1⟩ (.ofConfig ⟨0, 1⟩ {}),
          .generalAttributes ⟨0, 1⟩ (.ofConfig { current := ⟨5⟩ })] := by
  have reachable : introduced.Reachable ⟨1, 2⟩ := sample_reachable.run _
  exact ⟨reachable, reachable.describesTruly, by decide +kernel, by decide +kernel⟩

end Driver

end PacketRadio
