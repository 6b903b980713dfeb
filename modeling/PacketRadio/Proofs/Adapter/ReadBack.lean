import PacketRadio.Proofs.Adapter.Lifecycle
import PacketRadio.Proofs.Adapter.Settings
import PacketRadio.Proofs.Driver.Reachable
import PacketRadio.Proofs.Driver.Refusals

/-!
# Attributes read back as they were set

What the host sets an attribute to is what it reads, byte for byte and until it sets the same
attribute again. What it reads of an attribute that can be set, it can also set, and nothing changes.

The first half holds of every adapter. The second one holds because an adapter is made with settings
that could be set, and no operation leaves it with others.
-/

namespace PacketRadio

open Pool

/-! ## Requests -/

namespace AttributeRequest

/-- The bytes that were written to the buffer. -/
def written (r : AttributeRequest) : List UInt8 := r.buffer.take r.bytesWritten

/-- The request with `bytes` written over the front of its buffer. -/
def answeredWith (r : AttributeRequest) (bytes : List UInt8) : AttributeRequest :=
  { r with
    buffer := bytes ++ r.buffer.drop bytes.length
    bytesNeeded := bytes.length
    bytesWritten := bytes.length }

@[simp] theorem written_answeredWith (r : AttributeRequest) (bytes : List UInt8) :
    (r.answeredWith bytes).written = bytes := List.take_left

theorem respond_of_room {r : AttributeRequest} {bytes : List UInt8}
    (room : bytes.length ≤ r.buffer.length) : r.respond bytes = (r.answeredWith bytes, .ok ()) :=
  if_neg (Nat.not_lt.2 room)

/-- Bytes are written as a whole or not at all. -/
theorem respond_ok {r : AttributeRequest} {bytes : List UInt8}
    (done : (r.respond bytes).2 = .ok ()) : (r.respond bytes).1 = r.answeredWith bytes := by
  by_cases room : bytes.length ≤ r.buffer.length
  · rw [respond_of_room room]
  · rw [respond, if_pos (Nat.not_le.1 room)] at done
    cases done

/-- The bytes of the last of some requests for an attribute. -/
def lastSet (oid : UInt32) (rs : List AttributeRequest) : Option (List UInt8) :=
  (rs.reverse.find? fun r => r.oid == oid).map buffer

theorem lastSet_cons (oid : UInt32) (r : AttributeRequest) (rs : List AttributeRequest) :
    lastSet oid (r :: rs) = (lastSet oid rs).or (if r.oid = oid then some r.buffer else none) := by
  rw [lastSet, List.reverse_cons, List.find?_append, Option.map_or]
  by_cases same : r.oid = oid <;> simp [lastSet, same]

theorem exists_of_lastSet {oid : UInt32} {rs : List AttributeRequest} {bytes : List UInt8}
    (set : lastSet oid rs = some bytes) : ∃ r ∈ rs, r.oid = oid := by
  obtain ⟨r, found, -⟩ := Option.map_eq_some_iff.1 set
  have named := List.find?_some found
  exact ⟨r, List.mem_reverse.1 (List.mem_of_find?_eq_some found), eq_of_beq named⟩

end AttributeRequest

namespace Adapter

theorem serve_query {a : Adapter} {q : AttributeRequest} (kind : q.kind = .query) :
    a.serve q = a.query q := by
  rw [serve, kind]

theorem serve_set {a : Adapter} {r : AttributeRequest} (kind : r.kind = .set) :
    a.serve r = a.set r := by
  rw [serve, kind]

/-- An attribute is answered with its encoding. -/
theorem query_answer {a : Adapter} {q : AttributeRequest} {asked : Attribute}
    (named : q.oid = asked.oid) : (a.query q).answer = q.respond (a.encode asked) := by
  rw [query, Attribute.ofOid?_eq_some.2 named.symm]
  exact a.respond_eq q asked

/-- The answer depends on the attribute that is asked for, and on nothing else. -/
theorem query_congr {a b : Adapter} {q : AttributeRequest}
    (same : ∀ asked : Attribute, q.oid = asked.oid → b.encode asked = a.encode asked) :
    (b.query q).answer = (a.query q).answer := by
  cases named : Attribute.ofOid? q.oid with
  | none => rw [query, query, named]
  | some asked =>
    have oid := (Attribute.ofOid?_eq_some.1 named).symm
    rw [query_answer oid, query_answer oid, same asked oid]

/-! ## One setting after the other -/

/-- The requests `rs` are accepted one after the other, which makes `b` of `a`. -/
inductive Accepts : Adapter → List AttributeRequest → Adapter → Prop
  | done {a : Adapter} : Accepts a [] a
  | next {a b : Adapter} {r : AttributeRequest} {rs : List AttributeRequest} (kind : r.kind = .set)
      (accepted : (a.serve r).answer.2 = .ok ()) (rest : Accepts (a.serve r).state rs b) :
      Accepts a (r :: rs) b

/-- An accepted request sets an attribute. -/
theorem sets_of_serve {a : Adapter} {r : AttributeRequest} (kind : r.kind = .set)
    (accepted : (a.serve r).answer.2 = .ok ()) :
    ∃ asked : Attribute, r.oid = asked.oid ∧ a.Sets asked r.buffer (a.serve r).state := by
  rw [serve_set kind] at accepted ⊢
  exact sets_of_set accepted

theorem serve_of_sets {a b : Adapter} {r : AttributeRequest} {asked : Attribute}
    (sets : a.Sets asked r.buffer b) (kind : r.kind = .set) (named : r.oid = asked.oid) :
    (a.serve r).answer = (r.taken asked, .ok ()) ∧ (a.serve r).state = b := by
  rw [serve_set kind]
  exact set_of_sets sets named

/-- After a run of settings, an attribute is what it was last set to. -/
theorem Accepts.encode {a b : Adapter} {rs : List AttributeRequest} (accepts : a.Accepts rs b)
    (asked : Attribute) :
    b.encode asked = (AttributeRequest.lastSet asked.oid rs).getD (a.encode asked) := by
  induction accepts with
  | done => rfl
  | @next a b r rs kind accepted rest ih =>
    -- A later request for the attribute decides, else this one, else what was there before.
    obtain ⟨set, named, sets⟩ := sets_of_serve kind accepted
    rw [ih, AttributeRequest.lastSet_cons]
    cases AttributeRequest.lastSet asked.oid rs with
    | some bytes => rfl
    | none =>
      by_cases same : asked = set
      · subst same
        rw [if_pos named]
        exact sets.encode
      · have apart : r.oid ≠ asked.oid := fun equal =>
          same (Attribute.oid_injective (equal.symm.trans named))
        rw [if_neg apart]
        exact sets.encode_of_ne same

theorem Accepts.named {a b : Adapter} {rs : List AttributeRequest} (accepts : a.Accepts rs b)
    {r : AttributeRequest} (among : r ∈ rs) : ∃ asked : Attribute, r.oid = asked.oid := by
  induction accepts with
  | done => cases among
  | next kind accepted rest ih =>
    rcases List.mem_cons.1 among with rfl | later
    · obtain ⟨asked, named, -⟩ := sets_of_serve kind accepted
      exact ⟨asked, named⟩
    · exact ih later

theorem Accepts.settled {a b : Adapter} {rs : List AttributeRequest} (accepts : a.Accepts rs b)
    (settled : a.Settled) : b.Settled := by
  induction accepts with
  | done => exact settled
  | next kind accepted rest ih =>
    obtain ⟨set, -, sets⟩ := sets_of_serve kind accepted
    exact ih (sets.settled settled)

theorem Accepts.elsewhere {a b : Adapter} {rs : List AttributeRequest} (accepts : a.Accepts rs b) :
    ∃ filter vlan multicast,
      b = { a with filter := filter, vlan := vlan, multicast := multicast } := by
  induction accepts with
  | @done a => exact ⟨a.filter, a.vlan, a.multicast, rfl⟩
  | @next a b r rs kind accepted rest ih =>
    obtain ⟨filter, vlan, multicast, same⟩ := ih
    obtain ⟨⟨_, _, _, first⟩, -⟩ := a.serve_onlySets r
    rw [first] at same
    exact ⟨filter, vlan, multicast, same⟩

/-- Settings are told by their encodings. -/
theorem Settled.same_of_encode {a b : Adapter} (settled : a.Settled) (also : b.Settled)
    (same : ∀ asked : Attribute, a.encode asked = b.encode asked) :
    a.filter = b.filter ∧ a.vlan = b.vlan ∧ a.multicast = b.multicast := by
  refine ⟨congrArg FlagSet.mk (wordBytes_injective (same .packetFilter)),
    wordBytes_injective (same .vlan), ?_⟩
  rw [settled.multicast.filled, also.multicast.filled,
    bytesOfAll_injective (same .multicastList)]

/-- **Only the last request for each attribute counts.** -/
theorem Accepts.determined {a b c : Adapter} {rs ts : List AttributeRequest} (settled : a.Settled)
    (accepts : a.Accepts rs b) (also : a.Accepts ts c)
    (same : ∀ oid, AttributeRequest.lastSet oid rs = AttributeRequest.lastSet oid ts) : b = c := by
  have alike (asked : Attribute) : b.encode asked = c.encode asked := by
    rw [accepts.encode, also.encode, same]
  have equal := (accepts.settled settled).same_of_encode (also.settled settled) alike
  obtain ⟨filter, vlan, multicast, rfl⟩ := accepts.elsewhere
  obtain ⟨_, _, _, rfl⟩ := also.elsewhere
  obtain ⟨rfl, rfl, rfl⟩ := equal
  rfl

/-! ## From creation on -/

/-- An adapter that came about by operations on one that was made, or by the requests to its driver.
Its frame buffers can be written at any time. -/
inductive Reachable : Adapter → Prop
  | made {arena : Arena} {handle : Handle} {interface : Interface} {config : AdapterConfig}
      {owned : Owned Adapter}
      (answer : (create arena handle interface config).answer = .ok owned) : Reachable owned.value
  | tenant {d : Driver} {activity : Activity} {h : Handle} {a : Adapter}
      (reached : d.Reachable activity) (there : d.slots.adapter? h = some a) : Reachable a
  | worked {a : Adapter} (reached : Reachable a) (operation : Operation) :
      Reachable (a.apply operation)
  | framed {a : Adapter} (reached : Reachable a) (inbound outbound : Vector UInt8 bufferSize) :
      Reachable { a with inbound := inbound, outbound := outbound }

theorem Reachable.applyAll {a : Adapter} (reached : a.Reachable) (operations : List Operation) :
    (a.applyAll operations).Reachable := by
  induction operations generalizing a with
  | nil => exact reached
  | cons operation operations ih => exact ih (reached.worked operation)

theorem Settled.of_same {a b : Adapter} (settled : a.Settled) (filter : b.filter = a.filter)
    (vlan : b.vlan = a.vlan) (multicast : b.multicast = a.multicast) : b.Settled where
  known := by rw [filter, settled.known]
  supported := by rw [filter, settled.supported]
  vlan := by rw [vlan]; exact settled.vlan
  multicast := by rw [multicast]; exact settled.multicast

theorem Settled.settlePause {a : Adapter} (settled : a.Settled) : a.settlePause.state.Settled := by
  obtain ⟨⟨lifecycle, same⟩, -⟩ := a.settlePause_onlyMoves
  rw [same]
  exact settled.of_same rfl rfl rfl

theorem Settled.serve {a : Adapter} (settled : a.Settled) (r : AttributeRequest) :
    (a.serve r).state.Settled := by
  cases kind : r.kind with
  | query =>
    rw [serve_query kind, query_state]
    exact settled
  | set =>
    cases told : (a.serve r).answer.2 with
    | error why =>
      rw [serve_of_error told]
      exact settled
    | ok _ =>
      obtain ⟨set, -, sets⟩ := sets_of_serve kind told
      exact sets.settled settled

/-- No operation leaves an adapter with settings that it could not be set to. -/
theorem Settled.apply {a : Adapter} (settled : a.Settled) (operation : Operation) :
    (a.apply operation).Settled := by
  cases operation with
  | pause =>
    obtain ⟨⟨lifecycle, same⟩, -⟩ := a.pause_onlyMoves
    rw [Adapter.apply, same]
    exact settled.of_same rfl rfl rfl
  | restart flags =>
    obtain ⟨⟨lifecycle, same⟩, -⟩ := a.restart_onlyMoves flags
    rw [Adapter.apply, same]
    exact settled.of_same rfl rfl rfl
  | send list =>
    rcases a.send_cases list with ⟨sends, -, -, same⟩ | ⟨status, same⟩ <;>
      rw [Adapter.apply, same]
    · exact settled.of_same rfl rfl rfl
    · exact settled
  | receive list =>
    rcases a.receive_cases list with ⟨receives, -, -, same⟩ | ⟨status, same⟩ <;>
      rw [Adapter.apply, same]
    · exact settled.of_same rfl rfl rfl
    · exact settled
  | completeSend list =>
    cases gone : a.sends.remove? list with
    | none =>
      rw [Adapter.apply, completeSend_of_absent gone]
      exact settled
    | some sends =>
      rw [Adapter.apply, completeSend_of_held gone]
      exact Settled.settlePause (settled.of_same rfl rfl rfl)
  | takeBack list =>
    cases gone : a.receives.remove? list with
    | none =>
      rw [Adapter.apply, takeBack_of_absent gone]
      exact settled
    | some receives =>
      rw [Adapter.apply, takeBack_of_held gone]
      exact Settled.settlePause (settled.of_same rfl rfl rfl)
  | takeSend =>
    cases gone : a.sends.pop? with
    | none =>
      rw [Adapter.apply, takeSend_of_empty gone]
      exact settled
    | some first =>
      rw [Adapter.apply, takeSend_of_held gone]
      exact Settled.settlePause (settled.of_same rfl rfl rfl)
  | serve r => exact settled.serve r

theorem Settled.applyAll {a : Adapter} (settled : a.Settled) (operations : List Operation) :
    (a.applyAll operations).Settled := by
  induction operations generalizing a with
  | nil => exact settled
  | cons operation operations ih => exact ih (settled.apply operation)

theorem sendAll_state (handle : Handle) (lists : List BufferList) (a : Adapter) :
    (sendAll handle lists a).state = a.applyAll (lists.map .send) := by
  induction lists generalizing a with
  | nil => rfl
  | cons list lists ih => exact ih _

theorem takeBackAll_state (handle : Handle) (lists : List BufferList) (a : Adapter) :
    (takeBackAll handle lists a).state = a.applyAll (lists.map .takeBack) := by
  induction lists generalizing a with
  | nil => rfl
  | cons list lists ih => exact ih _

/-- What a driver has an adapter do is a sequence of operations. -/
theorem visit_applies {request : Request} {v : Visit} (errand : request.errand = .visit v)
    (a : Adapter) : ∃ operations, (v.work a).state = a.applyAll operations := by
  cases Request.visits_of_errand errand with
  | pause handle => exact ⟨[.pause], rfl⟩
  | restart handle flags => exact ⟨[.restart flags], rfl⟩
  | accessAttribute handle request => exact ⟨[.serve request], rfl⟩
  | send level handle lists flags => exact ⟨_, a.sendAll_state handle lists⟩
  | takeBack level handle lists flags => exact ⟨_, a.takeBackAll_state handle lists⟩
  | completeSend handle list status =>
    refine ⟨[.completeSend list], ?_⟩
    simp only [Visit.completeSend]
    split <;> rfl
  | indicate handle list =>
    refine ⟨[.receive list], ?_⟩
    simp only [Visit.indicate]
    split <;> rfl

/-- An adapter is made without any flag, VLAN or group. -/
theorem setUpFor_settled (handle : Handle) (interface : Interface) (config : AdapterConfig) :
    (setUpFor handle interface config).Settled where
  known := (by decide : (FlagSet.empty : PacketFilter).isKnown = true)
  supported := (by decide : PacketFilter.supported.includes FlagSet.empty = true)
  vlan := (by decide : 0 ≤ maxVlan)
  multicast := Multicast.empty_packed

theorem Reachable.settled {a : Adapter} (reached : a.Reachable) : a.Settled := by
  induction reached with
  | made answer =>
    rw [(create_made answer).1]
    exact setUpFor_settled _ _ _
  | tenant reached there =>
    refine reached.all setUpFor_settled (fun errand a settled => ?_) _ _ there
    obtain ⟨operations, same⟩ := visit_applies errand a
    rw [same]
    exact settled.applyAll operations
  | worked reached operation ih => exact ih.apply operation
  | framed reached inbound outbound ih => exact ih.of_same rfl rfl rfl

/-! ## Setting and reading -/

/-- The attributes that can be set, by their identifiers. -/
def settableOids : List UInt32 :=
  [Attribute.packetFilter.oid, Attribute.vlan.oid, Attribute.multicastList.oid]

/-- Sixteen addresses are the longest setting. -/
def longestSetting : Nat := maxMulticast * Address.length

theorem mem_settableOids {oid : UInt32} :
    oid ∈ settableOids ↔ ∃ asked : Attribute, oid = asked.oid ∧ asked.isSettable = true := by
  constructor
  · intro settable
    simp only [settableOids, List.mem_cons, List.not_mem_nil, or_false] at settable
    rcases settable with named | named | named <;> exact ⟨_, named, rfl⟩
  · rintro ⟨asked, rfl, settable⟩
    cases asked with
    | packetFilter | vlan | multicastList => decide
    | _ => cases settable

theorem Settled.length_encode_le {a : Adapter} (settled : a.Settled) {asked : Attribute}
    (settable : asked.isSettable = true) : (a.encode asked).length ≤ longestSetting := by
  cases asked with
  | packetFilter => simp [encode, wordBytes, longestSetting, maxMulticast, Address.length]
  | vlan => simp [encode, wordBytes, longestSetting, maxMulticast, Address.length]
  | multicastList =>
    have room := settled.multicast.room
    rw [encode, length_bytesOfAll, longestSetting, Nat.mul_comm]
    exact Nat.mul_le_mul_right _ room
  | _ => cases settable

/-- Setting an attribute of `a` and reading it are inverse to each other. -/
structure ReadsBack (a : Adapter) : Prop where
  settable : ∀ {r}, r.kind = .set → (a.serve r).answer.2 = .ok () → r.oid ∈ settableOids
  /-- What was set is read. -/
  stored : ∀ {r q}, r.kind = .set → (a.serve r).answer.2 = .ok () →
    q.kind = .query → q.oid = r.oid → r.buffer.length ≤ q.buffer.length →
      ((a.serve r).state.serve q).answer = (q.answeredWith r.buffer, .ok ())
  /-- What was not set reads as before. -/
  apart : ∀ {r q}, r.kind = .set → (a.serve r).answer.2 = .ok () →
    q.kind = .query → q.oid ≠ r.oid → ((a.serve r).state.serve q).answer = (a.serve q).answer
  /-- What can be set can be read. -/
  answered : ∀ {q}, q.kind = .query → q.oid ∈ settableOids → longestSetting ≤ q.buffer.length →
    (a.serve q).answer.2 = .ok ()
  /-- What is read can be set, and is set already. -/
  restored : ∀ {q r}, q.kind = .query → q.oid ∈ settableOids → (a.serve q).answer.2 = .ok () →
    r.kind = .set → r.oid = q.oid → r.buffer = (a.serve q).answer.1.written →
      (a.serve r).answer.2 = .ok () ∧ (a.serve r).state = a
  /-- Nothing changes if it is set once more. -/
  again : ∀ {r}, r.kind = .set → (a.serve r).answer.2 = .ok () →
    ((a.serve r).state.serve r).answer = (a.serve r).answer ∧
      ((a.serve r).state.serve r).state = (a.serve r).state
  /-- What was set last is read, and what was not set at all reads as before. -/
  last : ∀ {rs b q}, a.Accepts rs b → q.kind = .query →
    (∀ bytes, AttributeRequest.lastSet q.oid rs = some bytes → bytes.length ≤ q.buffer.length →
      (b.serve q).answer = (q.answeredWith bytes, .ok ())) ∧
    (AttributeRequest.lastSet q.oid rs = none → (b.serve q).answer = (a.serve q).answer)
  /-- Only what was set last counts. -/
  determined : ∀ {rs ts b c}, a.Accepts rs b → a.Accepts ts c →
    (∀ oid, AttributeRequest.lastSet oid rs = AttributeRequest.lastSet oid ts) → b = c

/-- An attribute is read as it is encoded. -/
theorem serve_answer {a : Adapter} {q : AttributeRequest} {asked : Attribute}
    (kind : q.kind = .query) (named : q.oid = asked.oid) :
    (a.serve q).answer = q.respond (a.encode asked) := by
  rw [serve_query kind, query_answer named]

/-- **An adapter is read as it was set, and can be set as it is read.** -/
theorem Reachable.readsBack {a : Adapter} (reached : a.Reachable) : a.ReadsBack where
  settable kind accepted := by
    obtain ⟨asked, named, sets⟩ := sets_of_serve kind accepted
    exact mem_settableOids.2 ⟨asked, named, sets.isSettable⟩
  stored kind accepted query same room := by
    obtain ⟨asked, named, sets⟩ := sets_of_serve kind accepted
    rw [serve_answer query (same.trans named), sets.encode]
    exact AttributeRequest.respond_of_room room
  apart kind accepted query apart := by
    obtain ⟨asked, named, sets⟩ := sets_of_serve kind accepted
    rw [serve_query query, serve_query query]
    refine query_congr fun other read => sets.encode_of_ne fun same => apart ?_
    rw [read, same, named]
  answered query settable room := by
    obtain ⟨asked, named, can⟩ := mem_settableOids.1 settable
    have fits := (reached.settled.length_encode_le can).trans room
    rw [serve_answer query named, AttributeRequest.respond_of_room fits]
  restored query settable done kind same sent := by
    obtain ⟨asked, named, can⟩ := mem_settableOids.1 settable
    rw [serve_answer query named] at done sent
    rw [AttributeRequest.respond_ok done, AttributeRequest.written_answeredWith] at sent
    have sets := reached.settled.sets can
    rw [← sent] at sets
    obtain ⟨answer, state⟩ := serve_of_sets sets kind (same.trans named)
    rw [answer]
    exact ⟨rfl, state⟩
  again kind accepted := by
    obtain ⟨asked, named, sets⟩ := sets_of_serve kind accepted
    have present := (sets.settled reached.settled).sets sets.isSettable
    rw [sets.encode] at present
    have once := serve_of_sets sets kind named
    have twice := serve_of_sets present kind named
    exact ⟨twice.1.trans once.1.symm, twice.2⟩
  last accepts query := by
    constructor
    · intro bytes set room
      obtain ⟨r, among, same⟩ := AttributeRequest.exists_of_lastSet set
      obtain ⟨asked, named⟩ := accepts.named among
      have read := same.symm.trans named
      rw [serve_answer query read, accepts.encode, ← read, set, Option.getD_some]
      exact AttributeRequest.respond_of_room room
    · intro unset
      rw [serve_query query, serve_query query]
      refine query_congr fun other read => ?_
      rw [accepts.encode, ← read, unset, Option.getD_none]
  determined accepts also same := accepts.determined reached.settled also same

/-- A request to join two groups. -/
def joinTwo : AttributeRequest :=
  ⟨Attribute.multicastList.oid, .set, [1, 2, 3, 4, 5, 6, 7, 255, 0, 0, 0, 0, 0, 0x80], 0, 0⟩

/-- A running adapter that is in VLAN 564 and has joined two groups. -/
def tuned : Adapter :=
  (setUpFor ⟨0, 1⟩ ⟨7⟩ {}).applyAll
    [.restart 0, .serve ⟨Attribute.vlan.oid, .set, [0x34, 2, 0, 0], 0, 0⟩, .serve joinTwo]

theorem tuned_reachable : tuned.Reachable := by
  have made : (create (Arena.fresh 1 4096 16384) ⟨0, 1⟩ ⟨7⟩ {}).answer =
      .ok ⟨⟨1, 0⟩, Adapter.setUpFor ⟨0, 1⟩ ⟨7⟩ {}⟩ := rfl
  exact (Reachable.made made).applyAll _

theorem tuned_readsBack :
    tuned.ReadsBack ∧ (tuned.serve joinTwo).answer.2 = .ok () ∧
      (tuned.serve ⟨Attribute.multicastList.oid, .query, List.replicate 15 9, 0, 0⟩).answer =
        (⟨Attribute.multicastList.oid, .query, joinTwo.buffer ++ [9], 14, 14⟩, .ok ()) :=
  ⟨Reachable.readsBack tuned_reachable, by decide +kernel, by decide +kernel⟩

end Adapter

end PacketRadio
