import PacketRadio.Proofs.Driver.Isolation

/-!
# Requests to different adapters interleave

Since requests under two handles can change places, it does not matter how those to one adapter are
mixed with those to others: the driver ends up the same, and every adapter answers and calls the
host as if nobody else were there.
-/

namespace PacketRadio

open Pool

/-- Only adapters are asked. -/
def Addressed (requests : List (HostAnswers × Request)) : Prop :=
  ∀ r ∈ requests, ∃ h, Request.addressee? r.2 = some h

/-- What of the requests is asked of the adapter `h`. -/
def ownRequests (h : Handle) (requests : List (HostAnswers × Request)) :
    List (HostAnswers × Request) :=
  requests.filter fun r => r.2.addressee? = some h

/-- What a turn has brought. -/
def Turn.reply (t : Turn) : Driver.Reply := ⟨t.answer, hostCalls t.events⟩

section Own

variable {h k : Handle} {requests : List (HostAnswers × Request)} {r : HostAnswers × Request}

theorem Addressed.nil : Addressed [] := List.forall_mem_nil _

theorem Addressed.cons (asked : r.2.addressee? = some h) (addressed : Addressed requests) :
    Addressed (r :: requests) :=
  List.forall_mem_cons.2 ⟨⟨h, asked⟩, addressed⟩

theorem Addressed.tail (addressed : Addressed (r :: requests)) : Addressed requests :=
  (List.forall_mem_cons.1 addressed).2

@[simp] theorem ownRequests_append (h : Handle) (requests more : List (HostAnswers × Request)) :
    ownRequests h (requests ++ more) = ownRequests h requests ++ ownRequests h more := by
  simp [ownRequests]

theorem ownRequests_cons_own (asked : r.2.addressee? = some h) :
    ownRequests h (r :: requests) = r :: ownRequests h requests :=
  List.filter_cons_of_pos (decide_eq_true asked)

theorem ownRequests_cons_other (asked : r.2.addressee? = some k) (away : k ≠ h) :
    ownRequests h (r :: requests) = ownRequests h requests := by
  refine List.filter_cons_of_neg fun own => away ?_
  exact Option.some.inj (asked.symm.trans (of_decide_eq_true own))

theorem ownRequests_swap {s : HostAnswers × Request} (asked : r.2.addressee? = some h)
    (asked' : s.2.addressee? = some k) (other : h ≠ k) (l : Handle) :
    ownRequests l [s, r] = ownRequests l [r, s] := by
  by_cases first : h = l
  · subst first
    rw [ownRequests_cons_other asked' other.symm, ownRequests_cons_own asked,
      ownRequests_cons_own asked, ownRequests_cons_other asked' other.symm]
  · by_cases second : k = l
    · subst second
      rw [ownRequests_cons_own asked', ownRequests_cons_other asked first,
        ownRequests_cons_other asked first, ownRequests_cons_own asked']
    · rw [ownRequests_cons_other asked' second, ownRequests_cons_other asked first,
        ownRequests_cons_other asked first, ownRequests_cons_other asked' second]

end Own

namespace Driver

variable {d e : Driver} {activity : Activity} {h k : Handle}
  {requests left right : List (HostAnswers × Request)} {r : HostAnswers × Request}

/-- What the requests to the adapter `h` bring while all `requests` are served. -/
def replies (d : Driver) (h : Handle) (requests : List (HostAnswers × Request)) : List Reply :=
  ((d.turns requests).filter fun t => t.request.addressee? = some h).map Turn.reply

theorem replies_cons_own (asked : r.2.addressee? = some h) :
    d.replies h (r :: requests) =
      d.reply r.1 r.2 :: (d.serve r.1 r.2).state.replies h requests := by
  have own : (d.turn r.1 r.2).request.addressee? = some h := asked
  simp only [replies, turns, List.filter_cons, own, decide_true, if_true, List.map_cons]
  rfl

theorem replies_cons_other (asked : r.2.addressee? = some k) (away : k ≠ h) :
    d.replies h (r :: requests) = (d.serve r.1 r.2).state.replies h requests := by
  have other : (d.turn r.1 r.2).request.addressee? ≠ some h := fun own =>
    away (Option.some.inj (asked.symm.trans own))
  simp only [replies, turns, List.filter_cons, other, decide_false, Bool.false_eq_true, if_false]

/-- **Every adapter is served as if it were alone.** -/
theorem replies_own (addressed : Addressed requests) (before : d.Reachable activity)
    (after : e.Reachable activity) (same : e.slots.locate h = d.slots.locate h) :
    e.replies h (ownRequests h requests) = d.replies h requests := by
  induction requests generalizing d e with
  | nil => rfl
  | cons r requests ih =>
    obtain ⟨k, asked⟩ := addressed r List.mem_cons_self
    by_cases own : k = h
    · subst own
      rw [ownRequests_cons_own asked, replies_cons_own asked, replies_cons_own asked,
        reply_local before after asked same]
      congr 1
      exact ih addressed.tail (before.served r.1 r.2) (after.served r.1 r.2)
        (locate_own asked same r.1)
    · rw [ownRequests_cons_other asked own, replies_cons_other asked own]
      refine ih addressed.tail (before.served r.1 r.2) after (same.trans ?_)
      exact (locate_elsewhere asked (Ne.symm own) r.1).symm

/-- What the host hears of an adapter, it hears when that one is asked. -/
theorem callsFor_run (addressed : Addressed requests) (reachable : d.Reachable activity) :
    callsFor h (d.run requests).events = (d.replies h requests).flatMap Reply.calls := by
  induction requests generalizing d with
  | nil => rfl
  | cons r requests ih =>
    obtain ⟨k, asked⟩ := addressed r List.mem_cons_self
    rw [(d.run_cons r.1 r.2 requests).2, callsFor_append,
      callsFor_serve reachable.coherent asked h r.1, ih addressed.tail (reachable.served r.1 r.2)]
    by_cases own : k = h
    · subst own
      rw [if_pos rfl, replies_cons_own asked, List.flatMap_cons]
    · rw [if_neg own, replies_cons_other asked own, List.nil_append]

/-! ## Rearranging -/

/-- **A request can go ahead of those to others.** -/
theorem Reachable.run_ahead (reachable : d.Reachable activity) (asked : r.2.addressee? = some h)
    (addressed : Addressed left) (others : ownRequests h left = []) :
    (d.run (left ++ r :: right)).state = (d.run (r :: (left ++ right))).state := by
  induction left generalizing d with
  | nil => rfl
  | cons s left ih =>
    obtain ⟨k, asked'⟩ := addressed s List.mem_cons_self
    have away : k ≠ h := by
      rintro rfl
      rw [ownRequests_cons_own asked'] at others
      cases others
    rw [ownRequests_cons_other asked' away] at others
    have moved := ih (reachable.served s.1 s.2) addressed.tail others
    have exchanged := reachable.serve_comm asked asked' away r.1 s.1
    calc (d.run (s :: left ++ r :: right)).state
      _ = ((d.serve s.1 s.2).state.run (r :: (left ++ right))).state := moved
      _ = (((d.serve s.1 s.2).state.serve r.1 r.2).state.run (left ++ right)).state := rfl
      _ = (((d.serve r.1 r.2).state.serve s.1 s.2).state.run (left ++ right)).state := by
        rw [exchanged]

/-- **However requests to different adapters are interleaved, the driver ends up the same.** -/
theorem Reachable.run_rearranged (reachable : d.Reachable activity) (addressed : Addressed left)
    (addressed' : Addressed right) (same : ∀ h, ownRequests h left = ownRequests h right) :
    (d.run left).state = (d.run right).state := by
  induction left generalizing d right with
  | nil =>
    cases right with
    | nil => rfl
    | cons r right =>
      obtain ⟨h, asked⟩ := addressed' r List.mem_cons_self
      have own := same h
      rw [ownRequests_cons_own asked] at own
      cases own
  | cons r left ih =>
    obtain ⟨h, asked⟩ := addressed r List.mem_cons_self
    -- The first request of `left` is the first one to its adapter in `right` too.
    have own := same h
    rw [ownRequests_cons_own asked] at own
    obtain ⟨ahead, behind, rfl, none, -, rest⟩ := List.filter_eq_cons_iff.1 own.symm
    have others : ownRequests h ahead = [] := List.filter_eq_nil_iff.2 none
    have parts : Addressed ahead ∧ Addressed behind :=
      ⟨fun s member => addressed' s (List.mem_append_left _ member),
        fun s member => addressed' s (List.mem_append_right _ (List.mem_cons_of_mem r member))⟩
    rw [reachable.run_ahead asked parts.1 others]
    refine ih (reachable.served r.1 r.2) addressed.tail
      (fun s member => (List.mem_append.1 member).elim (parts.1 s) (parts.2 s)) fun k => ?_
    by_cases here : h = k
    · subst here
      rw [ownRequests_append, others, List.nil_append]
      exact rest.symm
    · have whole := same k
      rw [ownRequests_cons_other asked here, ownRequests_append,
        ownRequests_cons_other asked here] at whole
      rw [whole, ownRequests_append]

/-! ## The adapters of a driver -/

/-- The requests `r` and `s` bring the same in either order. -/
structure Exchange (d : Driver) (r s : HostAnswers × Request) : Prop where
  answers : (d.run [s, r]).answer = (d.run [r, s]).answer.reverse
  state : (d.run [s, r]).state = (d.run [r, s]).state
  calls : ∀ h, callsFor h (d.run [s, r]).events = callsFor h (d.run [r, s]).events

/-- The adapters of `d` do not disturb each other, whatever is asked of them. -/
structure Isolates (d : Driver) : Prop where
  /-- A request leaves all slots alone but the one that its handle resolves to. -/
  confined : ∀ answers request h i, Request.addressee? request = some h →
    d.slots.resolve h ≠ .ok i → (d.serve answers request).state.slots.slot i = d.slots.slot i
  exchange : ∀ r s h k, Request.addressee? r.2 = some h → Request.addressee? s.2 = some k → h ≠ k →
    d.Exchange r s
  /-- What an adapter answers and lets the host hear does not depend on what others are asked. -/
  alone : ∀ requests h, Addressed requests →
    d.replies h requests = d.replies h (ownRequests h requests) ∧
      callsFor h (d.run requests).events = callsFor h (d.run (ownRequests h requests)).events
  interleaved : ∀ left right, Addressed left → Addressed right →
    (∀ h, ownRequests h left = ownRequests h right) →
      (d.run left).state = (d.run right).state ∧
        ∀ h, d.replies h left = d.replies h right ∧
          callsFor h (d.run left).events = callsFor h (d.run right).events

theorem slot_of_unresolved {request : Request} (asked : request.addressee? = some h)
    {i : Fin maxAdapters} (unresolved : d.slots.resolve h ≠ .ok i) (answers : HostAnswers) :
    (d.serve answers request).state.slots.slot i = d.slots.slot i := by
  cases found : d.slots.locate h with
  | error why => rw [serve_of_lost asked found]
  | ok there =>
    obtain ⟨j, owned⟩ := there
    obtain ⟨holds, at_⟩ := SlotTable.locate_eq_ok.1 found
    have away : i ≠ j := by
      rintro rfl
      refine unresolved ?_
      rw [SlotTable.resolve_of_slot (congrArg Handle.slot at_)]
      exact if_pos ⟨SlotTable.inUse_iff.2 ⟨owned, holds⟩, (congrArg Handle.generation at_).symm⟩
    rw [serve_of_addressed asked found]
    exact SlotTable.slot_put_other _ _ away

theorem Reachable.alone (reachable : d.Reachable activity) (addressed : Addressed requests)
    (h : Handle) :
    d.replies h requests = d.replies h (ownRequests h requests) ∧
      callsFor h (d.run requests).events = callsFor h (d.run (ownRequests h requests)).events := by
  have own : Addressed (ownRequests h requests) := fun r member =>
    addressed r (List.mem_of_mem_filter member)
  have replies := (replies_own (h := h) addressed reachable reachable rfl).symm
  rw [callsFor_run addressed reachable, callsFor_run own reachable, ← replies]
  exact ⟨rfl, rfl⟩

theorem Reachable.interleaved (reachable : d.Reachable activity) (addressed : Addressed left)
    (addressed' : Addressed right) (same : ∀ h, ownRequests h left = ownRequests h right) :
    (d.run left).state = (d.run right).state ∧
      ∀ h, d.replies h left = d.replies h right ∧
        callsFor h (d.run left).events = callsFor h (d.run right).events := by
  refine ⟨reachable.run_rearranged addressed addressed' same, fun h => ?_⟩
  obtain ⟨replies, calls⟩ := reachable.alone addressed h
  obtain ⟨replies', calls'⟩ := reachable.alone addressed' h
  rw [replies, calls, replies', calls', same h]
  exact ⟨rfl, rfl⟩

/-- Two requests under different handles are the least interleaving. -/
theorem Reachable.exchange (reachable : d.Reachable activity) {s : HostAnswers × Request}
    (asked : r.2.addressee? = some h) (asked' : s.2.addressee? = some k) (other : h ≠ k) :
    d.Exchange r s := by
  have ordered : Addressed [r, s] := .cons asked (.cons asked' .nil)
  have swapped : Addressed [s, r] := .cons asked' (.cons asked .nil)
  obtain ⟨state, rest⟩ :=
    reachable.interleaved swapped ordered (ownRequests_swap asked asked' other)
  refine ⟨?_, state, fun l => (rest l).2⟩
  have first := congrArg Reply.answer (reply_local reachable (reachable.served s.1 s.2) asked
    (locate_elsewhere asked' other s.1) r.1)
  have second := congrArg Reply.answer (reply_local reachable (reachable.served r.1 r.2) asked'
    (locate_elsewhere asked other.symm r.1) s.1)
  change [_, ((d.serve s.1 s.2).state.serve r.1 r.2).answer] =
    [((d.serve r.1 r.2).state.serve s.1 s.2).answer, _]
  exact congrArg₂ (fun x y => [x, y]) second.symm first

/-- **Adapters do not disturb each other**, wherever a driver has got to. -/
theorem Reachable.isolates (reachable : d.Reachable activity) : d.Isolates where
  confined answers _ _ _ asked unresolved := slot_of_unresolved asked unresolved answers
  exchange _ _ _ _ asked asked' other := reachable.exchange asked asked' other
  alone _ h addressed := reachable.alone addressed h
  interleaved _ _ addressed addressed' same := reachable.interleaved addressed addressed' same

/-- A driver with adapters in its first two slots. -/
def neighbours : Driver :=
  (introduced.run
    [(.willing, .createAdapter ⟨⟨7⟩, none⟩), (.willing, .createAdapter ⟨⟨8⟩, none⟩)]).state

/-- One adapter goes with a list to send while the other one works, and a list comes back under a
handle that the first slot has not had yet. -/
def mixed : List (HostAnswers × Request) :=
  [(.willing, .restart ⟨0, 1⟩ 0), (.willing, .restart ⟨1, 1⟩ 0),
    (.willing, .send .passive ⟨0, 1⟩ [⟨6⟩] ⟨0⟩), (.willing, .send .passive ⟨1, 1⟩ [⟨6⟩] ⟨0⟩),
    (.willing, .takeBack .passive ⟨0, 2⟩ [⟨6⟩] ⟨0⟩), (.willing, .haltAdapter ⟨0, 1⟩ .unspecified),
    (.willing, .completeSend ⟨1, 1⟩ ⟨6⟩ .success)]

theorem neighbours_isolates :
    neighbours.Reachable ⟨1, 2⟩ ∧ neighbours.Isolates ∧
      neighbours.slots.resolve ⟨0, 1⟩ = .ok ⟨0, by decide⟩ ∧
      neighbours.slots.resolve ⟨1, 1⟩ = .ok ⟨1, by decide⟩ ∧
      neighbours.slots.resolve ⟨0, 2⟩ = .error .staleAdapter ∧
      callsFor ⟨0, 1⟩ (neighbours.run mixed).events = [.sendComplete ⟨0, 1⟩ ⟨6⟩ .failure] ∧
      callsFor ⟨0, 2⟩ (neighbours.run mixed).events =
        [.errorLog (some ⟨0, 2⟩) .leakBufferLists] ∧
      callsFor ⟨1, 1⟩ (neighbours.run mixed).events = [.sendComplete ⟨1, 1⟩ ⟨6⟩ .success] := by
  have reachable : neighbours.Reachable ⟨1, 2⟩ := (sample_reachable.run _).run _
  exact ⟨reachable, reachable.isolates, by decide +kernel, by decide +kernel, by decide +kernel,
    by decide +kernel, by decide +kernel, by decide +kernel⟩

end Driver

end PacketRadio
