import PacketRadio.Driver.Traffic
import PacketRadio.Proofs.Adapter.Changes

/-!
# Operations on an adapter

Every operation is a sequence of changes. An adapter calls its host only when it is flushed; all
other calls are made for it, with the answers of its operations.
-/

namespace PacketRadio

namespace Adapter

/-! ## Lifecycle -/

theorem pause_evolves (a : Adapter) : a.Evolves a.pause.state := by
  by_cases running : a.lifecycle = .running
  · rcases Nat.eq_zero_or_pos a.outstanding with idle | busy
    · rw [pause_of_idle running idle]
      exact (Change.moved (.pause false) (by rw [running]; rfl)).evolves
    · rw [pause_of_busy running busy]
      exact (Change.moved (.pause true) (by rw [running]; rfl)).evolves
  · rw [pause_of_still running]
    exact .refl a

theorem restart_evolves (a : Adapter) (flags : UInt32) : a.Evolves (a.restart flags).state := by
  by_cases paused : a.lifecycle = .paused
  · rw [restart_of_paused paused]
    have first : a.Change { a with lifecycle := .restarting } :=
      .moved .restart (by rw [paused]; rfl)
    have second : Change { a with lifecycle := .restarting } { a with lifecycle := .running } :=
      .moved .restartComplete rfl
    exact first.evolves.trans second.evolves
  · rw [restart_of_unpaused paused]
    exact .refl a

theorem settlePause_evolves (a : Adapter) : a.Evolves a.settlePause.state := by
  by_cases drained : a.Drained
  · rw [settlePause_of_drained drained]
    exact (Change.moved .pauseComplete (by rw [drained.1]; rfl)).evolves
  · rw [settlePause_of_undrained drained]
    exact .refl a

/-- The outcome leaves `a` as it was but for its lifecycle, and the host is not called. -/
def OnlyMoves {α : Type} (a : Adapter) (o : Outcome Event Adapter α) : Prop :=
  (∃ lifecycle, o.state = { a with lifecycle := lifecycle }) ∧ hostCalls o.events = []

namespace OnlyMoves

variable {α : Type} {a : Adapter} {o : Outcome Event Adapter α}

theorem calls (moves : a.OnlyMoves o) : hostCalls o.events = [] := moves.2

theorem sends (moves : a.OnlyMoves o) : o.state.sends = a.sends := by
  obtain ⟨⟨lifecycle, same⟩, -⟩ := moves
  rw [same]

theorem receives (moves : a.OnlyMoves o) : o.state.receives = a.receives := by
  obtain ⟨⟨lifecycle, same⟩, -⟩ := moves
  rw [same]

end OnlyMoves

theorem pause_onlyMoves (a : Adapter) : a.OnlyMoves a.pause := by
  by_cases running : a.lifecycle = .running
  · rcases Nat.eq_zero_or_pos a.outstanding with idle | busy
    · rw [pause_of_idle running idle]
      exact ⟨⟨_, rfl⟩, rfl⟩
    · rw [pause_of_busy running busy]
      exact ⟨⟨_, rfl⟩, rfl⟩
  · rw [pause_of_still running]
    exact ⟨⟨a.lifecycle, rfl⟩, rfl⟩

theorem restart_onlyMoves (a : Adapter) (flags : UInt32) : a.OnlyMoves (a.restart flags) := by
  by_cases paused : a.lifecycle = .paused
  · rw [restart_of_paused paused]
    exact ⟨⟨_, rfl⟩, rfl⟩
  · rw [restart_of_unpaused paused]
    exact ⟨⟨a.lifecycle, rfl⟩, rfl⟩

theorem settlePause_onlyMoves (a : Adapter) : a.OnlyMoves a.settlePause := by
  by_cases drained : a.Drained
  · rw [settlePause_of_drained drained]
    exact ⟨⟨_, rfl⟩, rfl⟩
  · rw [settlePause_of_undrained drained]
    exact ⟨⟨a.lifecycle, rfl⟩, rfl⟩

/-! ## Traffic -/

/-- A list is taken to be sent, or refused and the adapter left alone. -/
theorem send_cases (a : Adapter) (list : BufferList) :
    (∃ sends, a.sends.insert? list = some sends ∧ a.lifecycle = .running ∧
      a.send list = .quiet (.ok ()) { a with sends := sends }) ∨
    ∃ status, a.send list = .quiet (.error status) a := by
  unfold send
  split
  · exact .inr ⟨_, rfl⟩
  · rename_i accepts
    split
    · exact .inr ⟨_, rfl⟩
    · rename_i sends taken
      refine .inl ⟨sends, taken, ?_, rfl⟩
      simpa [Lifecycle.acceptsTraffic] using accepts

/-- A received list is noted, or refused and the adapter left alone. -/
theorem receive_cases (a : Adapter) (list : BufferList) :
    (∃ receives, a.receives.insert? list = some receives ∧ a.lifecycle = .running ∧
      a.receive list = .quiet (.ok ()) { a with receives := receives }) ∨
    ∃ status, a.receive list = .quiet (.error status) a := by
  unfold receive
  split
  · exact .inr ⟨_, rfl⟩
  · rename_i accepts
    split
    · exact .inr ⟨_, rfl⟩
    · rename_i receives taken
      refine .inl ⟨receives, taken, ?_, rfl⟩
      simpa [Lifecycle.acceptsTraffic] using accepts

theorem completeSend_of_held {a : Adapter} {list : BufferList} {sends : InFlight}
    (gone : a.sends.remove? list = some sends) :
    a.completeSend list = (settlePause { a with sends := sends }).map .ok := by
  rw [completeSend, gone]

theorem completeSend_of_absent {a : Adapter} {list : BufferList}
    (absent : a.sends.remove? list = none) :
    a.completeSend list = .quiet (.error .unknownBufferList) a := by
  rw [completeSend, absent]

theorem takeBack_of_held {a : Adapter} {list : BufferList} {receives : InFlight}
    (gone : a.receives.remove? list = some receives) :
    a.takeBack list = (settlePause { a with receives := receives }).map .ok := by
  rw [takeBack, gone]

theorem takeBack_of_absent {a : Adapter} {list : BufferList}
    (absent : a.receives.remove? list = none) :
    a.takeBack list = .quiet (.error .unknownBufferList) a := by
  rw [takeBack, absent]

theorem takeSend_of_held {a : Adapter} {list : BufferList} {sends : InFlight}
    (gone : a.sends.pop? = some (list, sends)) :
    a.takeSend = (settlePause { a with sends := sends }).map fun _ => some list := by
  rw [takeSend, gone]

theorem takeSend_of_empty {a : Adapter} (empty : a.sends.pop? = none) :
    a.takeSend = .quiet none a := by
  rw [takeSend, empty]

theorem send_evolves (a : Adapter) (list : BufferList) : a.Evolves (a.send list).state := by
  rcases a.send_cases list with ⟨sends, taken, -, same⟩ | ⟨status, same⟩
  · rw [same]
    exact (Change.sendTaken taken).evolves
  · rw [same]
    exact .refl a

theorem receive_evolves (a : Adapter) (list : BufferList) : a.Evolves (a.receive list).state := by
  rcases a.receive_cases list with ⟨receives, taken, -, same⟩ | ⟨status, same⟩
  · rw [same]
    exact (Change.receiveTaken taken).evolves
  · rw [same]
    exact .refl a

theorem completeSend_evolves (a : Adapter) (list : BufferList) :
    a.Evolves (a.completeSend list).state := by
  cases gone : a.sends.remove? list with
  | none =>
    rw [completeSend_of_absent gone]
    exact .refl a
  | some sends =>
    rw [completeSend_of_held gone]
    exact (Change.sendGone gone).evolves.trans (settlePause_evolves _)

theorem takeBack_evolves (a : Adapter) (list : BufferList) :
    a.Evolves (a.takeBack list).state := by
  cases gone : a.receives.remove? list with
  | none =>
    rw [takeBack_of_absent gone]
    exact .refl a
  | some receives =>
    rw [takeBack_of_held gone]
    exact (Change.receiveGone gone).evolves.trans (settlePause_evolves _)

theorem takeSend_evolves (a : Adapter) : a.Evolves a.takeSend.state := by
  cases gone : a.sends.pop? with
  | none =>
    rw [takeSend_of_empty gone]
    exact .refl a
  | some first =>
    obtain ⟨list, sends⟩ := first
    rw [takeSend_of_held gone]
    exact (Change.sendPopped gone).evolves.trans (settlePause_evolves _)

theorem send_events (a : Adapter) (list : BufferList) : (a.send list).events = [] := by
  rcases a.send_cases list with ⟨sends, -, -, same⟩ | ⟨status, same⟩ <;> rw [same] <;> rfl

theorem takeBack_calls (a : Adapter) (list : BufferList) :
    hostCalls (a.takeBack list).events = [] := by
  cases gone : a.receives.remove? list with
  | none => rw [takeBack_of_absent gone, Outcome.quiet_events, hostCalls_nil]
  | some receives =>
    rw [takeBack_of_held gone, Outcome.map_events, (settlePause_onlyMoves _).calls]

/-! ## Batches -/

theorem sendAll_evolves (handle : Handle) (lists : List BufferList) (a : Adapter) :
    a.Evolves (sendAll handle lists a).state := by
  induction lists generalizing a with
  | nil => exact .refl a
  | cons list lists ih => exact (a.send_evolves list).trans (ih _)

theorem takeBackAll_evolves (handle : Handle) (lists : List BufferList) (a : Adapter) :
    a.Evolves (takeBackAll handle lists a).state := by
  induction lists generalizing a with
  | nil => exact .refl a
  | cons list lists ih => exact (a.takeBack_evolves list).trans (ih _)

/-! ## Flushing -/

theorem flush_evolves (rounds : Nat) (a : Adapter) : a.Evolves (flush rounds a).state := by
  induction rounds generalizing a with
  | zero => exact .refl a
  | succ rounds ih =>
    have first := a.takeSend_evolves
    rw [flush, Outcome.andThen_state]
    split
    · exact first
    · exact first.trans (ih _)

/-- With as many rounds as there are lists, a flush gives each of them back, first one first. -/
theorem flush_spec {rounds : Nat} {a : Adapter} (enough : a.sends.held.length ≤ rounds) :
    hostCalls (flush rounds a).events =
        a.sends.held.map (fun list => .sendComplete a.handle list .failure) ∧
      (flush rounds a).state.sends.held = [] := by
  induction rounds generalizing a with
  | zero =>
    have none : a.sends.held = [] := List.eq_nil_of_length_eq_zero (by omega)
    rw [flush, none]
    exact ⟨rfl, none⟩
  | succ rounds ih =>
    cases gone : a.sends.pop? with
    | none =>
      have none := InFlight.pop?_eq_none.1 gone
      rw [flush, takeSend_of_empty gone, none]
      exact ⟨rfl, none⟩
    | some first =>
      obtain ⟨list, sends⟩ := first
      have held := (InFlight.pop?_held gone).1
      have same : (settlePause { a with sends := sends }).state.sends = sends :=
        (settlePause_onlyMoves _).sends
      have kept : (settlePause { a with sends := sends }).state.handle = a.handle :=
        (settlePause_evolves { a with sends := sends }).identity.handle
      rw [held, List.length_cons] at enough
      obtain ⟨calls, empty⟩ :=
        ih (a := (settlePause { a with sends := sends }).state) (by rw [same]; omega)
      rw [flush, takeSend_of_held gone, held]
      simp only [Outcome.andThen_events, Outcome.andThen_state, Outcome.map_events,
        Outcome.map_answer, Outcome.map_state, Outcome.after_events, Outcome.after_state,
        hostCalls_append, (settlePause_onlyMoves _).calls, hostCalls_call, calls, same, kept,
        empty, List.map_cons, List.nil_append, List.cons_append, and_self]

/-- **A flush gives every held list back as failed**, each once, and nothing else. -/
theorem flushSends_spec (a : Adapter) :
    hostCalls a.flushSends.events =
        a.sends.held.map (fun list => .sendComplete a.handle list .failure) ∧
      a.flushSends.state.sends.held = [] :=
  flush_spec a.sends.length_held_le

/-! ## Attributes -/

/-- An outcome that sets an adapter at most, and calls nobody. -/
def OnlySets {α : Type} (a : Adapter) (o : Outcome Event Adapter α) : Prop :=
  (∃ filter vlan multicast,
    o.state = { a with filter := filter, vlan := vlan, multicast := multicast }) ∧
    hostCalls o.events = []

theorem query_onlySets (a : Adapter) (r : AttributeRequest) : a.OnlySets (a.query r) := by
  unfold query
  split <;> exact ⟨⟨a.filter, a.vlan, a.multicast, rfl⟩, rfl⟩

theorem setFilter_onlySets (a : Adapter) (r : AttributeRequest) : a.OnlySets (a.setFilter r) := by
  unfold setFilter
  split
  · exact ⟨⟨a.filter, a.vlan, a.multicast, rfl⟩, rfl⟩
  · dsimp only
    split
    · exact ⟨⟨_, a.vlan, a.multicast, rfl⟩, rfl⟩
    · exact ⟨⟨a.filter, a.vlan, a.multicast, rfl⟩, rfl⟩

theorem setVlan_onlySets (a : Adapter) (r : AttributeRequest) : a.OnlySets (a.setVlan r) := by
  unfold setVlan
  split
  · exact ⟨⟨a.filter, a.vlan, a.multicast, rfl⟩, rfl⟩
  · split
    · exact ⟨⟨a.filter, a.vlan, a.multicast, rfl⟩, rfl⟩
    · exact ⟨⟨a.filter, _, a.multicast, rfl⟩, rfl⟩

theorem setGroups_onlySets (a : Adapter) (r : AttributeRequest) : a.OnlySets (a.setGroups r) := by
  unfold setGroups
  split
  · exact ⟨⟨a.filter, a.vlan, a.multicast, rfl⟩, rfl⟩
  · split
    · exact ⟨⟨a.filter, a.vlan, a.multicast, rfl⟩, rfl⟩
    · exact ⟨⟨a.filter, a.vlan, _, rfl⟩, rfl⟩

/-- Attributes are served besides the traffic and the lifecycle. -/
theorem serve_onlySets (a : Adapter) (r : AttributeRequest) : a.OnlySets (a.serve r) := by
  unfold serve
  split
  · exact a.query_onlySets r
  · unfold set
    split
    · exact a.setFilter_onlySets r
    · exact a.setVlan_onlySets r
    · exact a.setGroups_onlySets r
    · exact ⟨⟨a.filter, a.vlan, a.multicast, rfl⟩, rfl⟩

theorem serve_evolves (a : Adapter) (r : AttributeRequest) : a.Evolves (a.serve r).state := by
  obtain ⟨⟨filter, vlan, multicast, same⟩, -⟩ := a.serve_onlySets r
  rw [same]
  exact (Change.set filter vlan multicast).evolves

end Adapter

end PacketRadio
