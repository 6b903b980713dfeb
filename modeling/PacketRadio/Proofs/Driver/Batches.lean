import PacketRadio.Proofs.Driver.Pauses
import PacketRadio.Proofs.Driver.Receives
import PacketRadio.Proofs.Driver.Refusals

/-!
# Batches

Buffer lists are sent, and come back, many at a time. The adapter looks at one after the other, so a
batch can be cut in pieces: the driver ends up the same, and the host hears the same in the same
order. What is refused for want of room is refused at the same place.

A batch that comes back while a pause is pending may hold the lists that are waited for. The host
hears of the end of the pause with the first list after which nothing is outstanding; the rest of
the batch comes back in vain.
-/

namespace PacketRadio

open Pool

/-! ## In one adapter -/

namespace Adapter

/-- How many lists the adapter still holds after `lists` have come back. -/
def leftAfter (a : Adapter) (lists : List BufferList) : Nat :=
  a.sends.held.length + (a.receives.held.filter fun x => x ∉ lists).length

theorem Sound.leftAfter_nil {a : Adapter} (sound : a.Sound) : a.leftAfter [] = a.outstanding := by
  rw [leftAfter, outstanding, sound.sends.count_eq, sound.receives.count_eq]
  simp

/-- The more comes back, the less is left. -/
theorem leftAfter_anti (a : Adapter) {lists more : List BufferList} (part : lists ⊆ more) :
    a.leftAfter more ≤ a.leftAfter lists := by
  refine Nat.add_le_add_left (List.Sublist.length_le (List.monotone_filter_right _ ?_)) _
  intro x absent
  simp only [decide_eq_true_eq] at absent ⊢
  exact fun member => absent (part member)

/-- A list that is held is held once, so it is gone when it has come back once. -/
theorem Sound.leftAfter_cons {a : Adapter} (sound : a.Sound) (list : BufferList)
    (lists : List BufferList) :
    (a.takeBack list).state.leftAfter lists = a.leftAfter (list :: lists) := by
  rw [leftAfter, leftAfter, takeBack_sends]
  congr 1
  cases gone : a.receives.remove? list with
  | none =>
    have absent := InFlight.remove?_eq_none.1 gone
    rw [takeBack_of_absent gone]
    refine congrArg List.length (List.filter_congr fun x held => ?_)
    have other : x ≠ list := fun same => absent (same ▸ held)
    simp [other]
  | some receives =>
    have held := (InFlight.remove?_held gone).1
    have absent : list ∉ receives.held :=
      (List.nodup_cons.1 (held.nodup_iff.1 sound.receives.nodup)).1
    rw [takeBack_of_held gone, Outcome.map_state, (settlePause_onlyMoves _).receives,
      (held.filter _).length_eq, List.filter_cons_of_neg (by simp)]
    refine congrArg List.length (List.filter_congr fun x member => ?_)
    have other : x ≠ list := fun same => absent (same ▸ member)
    simp [other]

/-- **What a batch leaves is what did not come back**, and the host is told of the end of a pause if
that is nothing. -/
theorem Steady.takeBackAll_spec {a : Adapter} (steady : a.Steady) (handle : Handle)
    (lists : List BufferList) :
    (Adapter.takeBackAll handle lists a).state.outstanding = a.leftAfter lists ∧
      hostCalls (Adapter.takeBackAll handle lists a).events =
        if a.lifecycle = .pausing ∧ a.leftAfter lists = 0 then [.pauseComplete handle] else [] := by
  induction lists generalizing a with
  | nil =>
    have whole := steady.toSound.leftAfter_nil
    refine ⟨whole.symm, (if_neg fun ⟨pausing, nothing⟩ => ?_).symm⟩
    exact steady.busy pausing (steady.toSound.outstanding_eq_zero.1 (whole.symm.trans nothing))
  | cons list lists ih =>
    have left := steady.toSound.leftAfter_cons list lists
    rw [takeBackAll_cons_state, takeBackAll_cons_calls, ← left]
    rcases steady.takeBack list with ⟨answer, idle, paces⟩ | ⟨answer, paces⟩
    · -- With this list nothing is outstanding, so the others are not held.
      have pausing : a.lifecycle = .pausing := by
        rw [← waiting_iff]
        cases awaiting : a.waiting with
        | true => rfl
        | false =>
          have turns := paces.awaiting
          rw [awaiting] at turns
          cases turns
      have nothing : (a.takeBack list).state.leftAfter lists = 0 := by
        rw [leftAfter, idle.1, idle.2]
        rfl
      refine ⟨(ih paces.steady).1, ?_⟩
      rw [if_pos answer, if_pos ⟨pausing, nothing⟩, (takeBackAll_of_none idle.2 handle lists).2]
      rfl
    · have same : (a.takeBack list).state.lifecycle = .pausing ↔ a.lifecycle = .pausing := by
        rw [← waiting_iff, ← waiting_iff, paces.awaiting.last]
        rfl
      obtain ⟨outstanding, calls⟩ := ih paces.steady
      refine ⟨outstanding, ?_⟩
      rw [if_neg answer, List.nil_append, calls]
      exact if_congr (and_congr_left' same) rfl rfl

/-- When nothing is outstanding, the rest of a batch comes back in vain. -/
theorem Steady.takeBackAll_rest {a : Adapter} (steady : a.Steady) (handle : Handle)
    {lists : List BufferList} (nothing : a.leftAfter lists = 0) (more : List BufferList) :
    (Adapter.takeBackAll handle (lists ++ more) a).state =
        (Adapter.takeBackAll handle lists a).state ∧
      hostCalls (Adapter.takeBackAll handle (lists ++ more) a).events =
        hostCalls (Adapter.takeBackAll handle lists a).events := by
  have outstanding := (steady.takeBackAll_spec handle lists).1
  have sound := (takeBackAll_evolves handle lists a).sound steady.toSound
  have idle := sound.outstanding_eq_zero.1 (outstanding.trans nothing)
  obtain ⟨state, calls⟩ := takeBackAll_of_none idle.2 handle more
  rw [takeBackAll_append_state, takeBackAll_append_calls, state, calls, List.append_nil]
  exact ⟨rfl, rfl⟩

end Adapter

/-! ## Batches in pieces -/

/-- Work of the adapter `h` on a batch is work on its pieces, one after the other. -/
structure Cuts (h : Handle) (visit : List BufferList → Visit) : Prop where
  adapter : ∀ lists, (visit lists).adapter = h
  state : ∀ a xs ys, ((visit (xs ++ ys)).work a).state =
    ((visit ys).work ((visit xs).work a).state).state
  calls : ∀ a xs ys, hostCalls ((visit (xs ++ ys)).work a).events =
    hostCalls ((visit xs).work a).events ++
      hostCalls ((visit ys).work ((visit xs).work a).state).events
  nothing : ∀ a, ((visit []).work a).state = a ∧ hostCalls ((visit []).work a).events = []

/-- The host does not hear how often there was a warning. -/
theorem Cuts.after {h : Handle} {visit : List BufferList → Visit} (cuts : Cuts h visit)
    {warning : List Event} (silent : hostCalls warning = []) :
    Cuts h fun lists => (visit lists).after warning where
  adapter := cuts.adapter
  state := cuts.state
  calls a xs ys := by
    simp only [Visit.after, Outcome.after_events, Outcome.after_state, hostCalls_append, silent,
      List.nil_append]
    exact cuts.calls a xs ys
  nothing a := by
    simp only [Visit.after, Outcome.after_events, Outcome.after_state, hostCalls_append, silent,
      List.nil_append]
    exact cuts.nothing a

theorem Cuts.send (h : Handle) : Cuts h (Visit.send h) where
  adapter _ := rfl
  state a := a.sendAll_append_state h
  calls a := a.sendAll_append_calls h
  nothing _ := ⟨rfl, rfl⟩

theorem Cuts.takeBack (h : Handle) : Cuts h (Visit.takeBack h) where
  adapter _ := rfl
  state a := a.takeBackAll_append_state h
  calls a := a.takeBackAll_append_calls h
  nothing _ := ⟨rfl, rfl⟩

/-- What is asked by `batch` for some lists is the work on them. -/
structure Piecewise (h : Handle) (batch : List BufferList → Request)
    (visit : List BufferList → Visit) : Prop extends Cuts h visit where
  errand : ∀ lists, (batch lists).errand = .visit (visit lists)

theorem Piecewise.send (level : Level) (h : Handle) (flags : SendFlags) :
    Piecewise h (fun lists => .send level h lists flags) fun lists =>
      (Visit.send h lists).after
        (Request.levelWarning (flags.includes SendFlags.dispatchLevel == level.mayBlock)
          (.sendLevel h flags level)) where
  toCuts := (Cuts.send h).after (Request.levelWarning_calls _ _)
  errand _ := rfl

theorem Piecewise.takeBack (level : Level) (h : Handle) (flags : ReturnFlags) :
    Piecewise h (fun lists => .takeBack level h lists flags) fun lists =>
      (Visit.takeBack h lists).after
        (Request.levelWarning (flags.includes ReturnFlags.dispatchLevel == level.mayBlock)
          (.returnLevel h flags level)) where
  toCuts := (Cuts.takeBack h).after (Request.levelWarning_calls _ _)
  errand _ := rfl

theorem Piecewise.serve {h : Handle} {batch : List BufferList → Request}
    {visit : List BufferList → Visit} (piecewise : Piecewise h batch visit) {d : Driver}
    {i : Fin maxAdapters} {owned : Owned Adapter}
    (found : d.slots.locate h = .ok (i, owned)) (answers : HostAnswers)
    (lists : List BufferList) :
    d.serve answers (batch lists) =
      ⟨.ok ((visit lists).work owned.value).answer,
        d.withSlots (d.slots.put i { d.slots.slot i with
          occupant := some ⟨owned.block, ((visit lists).work owned.value).state⟩ }),
        ((visit lists).work owned.value).events⟩ :=
  Driver.serve_of_found (piecewise.errand lists) (by rw [piecewise.adapter]; exact found) answers

namespace SlotTable

theorem put_put (t : SlotTable) (i : Fin maxAdapters) (s r : Slot) :
    (t.put i s).put i r = t.put i r :=
  congrArg SlotTable.mk (Vector.set_set ..)

/-- Work on an adapter leaves its handle with it. -/
theorem locate_rewrite {t : SlotTable} {h : Handle} {i : Fin maxAdapters} {owned : Owned Adapter}
    (found : t.locate h = .ok (i, owned)) (a : Adapter) :
    (t.put i { t.slot i with occupant := some ⟨owned.block, a⟩ }).locate h =
      .ok (i, ⟨owned.block, a⟩) := by
  obtain ⟨-, named⟩ := locate_eq_ok.1 found
  rw [locate_eq_ok, handleAt, slot_put_same]
  exact ⟨rfl, named⟩

end SlotTable

namespace Driver

/-- The driver ends up the same, and the host has heard the same in the same order. -/
structure Alike {α β : Type} (o : Outcome Event Driver α) (p : Outcome Event Driver β) : Prop where
  state : o.state = p.state
  calls : hostCalls o.events = hostCalls p.events

theorem Alike.trans {α β γ : Type} {o : Outcome Event Driver α} {p : Outcome Event Driver β}
    {q : Outcome Event Driver γ} (h : Alike o p) (k : Alike p q) : Alike o q :=
  ⟨h.state.trans k.state, h.calls.trans k.calls⟩

/-- Asked by `batch` for many lists at once, `d` does what it does when asked for some and then for
the others, or for one after the other. -/
structure Divides (d : Driver) (batch : List BufferList → Request) : Prop where
  pieces : ∀ answers first second xs ys,
    Alike (d.serve answers (batch (xs ++ ys))) (d.run [(first, batch xs), (second, batch ys)])
  singly : ∀ answers each lists,
    Alike (d.serve answers (batch lists)) (d.run (lists.map fun x => (each, batch [x])))

/-- Where batches fall in two pieces, they fall in single lists. -/
theorem divides_of_pieces {P : Driver → Prop} {batch : List BufferList → Request}
    (pieces : ∀ d, P d → ∀ answers first second xs ys,
      Alike (d.serve answers (batch (xs ++ ys))) (d.run [(first, batch xs), (second, batch ys)]))
    (nothing : ∀ d, P d → ∀ answers, Alike (d.serve answers (batch [])) (d.run []))
    (kept : ∀ d, P d → ∀ answers lists, P (d.serve answers (batch lists)).state)
    {d : Driver} (holds : P d) : d.Divides batch where
  pieces := pieces d holds
  singly answers each lists := by
    induction lists generalizing d with
    | nil => exact nothing d holds answers
    | cons x lists ih =>
      have rest := ih (kept d holds each [x])
      refine (pieces d holds answers each answers [x] lists).trans ⟨?_, ?_⟩
      · exact rest.state
      · have calls := rest.calls
        rw [(d.run_cons each (batch [x]) _).2, List.map_cons, (d.run_cons each (batch [x]) _).2,
          hostCalls_append, hostCalls_append, ← calls, (run_cons _ answers (batch lists) []).2,
          run, Outcome.quiet_events, List.append_nil]

variable {batch : List BufferList → Request} {visit : List BufferList → Visit} {h : Handle}

/-- An adapter that is there works on a batch piece by piece. -/
theorem pieces_of_found (piecewise : Piecewise h batch visit) {d : Driver} {i : Fin maxAdapters}
    {owned : Owned Adapter} (found : d.slots.locate h = .ok (i, owned))
    (answers first second : HostAnswers) (xs ys : List BufferList) :
    Alike (d.serve answers (batch (xs ++ ys))) (d.run [(first, batch xs), (second, batch ys)]) := by
  have later := SlotTable.locate_rewrite found ((visit xs).work owned.value).state
  have rest := piecewise.serve
    (d := d.withSlots (d.slots.put i { d.slots.slot i with
      occupant := some ⟨owned.block, ((visit xs).work owned.value).state⟩ })) later second ys
  constructor
  · rw [(d.run_cons first _ _).1, (run_cons _ second _ _).1, piecewise.serve found first xs, rest,
      piecewise.serve found answers (xs ++ ys)]
    simp only [piecewise.state, withSlots_slots, SlotTable.slot_put_same, SlotTable.put_put]
    rfl
  · rw [(d.run_cons first _ _).2, (run_cons _ second _ _).2, piecewise.serve found first xs, rest,
      piecewise.serve found answers (xs ++ ys), hostCalls_append]
    simp only [piecewise.calls, run, Outcome.quiet_events, List.append_nil]

theorem nothing_of_found (piecewise : Piecewise h batch visit) {d : Driver} {i : Fin maxAdapters}
    {owned : Owned Adapter} (found : d.slots.locate h = .ok (i, owned)) (answers : HostAnswers) :
    Alike (d.serve answers (batch [])) (d.run []) := by
  obtain ⟨holds, -⟩ := SlotTable.locate_eq_ok.1 found
  obtain ⟨same, silent⟩ := piecewise.nothing owned.value
  rw [piecewise.serve found, same, d.put_slot holds]
  exact ⟨rfl, silent⟩

/-- **What is sent in a batch may as well be sent list by list**, whether the adapter is there or
not. -/
theorem send_divides (d : Driver) (level : Level) (h : Handle) (flags : SendFlags) :
    d.Divides fun lists => .send level h lists flags := by
  have piecewise := Piecewise.send level h flags
  refine divides_of_pieces (P := fun _ => True) ?_ ?_ (fun _ _ _ _ => trivial) trivial
  · intro d _ answers first second xs ys
    cases found : d.slots.locate h with
    | ok there => exact pieces_of_found piecewise found answers first second xs ys
    | error why =>
      have missed := fun answers lists =>
        serve_of_missing (piecewise.errand lists) found answers
      constructor
      · rw [(d.run_cons first _ _).1, missed, missed, (run_cons _ second _ _).1, missed]
        rfl
      · rw [(d.run_cons first _ _).2, missed, missed, (run_cons _ second _ _).2, missed]
        simp only [Visit.after, Visit.send, List.flatMap_append, hostCalls_append,
          Request.levelWarning_calls, List.nil_append, run, Outcome.quiet_events,
          List.append_nil]
  · intro d _ answers
    cases found : d.slots.locate h with
    | ok there => exact nothing_of_found piecewise found answers
    | error why =>
      rw [serve_of_missing (piecewise.errand []) found]
      exact ⟨rfl, by simp [Visit.after, Visit.send, run]⟩

/-- **What comes back in a batch may as well come back list by list**, if the adapter is there. -/
theorem takeBack_divides {d : Driver} {h : Handle} {i : Fin maxAdapters}
    (resolves : d.slots.resolve h = .ok i) (level : Level) (flags : ReturnFlags) :
    d.Divides fun lists => .takeBack level h lists flags := by
  have piecewise := Piecewise.takeBack level h flags
  obtain ⟨owned, -, found⟩ := SlotTable.locate_of_resolve resolves
  refine divides_of_pieces (P := fun d => ∃ i owned, d.slots.locate h = .ok (i, owned)) ?_ ?_ ?_
    ⟨i, owned, found⟩
  · rintro d ⟨i, owned, found⟩ answers first second xs ys
    exact pieces_of_found piecewise found answers first second xs ys
  · rintro d ⟨i, owned, found⟩ answers
    exact nothing_of_found piecewise found answers
  · rintro d ⟨i, owned, found⟩ answers lists
    rw [piecewise.serve found]
    exact ⟨i, _, SlotTable.locate_rewrite found _⟩

/-! ## Batches that end a pause -/

/-- The adapter `a` is done waiting with the list `last` of a batch. -/
structure Drains (d : Driver) (answers : HostAnswers) (level : Level) (h : Handle) (a : Adapter)
    (flags : ReturnFlags) (before : List BufferList) (last : BufferList)
    (after : List BufferList) : Prop where
  /-- No shorter piece of the batch would do. -/
  busy : ∀ first, first <+: before → 0 < a.leftAfter first
  drained : a.leftAfter (before ++ [last]) = 0
  unheard : hostCalls (d.serve answers (.takeBack level h before flags)).events = []
  heard : hostCalls (d.serve answers (.takeBack level h (before ++ [last]) flags)).events =
    [.pauseComplete h]
  /-- The rest of the batch makes no difference. -/
  vain : Alike (d.serve answers (.takeBack level h (before ++ last :: after) flags))
    (d.serve answers (.takeBack level h (before ++ [last]) flags))

/-- What comes of a batch that comes back to the adapter `a`. -/
structure TakesBack (d : Driver) (answers : HostAnswers) (level : Level) (h : Handle) (a : Adapter)
    (flags : ReturnFlags) (lists : List BufferList) : Prop where
  there : ∃ b, (d.serve answers (.takeBack level h lists flags)).state.slots.get h = .ok b ∧
    b.outstanding = a.leftAfter lists
  told : hostCalls (d.serve answers (.takeBack level h lists flags)).events =
    if a.lifecycle = .pausing ∧ a.leftAfter lists = 0 then [.pauseComplete h] else []
  drains : a.lifecycle = .pausing → a.leftAfter lists = 0 →
    ∃ before last after, lists = before ++ last :: after ∧
      d.Drains answers level h a flags before last after

/-- **A batch after which nothing is outstanding ends the pause**, with one of its lists. -/
theorem drains_of_found {d : Driver} {h : Handle} {i : Fin maxAdapters} {owned : Owned Adapter}
    (found : d.slots.locate h = .ok (i, owned)) (steady : owned.value.Steady)
    (pausing : owned.value.lifecycle = .pausing) {lists : List BufferList}
    (nothing : owned.value.leftAfter lists = 0) (answers : HostAnswers) (level : Level)
    (flags : ReturnFlags) :
    ∃ before last after, lists = before ++ last :: after ∧
      d.Drains answers level h owned.value flags before last after := by
  have takeBack := fun lists => serve_takeBack found answers level lists flags
  have spec := fun lists => (steady.takeBackAll_spec h lists).2
  rcases steady.takeBackAll h lists with ⟨before, last, after, rfl, ends⟩ | ⟨silent, -⟩
  · have drained : owned.value.leftAfter (before ++ [last]) = 0 := by
      by_contra some
      have told := ends.calls
      rw [spec, if_neg fun both => some both.2] at told
      cases told
    refine ⟨before, last, after, rfl, fun first part => ?_, drained, ?_, ?_, ?_⟩
    · refine Nat.lt_of_lt_of_le (Nat.pos_of_ne_zero fun none => ?_)
        (owned.value.leftAfter_anti part.subset)
      have silent := ends.before
      rw [spec, if_pos ⟨pausing, none⟩] at silent
      cases silent
    · rw [(takeBack before).1, ends.before]
    · rw [(takeBack _).1, ends.calls]
    · obtain ⟨state, calls⟩ := steady.takeBackAll_rest h drained after
      rw [List.append_assoc, List.singleton_append] at state calls
      constructor
      · rw [(takeBack _).2, (takeBack _).2, state]
      · rw [(takeBack _).1, (takeBack _).1, calls]
  · rw [spec, if_pos ⟨pausing, nothing⟩] at silent
    cases silent

theorem takesBack {d : Driver} (steady : d.All Adapter.Steady) {h : Handle} {a : Adapter}
    (there : d.slots.get h = .ok a) (answers : HostAnswers) (level : Level) (flags : ReturnFlags)
    (lists : List BufferList) : d.TakesBack answers level h a flags lists := by
  rw [SlotTable.get_eq_ok] at there
  cases found : d.slots.locate h with
  | error why =>
    rw [SlotTable.adapter?_of_missing found] at there
    cases there
  | ok at_ =>
    obtain ⟨i, owned⟩ := at_
    cases there.symm.trans (SlotTable.adapter?_of_locate found)
    have calm := steady h owned.value there
    obtain ⟨calls, state⟩ := serve_takeBack found answers level lists flags
    obtain ⟨outstanding, told⟩ := calm.takeBackAll_spec h lists
    refine ⟨⟨_, ?_, outstanding⟩, calls.trans told, fun pausing nothing =>
      drains_of_found found calm pausing nothing answers level flags⟩
    rw [SlotTable.get_eq_ok, state, withSlots_slots, SlotTable.adapter?_rewrite found, if_pos rfl]

theorem Reachable.steady {d : Driver} {activity : Activity} (reachable : d.Reachable activity) :
    d.All Adapter.Steady :=
  reachable.all Adapter.setUpFor_steady fun errand _ steady =>
    (work_pacing errand steady).marks.steady

/-- How often the host is told of the end of a pause. -/
def pauseCompletions (events : List Event) : Nat :=
  (hostCalls events).countP fun call => call matches .pauseComplete _

/-- What can be said of the batches that `d` is asked to send or to take back. -/
structure WorksThrough (d : Driver) : Prop where
  send : ∀ level h flags, d.Divides fun lists => .send level h lists flags
  takeBack : ∀ level h flags i, d.slots.resolve h = .ok i →
    d.Divides fun lists => .takeBack level h lists flags
  returned : ∀ answers level h a flags lists, d.slots.get h = .ok a →
    d.TakesBack answers level h a flags lists
  /-- Whether an adapter is there or not, one batch ends one pause at most. -/
  once : ∀ answers level h flags lists,
    pauseCompletions (d.serve answers (.takeBack level h lists flags)).events ≤ 1

/-- **Batches are worked through list by list**, wherever a driver has got to. -/
theorem Reachable.worksThrough {d : Driver} {activity : Activity}
    (reachable : d.Reachable activity) : d.WorksThrough where
  send := d.send_divides
  takeBack level _ flags _ resolves := takeBack_divides resolves level flags
  returned answers level _ _ flags lists there :=
    takesBack reachable.steady there answers level flags lists
  once answers level h flags lists := by
    cases found : d.slots.locate h with
    | ok at_ =>
      have there := SlotTable.get_eq_ok.2 (SlotTable.adapter?_of_locate found)
      rw [pauseCompletions, (takesBack reachable.steady there answers level flags lists).told]
      split
      · exact Nat.le_refl 1
      · exact Nat.zero_le 1
    | error why =>
      rw [serve_of_missing (v := _) rfl found, pauseCompletions]
      simp only [Visit.after, Visit.takeBack, hostCalls_append, Request.levelWarning_calls,
        List.nil_append]
      exact Nat.zero_le 1

/-- An adapter that waits for two lists it has received. -/
def awaited : Driver :=
  (introduced.run [(.willing, .createAdapter ⟨⟨7⟩, none⟩), (.willing, .restart ⟨0, 1⟩ 0),
    (.willing, .indicate ⟨0, 1⟩ ⟨6⟩), (.willing, .indicate ⟨0, 1⟩ ⟨8⟩),
    (.willing, .pause ⟨0, 1⟩)]).state

theorem awaited_worksThrough :
    awaited.Reachable ⟨1, 2⟩ ∧ awaited.WorksThrough ∧
      hostCalls (awaited.serve .willing
        (.takeBack .passive ⟨0, 1⟩ [⟨6⟩, ⟨9⟩, ⟨6⟩, ⟨8⟩, ⟨8⟩, ⟨6⟩] ⟨0⟩)).events =
          [.pauseComplete ⟨0, 1⟩] := by
  have reachable : awaited.Reachable ⟨1, 2⟩ := (sample_reachable.run _).run _
  exact ⟨reachable, reachable.worksThrough, by decide +kernel⟩

end Driver

end PacketRadio
