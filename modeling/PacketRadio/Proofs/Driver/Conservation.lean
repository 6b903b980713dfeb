import PacketRadio.Proofs.Driver.Teardown

/-!
# Conservation of sends

Whatever a driver is asked to do and whatever its host answers, each list that was handed over to be
sent has come back once for each time, but for the one that an adapter still holds. Once an adapter
is halted, or the driver is taken down, nothing is held any more.
-/

namespace PacketRadio

open Pool

namespace Driver

/-- The adapter that `h` names holds `list` to be sent. -/
def holdsSend (d : Driver) (h : Handle) (list : BufferList) : Bool :=
  match d.slots.get h with
  | .ok a => a.sends.contains list
  | .error _ => false

theorem owed_eq {d : Driver} (sound : d.All Adapter.Sound) (h : Handle) (list : BufferList) :
    d.slots.owed h list = (d.holdsSend h list).toNat := by
  unfold holdsSend
  cases got : d.slots.get h with
  | ok a =>
    have named := SlotTable.get_eq_ok.1 got
    rw [SlotTable.owed, named]
    exact (sound h a named).sends.count_held list
  | error why =>
    apply owed_of_missing
    cases named : d.slots.adapter? h with
    | none => rfl
    | some a => cases (SlotTable.get_eq_ok.2 named).symm.trans got

/-- **Sends are conserved.** In every run of a driver, for every handle and every list, the list was
handed over as often as it was given back, and once more if the adapter of that name holds it. After
a request to halt the adapter, and after the driver has been destroyed or unloaded, which always
succeeds, both counts are the same. -/
theorem sends_conserved {d : Driver} (started : d.Started) (requests : List (HostAnswers × Request))
    (h : Handle) (list : BufferList) :
    submissions h list requests =
        completions h list (d.run requests).events +
          ((d.run requests).state.holdsSend h list).toNat ∧
      (∀ answers request, Request.halts? request = some h →
        submissions h list (requests ++ [(answers, request)]) =
          completions h list (d.run (requests ++ [(answers, request)])).events) ∧
      ∀ activity gone,
        gone = Context.discard (some (d.run requests).state.context) (d.run requests).state.arena
            activity ∨
          gone = Context.unload (some (d.run requests).state.context) (d.run requests).state.arena
            activity →
        gone.answer = .ok () ∧
          submissions h list requests = completions h list ((d.run requests).events ++ gone.events) := by
  have balance := run_balance h list started requests
  have coherent := (run_agrees started requests).coherent
  obtain ⟨others, housed⟩ := run_housed started requests
  refine ⟨?_, fun answers request halts => ?_, fun activity gone either => ?_⟩
  · rw [balance, owed_eq (run_sound started requests)]
  · have after := run_balance h list started (requests ++ [(answers, request)])
    have gone := (d.run requests).state.adapter?_of_halts answers halts
    rw [run_append] at after
    change _ = _ + ((d.run requests).state.serve answers request).state.slots.owed h list at after
    rw [owed_of_missing h list gone] at after
    exact after
  · have down : (d.run requests).state.TakenDown gone := by
      rcases either with rfl | rfl
      · exact housed.discard coherent activity
      · exact housed.unload coherent activity
    refine ⟨down.answer, ?_⟩
    rw [balance, completions_append, down.balance]

/-- A list that is sent twice at once, again while the adapter pauses, once more under a handle that
nobody has, and one that is left for the adapter to hold. -/
def resends : List (HostAnswers × Request) :=
  [(.willing, .register ⟨1⟩ "radio"), (.willing, .createAdapter ⟨⟨7⟩, none⟩),
    (.willing, .restart ⟨0, 1⟩ 0), (.willing, .send .passive ⟨0, 1⟩ [⟨5⟩, ⟨6⟩, ⟨5⟩] ⟨0⟩),
    (.willing, .pause ⟨0, 1⟩), (.willing, .send .passive ⟨0, 1⟩ [⟨5⟩] ⟨0⟩),
    (.willing, .completeSend ⟨0, 1⟩ ⟨5⟩ .success), (.willing, .send .passive ⟨0, 9⟩ [⟨5⟩] ⟨0⟩)]

theorem resends_conserved :
    sample.Started ∧ (sample.run resends).state.holdsSend ⟨0, 1⟩ ⟨6⟩ = true ∧
      submissions ⟨0, 1⟩ ⟨5⟩ resends = 3 ∧
      submissions ⟨0, 1⟩ ⟨5⟩ resends =
        completions ⟨0, 1⟩ ⟨5⟩ (sample.run resends).events +
          ((sample.run resends).state.holdsSend ⟨0, 1⟩ ⟨5⟩).toNat :=
  ⟨sample_started, by decide +kernel, rfl, (sends_conserved sample_started resends _ _).1⟩

end Driver

end PacketRadio
