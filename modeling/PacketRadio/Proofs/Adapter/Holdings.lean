import Mathlib.Data.Finset.Card
import Mathlib.Data.List.Induction
import PacketRadio.Proofs.Adapter.InFlight
import PacketRadio.Proofs.Observation

/-!
# Held buffer lists as a set

A table of buffer lists in flight is a row of entries with gaps, and a number beside it. What it is
asked, it answers as a set of at most sixteen lists would, from a new table on and whatever was
asked before. Which of its lists is let go when none is named is left open.

So a list is held exactly if it was taken in and has not been let go since, the number is that of
the held lists, and letting go of one list after the other gives each of them once.
-/

namespace PacketRadio.InFlight

/-! ## Calls -/

/-- What can be asked of a table. -/
inductive Call
  | insert (list : BufferList)
  | remove (list : BufferList)
  | pop

/-- What a table answers. -/
inductive Reply
  /-- Whether it did what was asked. -/
  | done (so : Bool)
  /-- The list that it let go. -/
  | popped (list : Option BufferList)

/-- The answer to a call, and the table after it. -/
def serve (t : InFlight) : Call → Reply × InFlight
  | .insert list =>
    match t.insert? list with
    | some after => (.done true, after)
    | none => (.done false, t)
  | .remove list =>
    match t.remove? list with
    | some after => (.done true, after)
    | none => (.done false, t)
  | .pop =>
    match t.pop? with
    | some (list, after) => (.popped (some list), after)
    | none => (.popped none, t)

/-- What can come of a call. -/
inductive Served (t : InFlight) : Call → Reply → InFlight → Prop
  | taken {list : BufferList} {after : InFlight} (taken : t.insert? list = some after) :
      Served t (.insert list) (.done true) after
  | refused {list : BufferList} (refused : t.insert? list = none) :
      Served t (.insert list) (.done false) t
  | removed {list : BufferList} {after : InFlight} (gone : t.remove? list = some after) :
      Served t (.remove list) (.done true) after
  | unknown {list : BufferList} (absent : t.remove? list = none) :
      Served t (.remove list) (.done false) t
  | popped {list : BufferList} {after : InFlight} (gone : t.pop? = some (list, after)) :
      Served t .pop (.popped (some list)) after
  | exhausted (nothing : t.pop? = none) : Served t .pop (.popped none) t

theorem serve_served (t : InFlight) (call : Call) :
    t.Served call (t.serve call).1 (t.serve call).2 := by
  cases call with
  | insert list =>
    cases taken : t.insert? list with
    | none =>
      rw [serve, taken]
      exact .refused taken
    | some after =>
      rw [serve, taken]
      exact .taken taken
  | remove list =>
    cases gone : t.remove? list with
    | none =>
      rw [serve, gone]
      exact .unknown gone
    | some after =>
      rw [serve, gone]
      exact .removed gone
  | pop =>
    cases gone : t.pop? with
    | none =>
      rw [serve, gone]
      exact .exhausted gone
    | some first =>
      rw [serve, gone]
      exact .popped gone

/-- The table after some calls. -/
def serveAll (t : InFlight) (calls : List Call) : InFlight :=
  calls.foldl (fun t call => (t.serve call).2) t

/-- Some calls with the answers to them. -/
def exchanges (t : InFlight) : List Call → List (Call × Reply)
  | [] => []
  | call :: calls => (call, (t.serve call).1) :: exchanges (t.serve call).2 calls

theorem serveAll_concat (t : InFlight) (calls : List Call) (call : Call) :
    t.serveAll (calls ++ [call]) = ((t.serveAll calls).serve call).2 := List.foldl_concat ..

theorem exchanges_concat (t : InFlight) (calls : List Call) (call : Call) :
    t.exchanges (calls ++ [call]) =
      t.exchanges calls ++ [(call, ((t.serveAll calls).serve call).1)] := by
  induction calls generalizing t with
  | nil => rfl
  | cons first calls ih => exact congrArg _ (ih _)

/-- In the exchange, `list` is taken in. -/
def TakesIn (list : BufferList) (e : Call × Reply) : Prop := e = (.insert list, .done true)

/-- In the exchange, `list` is let go. -/
def LetsGo (list : BufferList) (e : Call × Reply) : Prop :=
  e = (.remove list, .done true) ∨ e = (.pop, .popped (some list))

/-! ## Sets of lists -/

/-- What a set of at most sixteen lists answers to a call, and what becomes of it. -/
inductive Answers (s : Finset BufferList) : Call → Reply → Finset BufferList → Prop
  | taken {list : BufferList} (absent : list ∉ s) (room : s.card < maxInFlight) :
      Answers s (.insert list) (.done true) (insert list s)
  | refused {list : BufferList} (unfit : list ∈ s ∨ maxInFlight ≤ s.card) :
      Answers s (.insert list) (.done false) s
  | removed {list : BufferList} (held : list ∈ s) :
      Answers s (.remove list) (.done true) (s.erase list)
  | unknown {list : BufferList} (absent : list ∉ s) : Answers s (.remove list) (.done false) s
  | popped {list : BufferList} (held : list ∈ s) :
      Answers s .pop (.popped (some list)) (s.erase list)
  | exhausted (nothing : s = ∅) : Answers s .pop (.popped none) s

/-- The exchanges lead from the empty set to another one. -/
inductive Leads : List (Call × Reply) → Finset BufferList → Prop
  | start : Leads [] ∅
  | next {past : List (Call × Reply)} {s after : Finset BufferList} {call : Call} {reply : Reply}
      (leads : Leads past s) (answers : Answers s call reply after) :
      Leads (past ++ [(call, reply)]) after

theorem Answers.mem_iff {s after : Finset BufferList} {call : Call} {reply : Reply}
    (answers : Answers s call reply after) (list : BufferList) :
    list ∈ after ↔ TakesIn list (call, reply) ∨ list ∈ s ∧ ¬ LetsGo list (call, reply) := by
  cases answers <;> simp [TakesIn, LetsGo, eq_comm, and_comm]

/-- A set has those lists that were taken in and have not been let go since. -/
theorem Leads.mem_iff {past : List (Call × Reply)} {s : Finset BufferList} (leads : Leads past s)
    (list : BufferList) : list ∈ s ↔ Lasting (TakesIn list) (LetsGo list) past := by
  induction leads with
  | start => exact iff_of_false (Finset.notMem_empty list) (not_lasting_nil _ _)
  | next leads answers ih => rw [answers.mem_iff, lasting_concat, ih]

/-! ## Tables as sets -/

/-- The held lists as a set. -/
def lists (t : InFlight) : Finset BufferList := t.held.toFinset

theorem mem_lists {t : InFlight} {list : BufferList} :
    list ∈ t.lists ↔ t.contains list = true := by
  rw [lists, List.mem_toFinset, contains, List.contains_iff_mem]

/-- Lists are let go one after the other until there is none: first to last the `lists`. This leaves
`rest`. -/
inductive Drains : InFlight → List BufferList → InFlight → Prop
  | done {t : InFlight} (nothing : t.pop? = none) : Drains t [] t
  | next {t after rest : InFlight} {list : BufferList} {lists : List BufferList}
      (popped : t.pop? = some (list, after)) (later : Drains after lists rest) :
      Drains t (list :: lists) rest

namespace Sound

variable {t after : InFlight} {list : BufferList}

theorem card_lists (sound : t.Sound) : t.lists.card = t.count := by
  rw [lists, List.toFinset_card_of_nodup sound.nodup, sound.count_eq]

theorem count_pos (sound : t.Sound) (held : t.contains list = true) : 0 < t.count := by
  rw [← sound.card_lists]
  exact Finset.card_pos.2 ⟨list, mem_lists.2 held⟩

/-- No list is in two entries. -/
theorem count_cells_le (sound : t.Sound) (list : BufferList) :
    t.entries.cells.count (some list) ≤ 1 := by
  rw [← Rack.count_valuesIn]
  exact List.nodup_iff_count_le_one.1 sound.nodup list

theorem count_eq_countP (sound : t.Sound) : t.count = t.entries.cells.countP Option.isSome := by
  rw [sound.count_eq, held, Rack.held, Rack.length_valuesIn]

theorem count_le (sound : t.Sound) : t.count ≤ maxInFlight := sound.count_eq ▸ t.length_held_le

/-- The number and the entries agree on when a table is full. -/
theorem isFull_entries (sound : t.Sound) : t.entries.isFull = t.isFull := by
  rw [Bool.eq_iff_iff, Rack.isFull_iff, isFull, beq_iff_eq, sound.count_eq, held]

theorem lists_insert (taken : t.insert? list = some after) :
    after.lists = Insert.insert list t.lists := by
  rw [lists, List.toFinset_eq_of_perm _ _ (insert?_held taken).2.1, List.toFinset_cons, lists]

/-- A list that was held once is not held when it has been let go. -/
theorem lists_erase (sound : t.Sound) (gone : t.held.Perm (list :: after.held)) :
    after.lists = t.lists.erase list := by
  have absent : list ∉ after.held := (List.nodup_cons.1 (gone.nodup_iff.1 sound.nodup)).1
  rw [lists, lists, List.toFinset_eq_of_perm _ _ gone, List.toFinset_cons,
    Finset.erase_insert (mt List.mem_toFinset.1 absent)]

theorem eq_empty (sound : t.Sound) (nothing : t.held = []) : t = empty := by
  have count : t.count = 0 := sound.count_eq_zero.2 nothing
  obtain ⟨entries, _⟩ := t
  rw [empty, mk.injEq]
  exact ⟨Rack.eq_empty_of_held nothing, count⟩

/-- **A table is drained in as many rounds as it holds lists**, and is as new then. -/
theorem drains_iff {lists : List BufferList} {rest : InFlight} (sound : t.Sound) :
    t.Drains lists rest ↔ lists = t.held ∧ rest = empty := by
  constructor
  · intro drains
    induction drains with
    | done nothing =>
      have held := pop?_eq_none.1 nothing
      exact ⟨held.symm, sound.eq_empty held⟩
    | next popped later ih =>
      obtain ⟨rfl, rfl⟩ := ih (sound.pop popped)
      exact ⟨(pop?_held popped).1.symm, rfl⟩
  · rintro ⟨rfl, rfl⟩
    generalize shape : t.held = held
    induction held generalizing t with
    | nil =>
      obtain rfl := sound.eq_empty shape
      exact .done rfl
    | cons list held ih =>
      cases popped : t.pop? with
      | none => cases (pop?_eq_none.1 popped).symm.trans shape
      | some first =>
        obtain ⟨rfl, same⟩ := List.cons.inj ((pop?_held popped).1.symm.trans shape)
        exact .next popped (ih (sound.pop popped) same)

/-- **A table answers as a set of at most sixteen lists.** -/
theorem answers {call : Call} {reply : Reply} (sound : t.Sound)
    (served : t.Served call reply after) : Answers t.lists call reply after.lists := by
  cases served with
  | @taken list _ taken =>
    have fit : ¬(list ∈ t.held ∨ t.held.length = maxInFlight) := fun unfit => by
      cases taken.symm.trans (sound.insert?_eq_none.2 unfit)
    rw [not_or] at fit
    rw [lists_insert taken]
    refine .taken (mt List.mem_toFinset.1 fit.1) ?_
    rw [sound.card_lists, sound.count_eq]
    exact lt_of_le_of_ne t.length_held_le fit.2
  | refused refused =>
    refine .refused ((sound.insert?_eq_none.1 refused).imp List.mem_toFinset.2 fun full => ?_)
    rw [sound.card_lists, sound.count_eq, full]
  | removed gone =>
    have held := (remove?_held gone).1
    rw [sound.lists_erase held]
    exact .removed (List.mem_toFinset.2 (held.mem_iff.2 List.mem_cons_self))
  | unknown absent => exact .unknown (mt List.mem_toFinset.1 (remove?_eq_none.1 absent))
  | popped gone =>
    have held := (pop?_held gone).1
    rw [sound.lists_erase (.of_eq held)]
    exact .popped (List.mem_toFinset.2 (held ▸ List.mem_cons_self))
  | exhausted nothing =>
    exact .exhausted ((List.toFinset_eq_empty_iff _).2 (pop?_eq_none.1 nothing))

theorem served {call : Call} {reply : Reply} (sound : t.Sound)
    (served : t.Served call reply after) : after.Sound := by
  cases served with
  | taken taken => exact sound.insert taken
  | removed gone => exact sound.remove gone
  | popped gone => exact sound.pop gone
  | refused => exact sound
  | unknown => exact sound
  | exhausted => exact sound

end Sound

/-! ## Tables after any calls -/

theorem serveAll_sound (calls : List Call) : (empty.serveAll calls).Sound := by
  induction calls using List.reverseRecOn with
  | nil => exact empty_sound
  | append_singleton calls call ih =>
    rw [serveAll_concat]
    exact ih.served (serve_served _ call)

/-- **Whatever a table was asked, a set answered it in the same way.** -/
theorem serveAll_leads (calls : List Call) :
    Leads (empty.exchanges calls) (empty.serveAll calls).lists := by
  induction calls using List.reverseRecOn with
  | nil => exact .start
  | append_singleton calls call ih =>
    rw [exchanges_concat, serveAll_concat]
    exact .next ih ((serveAll_sound calls).answers (serve_served _ call))

/-- How a table is found after some exchanges, and what it does next. -/
structure StandsForSet (t : InFlight) (past : List (Call × Reply)) : Prop where
  /-- No list is in two entries. -/
  distinct : ∀ list, t.entries.cells.count (some list) ≤ 1
  counted : t.count = t.entries.cells.countP Option.isSome
  bounded : t.count ≤ maxInFlight
  /-- A table that is not full by its number has an entry to spare. -/
  spare : t.isFull = false → none ∈ t.entries.cells
  /-- There is something to count down from when a list is let go. -/
  positive : ∀ list, t.contains list = true → 0 < t.count
  contains_iff : ∀ list, t.contains list = true ↔ Lasting (TakesIn list) (LetsGo list) past
  /-- The table stands for the set of the lists that it holds. -/
  members : ∀ list, list ∈ t.lists ↔ t.contains list = true
  size : t.lists.card = t.count
  leads : Leads past t.lists
  /-- The next call is answered for this set. -/
  answers : ∀ call, Answers t.lists call (t.serve call).1 (t.serve call).2.lists
  /-- There is one way to drain the table. It gives every held list once and leaves none. -/
  drains : ∃ lists, (∀ others rest, t.Drains others rest ↔ others = lists ∧ rest = empty) ∧
    lists.Nodup ∧ ∀ list, list ∈ lists ↔ t.contains list = true

/-- **A table of buffer lists is a set of at most sixteen of them**, whatever it was asked. -/
theorem serveAll_standsForSet (calls : List Call) :
    (empty.serveAll calls).StandsForSet (empty.exchanges calls) where
  distinct := (serveAll_sound calls).count_cells_le
  counted := (serveAll_sound calls).count_eq_countP
  bounded := (serveAll_sound calls).count_le
  spare room := Rack.none_mem_cells ((serveAll_sound calls).isFull_entries.trans room)
  positive _ held := (serveAll_sound calls).count_pos held
  contains_iff list := by rw [← (serveAll_leads calls).mem_iff, mem_lists]
  members _ := mem_lists
  size := (serveAll_sound calls).card_lists
  leads := serveAll_leads calls
  answers call := (serveAll_sound calls).answers (serve_served _ call)
  drains := ⟨_, fun _ _ => (serveAll_sound calls).drains_iff, (serveAll_sound calls).nodup,
    fun _ => List.contains_iff_mem.symm⟩

/-- A list goes into the first gap, and is let go before those behind it. -/
example : ((empty.serveAll
    [.insert ⟨1⟩, .insert ⟨2⟩, .remove ⟨1⟩, .insert ⟨2⟩, .insert ⟨3⟩]).serve .pop).1 =
      .popped (some ⟨3⟩) := rfl

end PacketRadio.InFlight
