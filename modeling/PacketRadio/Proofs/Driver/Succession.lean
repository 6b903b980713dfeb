import Mathlib.Logic.Function.Basic
import PacketRadio.Proofs.Driver.Role

/-!
# One active context at a time

A process makes contexts in any of its arenas, has them work, and destroys them. Nothing but the
record of the active context keeps a second one from being made while the first is live. As every
context clears the record on its way out, the record tells at all times whether a context is live,
and which one; and a context that comes after another one has a higher number.
-/

namespace PacketRadio

open Pool

/-! ## Processes -/

/-- A context that is live, and the arena that it lives in. -/
structure LiveContext where
  home : Nat
  context : Owned Context

/-- What all contexts share: the arenas by their numbers, the record of the active context, and the
contexts that are live. -/
structure Process where
  arenas : Nat → Arena
  activity : Activity
  contexts : List LiveContext

/-- Something that is done in a process. Contexts are told apart by their place in the list. -/
inductive Move
  | create (home : Nat) (config : DriverConfig)
  | load (home : Nat) (answers : HostAnswers) (driver : DriverObject) (path : String)
      (config : DriverConfig)
  | serve (n : Nat) (answers : HostAnswers) (request : Request)
  | discard (n : Nat)
  | unload (n : Nat)
  /-- Somebody else uses an arena. -/
  | call (home : Nat) (call : Arena.Call)

/-- The settings of the context that the move asks for. -/
def Move.config? : Move → Option DriverConfig
  | .create _ config | .load _ _ _ _ config => some config
  | _ => none

/-- The move asks for a context with settings that fit, and so claims the role. -/
def Move.claims (m : Move) : Bool :=
  match m.config? with
  | none => false
  | some config => config.fault? = none

namespace Process

/-- Takes in the context that was made in the arena `home`, if one was. -/
def takeIn (p : Process) (home : Nat)
    (made : Outcome Event (Arena × Activity) (Except Failure (Owned Context))) :
    Outcome Event Process (Except Failure Unit) where
  answer := made.answer.map fun _ => ()
  state :=
    { arenas := Function.update p.arenas home made.state.1
      activity := made.state.2
      contexts :=
        match made.answer with
        | .ok owned => ⟨home, owned⟩ :: p.contexts
        | .error _ => p.contexts }
  events := made.events

/-- Has a context go, if there is one in place `n`. -/
def dismiss (p : Process) (n : Nat)
    (go : Box Context → Arena → Activity → Outcome Event (Arena × Activity) (Except Fault Unit)) :
    Outcome Event Process (Except Failure Unit) :=
  match p.contexts[n]? with
  | none => .quiet (.ok ()) p
  | some c =>
    let gone := go (some c.context) (p.arenas c.home) p.activity
    { answer := gone.answer.mapError fun fault => .fatal (.pool fault)
      state :=
        { arenas := Function.update p.arenas c.home gone.state.1
          activity := gone.state.2
          contexts := p.contexts.eraseIdx n }
      events := gone.events }

/-- Has a context serve a request, if there is one in place `n`. -/
def serve (p : Process) (n : Nat) (answers : HostAnswers) (request : Request) :
    Outcome Event Process (Except Failure Unit) :=
  match p.contexts[n]? with
  | none => .quiet (.ok ()) p
  | some c =>
    let served := Driver.serve ⟨c.context, p.arenas c.home⟩ answers request
    { answer := (served.answer.mapError .fatal).map fun _ => ()
      state :=
        { p with
          arenas := Function.update p.arenas c.home served.state.arena
          contexts := p.contexts.set n ⟨c.home, served.state.context⟩ }
      events := served.events }

/-- What a move does. -/
def step (p : Process) : Move → Outcome Event Process (Except Failure Unit)
  | .create home config => p.takeIn home (Context.create (p.arenas home) p.activity config)
  | .load home answers driver path config =>
    p.takeIn home (Context.load (p.arenas home) p.activity answers driver path config)
  | .serve n answers request => p.serve n answers request
  | .discard n => p.dismiss n Context.discard
  | .unload n => p.dismiss n Context.unload
  | .call home call =>
    let served := (p.arenas home).serve call
    { answer := .ok ()
      state := { p with arenas := Function.update p.arenas home served.state }
      events := served.events.map .pool }

/-- Moves, one after the other. -/
def run : Process → List Move → Outcome Event Process (List (Except Failure Unit))
  | p, [] => .quiet [] p
  | p, m :: moves => (p.step m).andThen fun answer p => (run p moves).map (answer :: ·)

/-- Nothing has happened yet but that arenas were used. -/
structure Fresh (p : Process) : Prop where
  opened : ∀ n, (p.arenas n).Opened
  nobody : p.activity = .initial
  contexts : p.contexts = []

/-! ## The record tells the truth -/

/-- The numbers of the contexts that are live. -/
def ids (p : Process) : List UInt32 := p.contexts.map fun c => c.context.value.id

/-- The contexts came to life under ascending numbers, those that are live under the last of them,
and none gave up a role that it was not recorded in. -/
structure Chronicle (p : Process) (past : List Event) (given : List UInt32) : Prop where
  reports : roleReports past = given.map .created
  ascending : (0 :: given).Pairwise (· < ·)
  last : ∀ id ∈ p.ids, given.getLast? = some id

/-- A process after so many claims. -/
structure Standing (p : Process) (claims : Nat) (past : List Event) : Prop where
  opened : ∀ n, (p.arenas n).Opened
  /-- What is live is what is recorded. -/
  recorded : p.ids = p.activity.active?.toList
  claimed : Activity.Claimed claims p.activity
  chronicle : ∃ given, p.Chronicle past given ∧ ∀ id ∈ given, id.toNat ≤ claims

theorem Fresh.standing {p : Process} (fresh : p.Fresh) : p.Standing 0 [] := by
  have nobody : p.ids = [] := congrArg _ fresh.contexts
  refine ⟨fresh.opened, ?_, ?_, [], ⟨rfl, by simp, fun id member => ?_⟩, nofun⟩
  · rw [nobody, fresh.nobody]
    rfl
  · rw [fresh.nobody]
    exact .initial
  · rw [nobody] at member
    cases member

/-- Where no context was made and the arena was not asked, only the record can have changed. -/
theorem takeIn_of_refused {p : Process} {home : Nat} {activity : Activity}
    {made : Outcome Event (Arena × Activity) (Except Failure (Owned Context))} {why : Failure}
    (answer : made.answer = .error why) (state : made.state = (p.arenas home, activity)) :
    (p.takeIn home made).state = { p with activity := activity } := by
  simp only [takeIn, answer, state, Function.update_eq_self]

section Steps

variable {p q : Process} {claims : Nat} {past events : List Event}

/-- A context in the list is the only one, and the one that is recorded: the list of numbers is that
of an option, so it has one entry at most. -/
theorem Standing.only (standing : p.Standing claims past) {n : Nat} {c : LiveContext}
    (here : p.contexts[n]? = some c) :
    n = 0 ∧ p.contexts = [c] ∧ p.activity.active = c.context.value.id := by
  have recorded := standing.recorded
  cases contexts : p.contexts with
  | nil =>
    rw [contexts] at here
    cases here
  | cons first rest =>
    rw [ids, contexts, List.map_cons] at recorded
    cases active : p.activity.active? with
    | none =>
      rw [active] at recorded
      cases recorded
    | some id =>
      rw [active] at recorded
      obtain ⟨same, none⟩ := List.cons.inj recorded
      rw [List.map_eq_nil_iff] at none
      subst none
      rw [contexts] at here
      cases n with
      | zero =>
        cases here
        exact ⟨rfl, rfl, (Activity.active?_eq_some.1 active).1.trans same.symm⟩
      | succ n => cases here

theorem update_opened (opened : ∀ n, (p.arenas n).Opened) (home : Nat) {arena : Arena}
    (here : arena.Opened) (n : Nat) : (Function.update p.arenas home arena n).Opened := by
  by_cases same : n = home
  · rw [same, Function.update_self]
    exact here
  · rw [Function.update_of_ne same]
    exact opened n

/-- Where no context came to life, the process stands if the record is right. -/
theorem Standing.quiet (standing : p.Standing claims past) {claims' : Nat}
    (further : claims ≤ claims') (opened : ∀ n, (q.arenas n).Opened)
    (claimed : Activity.Claimed claims' q.activity)
    (recorded : q.ids = q.activity.active?.toList) (kept : ∀ id ∈ q.ids, id ∈ p.ids)
    (silent : roleReports events = []) : q.Standing claims' (past ++ events) := by
  obtain ⟨given, chronicle, bounded⟩ := standing.chronicle
  refine ⟨opened, recorded, claimed, given, ⟨?_, chronicle.ascending, fun id member => ?_⟩,
    fun id member => (bounded id member).trans further⟩
  · rw [roleReports_append, silent, List.append_nil]
    exact chronicle.reports
  · exact chronicle.last id (kept id member)

/-- A context that comes to life has a higher number than all before it. -/
theorem Standing.created (standing : p.Standing claims past) (few : claims + 1 < UInt32.size)
    (opened : ∀ n, (q.arenas n).Opened) (claimed : Activity.Claimed (claims + 1) q.activity)
    (recorded : q.ids = q.activity.active?.toList) (new : ∀ id ∈ q.ids, id = p.activity.next)
    (created : roleReports events = [.created p.activity.next]) :
    q.Standing (claims + 1) (past ++ events) := by
  obtain ⟨given, chronicle, bounded⟩ := standing.chronicle
  obtain ⟨-, count⟩ := standing.claimed.toNat_next_of_few few
  refine ⟨opened, recorded, claimed, given ++ [p.activity.next],
    ⟨?_, ?_, fun id member => ?_⟩, fun id member => ?_⟩
  · rw [roleReports_append, chronicle.reports, created, List.map_append]
    rfl
  · rw [← List.cons_append, List.pairwise_append]
    refine ⟨chronicle.ascending, List.pairwise_singleton _ _, fun earlier member last here => ?_⟩
    rw [List.mem_singleton.1 here, UInt32.lt_iff_toNat_lt, count]
    rcases List.mem_cons.1 member with rfl | member
    · exact Nat.succ_pos claims
    · exact Nat.lt_succ_of_le (bounded earlier member)
  · rw [new id member, List.getLast?_concat]
  · rcases List.mem_append.1 member with member | here
    · exact Nat.le_succ_of_le (bounded id member)
    · rw [List.mem_singleton.1 here, count]

theorem Standing.unclaimed (standing : p.Standing claims past) (unclaimed : p.activity.active = 0) :
    p.contexts = [] := by
  have recorded := standing.recorded
  rw [Activity.active?_eq_none.2 unclaimed] at recorded
  exact List.map_eq_nil_iff.1 recorded

/-- **A claim keeps the record true**, whatever becomes of it. -/
theorem Standing.takeIn (standing : p.Standing claims past) (few : claims + 1 < UInt32.size)
    {home : Nat} {config : DriverConfig} (fits : config.fault? = none) {refusal? : Option Status}
    {made : Outcome Event (Arena × Activity) (Except Failure (Owned Context))}
    (coming : Context.Coming (p.arenas home) p.activity config refusal? made) :
    (p.takeIn home made).state.Standing (claims + 1) (past ++ made.events) := by
  have arenas := update_opened standing.opened home (coming.opened (standing.opened home))
  obtain ⟨numbered, -⟩ := standing.claimed.toNat_next_of_few few
  cases coming with
  | unfit unfit _ _ _ => exact absurd fits unfit
  | contended _ claimed answer state silent =>
    rw [takeIn_of_refused answer state]
    exact standing.quiet (Nat.le_succ _) standing.opened (standing.claimed.refused claimed)
      standing.recorded (fun _ member => member) silent
  | unhoused _ unclaimed _ answer state silent =>
    have none : (p.takeIn home made).state.ids = [] := by
      simp only [Process.takeIn, answer, ids, standing.unclaimed unclaimed, List.map_nil]
    refine standing.quiet (Nat.le_succ _) arenas ?_ ?_ (fun id => ?_) silent
    · simp only [Process.takeIn, state]
      exact (standing.claimed.granted unclaimed).vacated
    · rw [none]
      simp only [Process.takeIn, state]
      rfl
    · rw [none]
      exact nofun
  -- The number has been announced, but whoever had it is gone already.
  | declined _ unclaimed _ _ answer state created =>
    have none : (p.takeIn home made).state.ids = [] := by
      simp only [Process.takeIn, answer, ids, standing.unclaimed unclaimed, List.map_nil]
    refine standing.created few arenas ?_ ?_ (fun id => ?_) created
    · simp only [Process.takeIn, state]
      exact (standing.claimed.granted unclaimed).vacated
    · rw [none]
      simp only [Process.takeIn, state]
      rfl
    · rw [none]
      exact nofun
  | housed _ unclaimed _ _ answer id state created =>
    have one : (p.takeIn home made).state.ids = [p.activity.next] := by
      simp only [Process.takeIn, answer, ids, standing.unclaimed unclaimed, List.map_cons,
        List.map_nil, id]
    refine standing.created few arenas ?_ ?_ (fun id => ?_) created
    · simp only [Process.takeIn, state]
      exact standing.claimed.granted unclaimed
    · rw [one]
      simp only [Process.takeIn, state, Activity.active?, if_neg numbered]
      rfl
    · rw [one]
      exact List.mem_singleton.1

/-- A context that goes leaves nobody recorded. -/
theorem Standing.dismiss (standing : p.Standing claims past) (n : Nat)
    {go : Box Context → Arena → Activity → Outcome Event (Arena × Activity) (Except Fault Unit)}
    (opened : ∀ {arena}, arena.Opened → ∀ box activity, (go box arena activity).state.1.Opened)
    (role : ∀ (owned : Owned Context) (arena : Arena) {activity : Activity},
      activity.active = owned.value.id →
        (go (some owned) arena activity).state.2 = { activity with active := 0 } ∧
          roleReports (go (some owned) arena activity).events = []) :
    (p.dismiss n go).state.Standing claims (past ++ (p.dismiss n go).events) := by
  unfold Process.dismiss
  cases here : p.contexts[n]? with
  | none =>
    rw [Outcome.quiet_events, List.append_nil]
    exact standing
  | some c =>
    obtain ⟨rfl, one, recorded⟩ := standing.only here
    obtain ⟨state, silent⟩ := role c.context (p.arenas c.home) recorded
    have arenas := update_opened standing.opened c.home
      (opened (standing.opened c.home) (some c.context) p.activity)
    refine standing.quiet (Nat.le_refl _) arenas ?_ ?_ (fun id => ?_) silent
    · simp only [state]
      exact standing.claimed.vacated
    · simp only [ids, state, one]
      rfl
    · simp only [ids, one]
      exact nofun

/-- Requests are served without a word about the role. -/
theorem Standing.serve (standing : p.Standing claims past) (n : Nat) (answers : HostAnswers)
    (request : Request) :
    (p.serve n answers request).state.Standing claims
      (past ++ (p.serve n answers request).events) := by
  unfold Process.serve
  cases here : p.contexts[n]? with
  | none =>
    rw [Outcome.quiet_events, List.append_nil]
    exact standing
  | some c =>
    obtain ⟨rfl, one, recorded⟩ := standing.only here
    let d : Driver := ⟨c.context, p.arenas c.home⟩
    have id : (d.serve answers request).state.context.value.id = c.context.value.id :=
      (d.serve_make answers request).id
    have arenas := update_opened standing.opened c.home
      (Driver.serve_opened (d := d) (standing.opened c.home) answers request)
    have same : (p.contexts.set 0 ⟨c.home, (d.serve answers request).state.context⟩).map
        (fun c => c.context.value.id) = p.ids := by
      simp only [ids, one, List.set_cons_zero, List.map_cons, List.map_nil, id]
    refine standing.quiet (Nat.le_refl _) arenas standing.claimed ?_ (fun id => ?_)
      (d.serve_role answers request)
    · exact same.trans standing.recorded
    · exact fun member => same ▸ member

theorem Standing.call (standing : p.Standing claims past) (home : Nat) (call : Arena.Call) :
    (p.step (.call home call)).state.Standing claims
      (past ++ (p.step (.call home call)).events) :=
  standing.quiet (Nat.le_refl _)
    (update_opened standing.opened home ((standing.opened home).serve call)) standing.claimed
    standing.recorded (fun _ member => member) (Confined.pool _).roleReports

end Steps

/-- A move that asks for a context takes in what comes of it. -/
theorem step_asks {p : Process} (opened : ∀ n, (p.arenas n).Opened) {m : Move}
    {config : DriverConfig} (asks : m.config? = some config) :
    ∃ home refusal? made, p.step m = p.takeIn home made ∧
      Context.Coming (p.arenas home) p.activity config refusal? made := by
  cases m with
  | create home config =>
    cases asks
    exact ⟨home, _, _, rfl, Context.create_coming (opened home).sound p.activity config⟩
  | load home answers driver path config =>
    cases asks
    exact ⟨home, _, _, rfl,
      Context.load_coming (opened home).sound p.activity answers driver path config⟩
  | serve | discard | unload | call => cases asks

theorem claims_iff {m : Move} :
    m.claims = true ↔ ∃ config, m.config? = some config ∧ config.fault? = none := by
  unfold Move.claims
  cases m.config? <;> simp

/-- How often the role was claimed. -/
def claims (moves : List Move) : Nat := moves.countP Move.claims

/-- **Every move keeps the record true.** -/
theorem Standing.step {p : Process} {n : Nat} {past : List Event} (standing : p.Standing n past)
    (m : Move) (few : n + claims [m] < UInt32.size) :
    (p.step m).state.Standing (n + claims [m]) (past ++ (p.step m).events) := by
  cases asks : m.config? with
  | some config =>
    obtain ⟨home, refusal?, made, same, coming⟩ := step_asks standing.opened asks
    rw [same]
    by_cases fits : config.fault? = none
    · have one : claims [m] = 1 := by simp [claims, Move.claims, asks, fits]
      rw [one] at few ⊢
      exact standing.takeIn few fits coming
    -- The settings are looked at before the role is claimed.
    · have none : claims [m] = 0 := by simp [claims, Move.claims, asks, fits]
      rw [none, Nat.add_zero]
      cases coming with
      | unfit _ answer state silent =>
        rw [takeIn_of_refused answer state]
        exact standing.quiet (Nat.le_refl _) standing.opened standing.claimed standing.recorded
          (fun _ member => member) silent
      | contended fits' => exact absurd fits' fits
      | unhoused fits' => exact absurd fits' fits
      | declined fits' => exact absurd fits' fits
      | housed fits' => exact absurd fits' fits
  | none =>
    have none : claims [m] = 0 := by simp [claims, Move.claims, asks]
    rw [none, Nat.add_zero]
    cases m with
    | create | load => cases asks
    | serve n answers request => exact standing.serve n answers request
    | discard n => exact standing.dismiss n Context.discard_opened Context.discard_role
    | unload n => exact standing.dismiss n Context.unload_opened Context.unload_role
    | call home call => exact standing.call home call

theorem claims_cons (m : Move) (moves : List Move) :
    claims (m :: moves) = claims [m] + claims moves := by
  rw [claims, claims, claims, ← List.countP_append]
  rfl

/-- So does every run, as long as there are numbers left. -/
theorem Standing.run {p : Process} {n : Nat} {past : List Event} (standing : p.Standing n past)
    (moves : List Move) (few : n + claims moves < UInt32.size) :
    (p.run moves).state.Standing (n + claims moves) (past ++ (p.run moves).events) := by
  induction moves generalizing p n past with
  | nil =>
    rw [Process.run, Outcome.quiet_events, List.append_nil]
    exact standing
  | cons m moves ih =>
    rw [claims_cons] at few ⊢
    have later := ih (standing.step m (by omega)) (by omega)
    rw [List.append_assoc, Nat.add_assoc] at later
    exact later

/-! ## One at a time -/

/-- How a process stands whose record is true. -/
structure OneActive (p : Process) : Prop where
  alone : p.contexts.length ≤ 1
  named : ∀ id, p.activity.active? = some id ↔ ∃ c ∈ p.contexts, c.context.value.id = id
  nobody : p.activity.active? = none ↔ p.contexts = []
  /-- The role is refused while a context is live, and only then. -/
  refused : ∀ m, Move.claims m = true →
    ((p.step m).answer = .error (.refused .contextAlreadyActive) ↔ p.contexts ≠ [])
  /-- All that such a claim does is to use up its number. -/
  undisturbed : ∀ m, Move.claims m = true → p.contexts ≠ [] →
    (p.step m).state = { p with activity := { p.activity with next := p.activity.next + 1 } }
  crowded : ∀ home config, DriverConfig.fault? config = none → p.contexts = [] →
    ((p.step (.create home config)).answer = .error (.refused .outOfMemory) ↔
      ¬ (p.arenas home).HasRoom (Pooled.layout Context))
  declined : ∀ home answers driver path config status, DriverConfig.fault? config = none →
    p.contexts = [] → (p.arenas home).HasRoom (Pooled.layout Context) →
      HostAnswers.rebuff? answers = some status →
        (p.step (.load home answers driver path config)).answer =
          .error (.refused (.registration status))
  /-- Whatever else makes a claim fail leaves nobody recorded. -/
  cleared : ∀ m why, Move.claims m = true → p.contexts = [] → (p.step m).answer = .error why →
    (p.step m).state.contexts = [] ∧ (p.step m).state.activity.active? = none

section OneActive

variable {p : Process} {n : Nat} {past : List Event}

/-- Nobody is recorded if no context is live. -/
theorem Standing.nobody (standing : p.Standing n past) :
    p.activity.active? = none ↔ p.contexts = [] := by
  have recorded := standing.recorded
  rw [← List.map_eq_nil_iff (f := fun c : LiveContext => c.context.value.id)]
  change _ ↔ p.ids = []
  rw [recorded]
  cases p.activity.active? <;> simp

theorem Standing.named (standing : p.Standing n past) (id : UInt32) :
    p.activity.active? = some id ↔ ∃ c ∈ p.contexts, c.context.value.id = id := by
  rw [← List.mem_map (f := fun c : LiveContext => c.context.value.id)]
  change _ ↔ id ∈ p.ids
  rw [standing.recorded, Option.mem_toList]

theorem Standing.active_iff (standing : p.Standing n past) :
    p.activity.active = 0 ↔ p.contexts = [] := by
  rw [← standing.nobody, Activity.active?_eq_none]

/-- While a context is live, a claim is refused and only its number is gone. -/
theorem Standing.step_contended (standing : p.Standing n past) {m : Move}
    (claiming : m.claims = true) (live : p.contexts ≠ []) :
    (p.step m).answer = .error (.refused .contextAlreadyActive) ∧
      (p.step m).state =
        { p with activity := { p.activity with next := p.activity.next + 1 } } := by
  obtain ⟨config, asks, fits⟩ := claims_iff.1 claiming
  obtain ⟨home, refusal?, made, same, coming⟩ := step_asks standing.opened asks
  rw [same]
  cases coming with
  | unfit unfit => exact absurd fits unfit
  | contended _ _ answer state _ =>
    refine ⟨?_, takeIn_of_refused answer state⟩
    rw [Process.takeIn, answer]
    rfl
  | unhoused _ unclaimed => exact absurd (standing.unclaimed unclaimed) live
  | declined _ unclaimed => exact absurd (standing.unclaimed unclaimed) live
  | housed _ unclaimed => exact absurd (standing.unclaimed unclaimed) live

/-- While no context is live, a claim that fails is given up. -/
theorem Standing.step_uncontended (standing : p.Standing n past) {m : Move}
    (claiming : m.claims = true) (vacant : p.contexts = []) {why : Failure}
    (failed : (p.step m).answer = .error why) :
    why ≠ .refused .contextAlreadyActive ∧ (p.step m).state.contexts = [] ∧
      (p.step m).state.activity.active? = none := by
  obtain ⟨config, asks, fits⟩ := claims_iff.1 claiming
  obtain ⟨home, refusal?, made, same, coming⟩ := step_asks standing.opened asks
  rw [same] at failed ⊢
  have given : made.answer.map (fun _ => ()) = .error why := failed
  cases coming with
  | unfit unfit => exact absurd fits unfit
  | contended _ claimed => exact absurd (standing.active_iff.2 vacant) claimed
  | unhoused _ _ _ answer state _ =>
    rw [answer] at given
    cases given
    simp only [Process.takeIn, answer, state, vacant]
    exact ⟨nofun, trivial, rfl⟩
  | declined _ _ _ _ answer state _ =>
    rw [answer] at given
    cases given
    simp only [Process.takeIn, answer, state, vacant]
    exact ⟨nofun, trivial, rfl⟩
  | housed _ _ _ _ answer =>
    rw [answer] at given
    cases given

/-- Alone, a context with settings that fit is made if the arena has room for it. -/
theorem Standing.step_create (standing : p.Standing n past) (home : Nat) {config : DriverConfig}
    (fits : config.fault? = none) (vacant : p.contexts = []) :
    (p.step (.create home config)).answer = .error (.refused .outOfMemory) ↔
      ¬ (p.arenas home).HasRoom (Pooled.layout Context) := by
  change ((Context.create (p.arenas home) p.activity config).answer.map fun _ => ()) = _ ↔ _
  cases Context.create_coming (standing.opened home).sound p.activity config with
  | unfit unfit => exact absurd fits unfit
  | contended _ claimed => exact absurd (standing.active_iff.2 vacant) claimed
  | unhoused _ _ crowded answer =>
    rw [answer]
    exact iff_of_true rfl crowded
  | declined _ _ _ refused => cases refused
  | housed _ _ room _ answer =>
    rw [answer]
    exact iff_of_false nofun (not_not_intro room)

/-- With room for its context, a driver is not loaded if the host refuses it. -/
theorem Standing.step_load (standing : p.Standing n past) (home : Nat) {answers : HostAnswers}
    (driver : DriverObject) (path : String) {config : DriverConfig} {status : Status}
    (fits : config.fault? = none) (vacant : p.contexts = [])
    (room : (p.arenas home).HasRoom (Pooled.layout Context))
    (rebuffed : answers.rebuff? = some status) :
    (p.step (.load home answers driver path config)).answer =
      .error (.refused (.registration status)) := by
  change ((Context.load (p.arenas home) p.activity answers driver path config).answer.map
    fun _ => ()) = _
  cases Context.load_coming (standing.opened home).sound p.activity answers driver path config with
  | unfit unfit => exact absurd fits unfit
  | contended _ claimed => exact absurd (standing.active_iff.2 vacant) claimed
  | unhoused _ _ crowded => exact absurd room crowded
  | declined _ _ _ refused answer =>
    cases rebuffed.symm.trans refused
    rw [answer]
    rfl
  | housed _ _ _ welcome => cases rebuffed.symm.trans welcome

theorem Standing.alone (standing : p.Standing n past) : p.contexts.length ≤ 1 := by
  have same := congrArg List.length standing.recorded
  rw [ids, List.length_map] at same
  rw [same]
  cases p.activity.active? <;> simp

theorem Standing.one_active (standing : p.Standing n past) : p.OneActive where
  alone := standing.alone
  named := standing.named
  nobody := standing.nobody
  refused m claiming := by
    constructor
    · intro told vacant
      exact (standing.step_uncontended claiming vacant told).1 rfl
    · intro live
      exact (standing.step_contended claiming live).1
  undisturbed m claiming live := (standing.step_contended claiming live).2
  crowded home config fits vacant := standing.step_create home fits vacant
  declined home answers driver path config status fits vacant room rebuffed :=
    standing.step_load home driver path fits vacant room rebuffed
  cleared m why claiming vacant failed := (standing.step_uncontended claiming vacant failed).2

end OneActive

/-- **One context at most is live at any time**, and the record tells which one, whatever is tried
and fails. Contexts come under ascending numbers, and none loses its role to another one. -/
theorem run_one_active {p : Process} (fresh : p.Fresh) (moves : List Move)
    (few : claims moves < UInt32.size) :
    (p.run moves).state.OneActive ∧
      ∃ given, (p.run moves).state.Chronicle (p.run moves).events given := by
  have standing := fresh.standing.run moves (by rwa [Nat.zero_add])
  obtain ⟨given, chronicle, -⟩ := standing.chronicle
  exact ⟨standing.one_active, given, chronicle⟩

/-- A process with any number of small arenas. -/
def ample : Process := ⟨fun n => Arena.fresh n 4096 16384, .initial, []⟩

/-- A context that another one does not displace, a driver that the host refuses, and one that it
takes. -/
def succession : List Move :=
  [.create 1 {}, .load 2 .willing ⟨1⟩ "radio" {}, .serve 0 .willing (.register ⟨1⟩ "radio"),
    .unload 0, .load 1 ⟨.error .failure, .success, .success⟩ ⟨1⟩ "radio" {},
    .load 2 .willing ⟨1⟩ "radio" {}]

theorem succession_one_active :
    ample.Fresh ∧ claims succession < UInt32.size ∧ (ample.run succession).state.OneActive ∧
      (ample.run succession).state.ids = [4] ∧
      ∃ given, (ample.run succession).state.Chronicle (ample.run succession).events given := by
  have fresh : ample.Fresh := ⟨fun n => ⟨n, 4096, 16384, _, _, [], rfl, rfl⟩, rfl, rfl⟩
  have few : claims succession < UInt32.size := by decide +kernel
  obtain ⟨active, chronicle⟩ := run_one_active fresh succession few
  exact ⟨fresh, few, active, by decide +kernel, chronicle⟩

end Process

end PacketRadio
