import PacketRadio.Proofs.Adapter.Verdicts

/-!
# What a request counts

A request for an attribute has two counts, of the bytes that were transferred and of the bytes that
a transfer takes. Whoever asks sets them to zero, and the adapter fills them in.

They can be relied on but for two kinds of requests to set an attribute. A list of groups that is
joined is not counted among the bytes that the transfer takes. And the four bytes of a word count as
transferred as soon as they are read, which is before it is known whether the word will do.
-/

namespace PacketRadio

/-- The request was answered as if `n` bytes were to be transferred: all of them were if it was
served, and none if it was refused. -/
structure CountsTransfer (n : Nat) (answer : AttributeRequest × Except Error Unit) : Prop where
  served : answer.2 = .ok () → answer.1.bytesWritten = n ∧ answer.1.bytesNeeded = n
  refused : ∀ why, answer.2 = .error why → answer.1.bytesWritten = 0

namespace AttributeRequest

/-- The request is to join groups. -/
def Joins (r : AttributeRequest) : Prop := r.kind = .set ∧ r.oid = Attribute.multicastList.oid

/-- The request is to set an attribute that is a word, and has one. -/
def SetsWord (r : AttributeRequest) : Prop :=
  r.kind = .set ∧ (r.oid = Attribute.packetFilter.oid ∨ r.oid = Attribute.vlan.oid) ∧
    r.buffer.length = 4

instance (r : AttributeRequest) : Decidable r.Joins := inferInstanceAs (Decidable (_ ∧ _))

instance (r : AttributeRequest) : Decidable r.SetsWord := inferInstanceAs (Decidable (_ ∧ _))

/-- The counts of the request will be off. -/
def Miscounted (r : AttributeRequest) : Prop :=
  r.Joins ∧ ValidSetting r.oid r.buffer ∧ r.buffer ≠ [] ∨
    r.SetsWord ∧ ¬ ValidSetting r.oid r.buffer

/-- Whatever is read as a word is counted. -/
theorem readWord_fst (r : AttributeRequest) :
    r.readWord.1 =
      { r with
        bytesNeeded := 4
        bytesWritten := if r.buffer.length = 4 then 4 else r.bytesWritten } := by
  rcases wordOfBytes?_cases r.buffer with ⟨length, read⟩ | ⟨w, four, -, read⟩
  · rw [readWord, read, if_neg length]
  · rw [readWord, read, if_pos four]

end AttributeRequest

namespace Adapter

/-- How many bytes a request transfers if it is served: those of the answer to a query, or all that
the buffer of a setting holds. -/
def transfer (a : Adapter) (r : AttributeRequest) : Nat :=
  match r.kind with
  | .query => (Attribute.ofOid? r.oid).elim 0 fun asked => (bytesOfFigures (a.figures asked)).length
  | .set => r.buffer.length

/-! ## Requests that are refused -/

theorem setFilter_request (a : Adapter) (r : AttributeRequest) :
    (a.setFilter r).answer.1 = r.readWord.1 := by
  unfold setFilter
  split
  · rename_i read
    rw [read]
    rfl
  · rename_i read
    rw [read]
    dsimp only
    split <;> rfl

theorem setVlan_request (a : Adapter) (r : AttributeRequest) :
    (a.setVlan r).answer.1 = r.readWord.1 := by
  unfold setVlan
  split
  · rename_i read
    rw [read]
    rfl
  · rename_i read
    rw [read]
    dsimp only
    split <;> rfl

/-- Groups that are not joined are not counted. -/
theorem setGroups_refused {a : Adapter} {r : AttributeRequest} {why : Error}
    (refused : (a.setGroups r).answer.2 = .error why) :
    (a.setGroups r).answer.1.bytesWritten = r.bytesWritten := by
  have read : r.readGroups.1.bytesWritten = r.bytesWritten := by
    unfold AttributeRequest.readGroups
    split
    · rfl
    · split <;> rfl
  revert refused
  unfold setGroups
  split
  · rename_i r' why' failed
    rw [failed] at read
    exact fun _ => read
  · rename_i r' groups given
    rw [given] at read
    split
    · exact fun _ => read
    · exact nofun

/-- What is counted of a refused setting is the word that was read. -/
theorem set_refused {a : Adapter} {r : AttributeRequest} (kind : r.kind = .set) {why : Error}
    (refused : (a.set r).answer.2 = .error why) :
    (a.set r).answer.1.bytesWritten = if r.SetsWord then 4 else r.bytesWritten := by
  have word : r.SetsWord ↔ (r.oid = Attribute.packetFilter.oid ∨ r.oid = Attribute.vlan.oid) ∧
      r.buffer.length = 4 := and_iff_right kind
  rcases settable_cases r.oid with other | named | named | named
  · have apart : ¬ r.SetsWord := fun sets => by
      rcases (word.1 sets).1 with named | named <;> exact other (by rw [named]; decide)
    rw [a.set_of_unsettable other, if_neg apart]
  · have same : a.set r = a.setFilter r := by rw [set, Attribute.ofOid?_eq_some.2 named.symm]
    rw [same, setFilter_request, AttributeRequest.readWord_fst]
    exact if_congr (by rw [word, and_iff_right (.inl named)]) rfl rfl
  · have same : a.set r = a.setVlan r := by rw [set, Attribute.ofOid?_eq_some.2 named.symm]
    rw [same, setVlan_request, AttributeRequest.readWord_fst]
    exact if_congr (by rw [word, and_iff_right (.inr named)]) rfl rfl
  · have same : a.set r = a.setGroups r := by rw [set, Attribute.ofOid?_eq_some.2 named.symm]
    have apart : ¬ r.SetsWord := by
      rw [word, named]
      exact fun sets => absurd sets.1 (by decide)
    rw [same] at refused ⊢
    rw [setGroups_refused refused, if_neg apart]

/-! ## Requests that are served -/

/-- What is not a list of groups is set to a word. -/
theorem Sets.length {a b : Adapter} {asked : Attribute} {bytes : List UInt8}
    (sets : a.Sets asked bytes b) (word : asked ≠ .multicastList) : bytes.length = 4 := by
  cases sets with
  | filter | vlan => rfl
  | groups => exact absurd rfl word

/-- What is set is counted as transferred, and also as needed if it is not a list of groups. -/
theorem set_served {a : Adapter} {r : AttributeRequest} (kind : r.kind = .set)
    (served : (a.set r).answer.2 = .ok ()) :
    (a.set r).answer.1.bytesWritten = r.buffer.length ∧
      (a.set r).answer.1.bytesNeeded = if r.Joins then r.bytesNeeded else r.buffer.length := by
  obtain ⟨asked, named, sets⟩ := sets_of_set served
  have joins : r.Joins ↔ asked = .multicastList :=
    (and_iff_right kind).trans ⟨fun same => Attribute.oid_injective (named.symm.trans same),
      fun same => same ▸ named⟩
  rw [(set_of_sets sets named).1]
  by_cases groups : asked = .multicastList
  · subst groups
    rw [if_pos (joins.2 rfl)]
    exact ⟨rfl, rfl⟩
  · have four : r.taken asked = { r with bytesNeeded := 4, bytesWritten := 4 } := by
      cases asked <;> first | rfl | exact absurd rfl groups
    rw [if_neg (mt joins.1 groups), four, sets.length groups]
    exact ⟨rfl, rfl⟩

theorem respond_counts {r : AttributeRequest} (fresh : r.bytesWritten = 0) (bytes : List UInt8) :
    CountsTransfer bytes.length (r.respond bytes) := by
  unfold AttributeRequest.respond
  split
  · exact ⟨nofun, fun _ _ => fresh⟩
  · exact ⟨fun _ => ⟨rfl, rfl⟩, nofun⟩

/-- The counts of a query can always be relied on. -/
theorem query_counts (a : Adapter) {q : AttributeRequest} (kind : q.kind = .query)
    (fresh : q.bytesWritten = 0) : CountsTransfer (a.transfer q) (a.query q).answer := by
  cases named : Attribute.ofOid? q.oid with
  | none =>
    rw [query, named]
    exact ⟨fun served => (by cases served), fun _ _ => fresh⟩
  | some asked =>
    have moved : a.transfer q = (bytesOfFigures (a.figures asked)).length := by
      rw [transfer, kind, named]
      rfl
    rw [moved, query_listed (Attribute.ofOid?_eq_some.1 named)]
    exact respond_counts fresh _

/-! ## What can be relied on -/

/-- How the bytes are counted of a request `r` to the adapter `a`, whose counts were zero. -/
structure Counts (a : Adapter) (r : AttributeRequest)
    (answer : AttributeRequest × Except Error Unit) : Prop where
  /-- What is served is counted as transferred. -/
  transferred : answer.2 = .ok () → answer.1.bytesWritten = a.transfer r
  /-- It is also counted as needed, unless it is a list of groups to join. -/
  needed : answer.2 = .ok () → answer.1.bytesNeeded = if r.Joins then 0 else a.transfer r
  /-- Of what is refused, a word that was read is counted, and nothing else. -/
  refused : ∀ why, answer.2 = .error why → answer.1.bytesWritten = if r.SetsWord then 4 else 0
  /-- So these are the only requests whose counts are off. -/
  reliable : CountsTransfer (a.transfer r) answer ↔ ¬ r.Miscounted

/-- The counts of a request to set an attribute are off if it is served and joins groups, or refused
although it has a word. -/
theorem set_reliable {a : Adapter} {r : AttributeRequest} (kind : r.kind = .set)
    (fresh : r.bytesWritten = 0) (unknown : r.bytesNeeded = 0) :
    CountsTransfer r.buffer.length (a.set r).answer ↔ ¬ r.Miscounted := by
  have valid := (a.set_judges r).accepted
  cases answer : (a.set r).answer.2 with
  | ok =>
    obtain ⟨written, needed⟩ := set_served kind answer
    rw [unknown] at needed
    have fits : ValidSetting r.oid r.buffer := valid.1 answer
    constructor
    · rintro ⟨served, -⟩ (⟨joins, -, some⟩ | ⟨-, invalid⟩)
      · have counted := (served answer).2
        rw [needed, if_pos joins] at counted
        exact some (List.eq_nil_of_length_eq_zero counted.symm)
      · exact invalid fits
    · refine fun reliable => ⟨fun _ => ⟨written, ?_⟩, fun why refused => ?_⟩
      · by_cases joins : r.Joins
        · have none : r.buffer = [] := by_contra fun some => reliable (.inl ⟨joins, fits, some⟩)
          rw [needed, if_pos joins, none]
          rfl
        · rw [needed, if_neg joins]
      · cases answer.symm.trans refused
  | error why =>
    have written := set_refused kind answer
    rw [fresh] at written
    have invalid : ¬ ValidSetting r.oid r.buffer := fun fits => by
      cases (valid.2 fits).symm.trans answer
    constructor
    · rintro ⟨-, refused⟩ (⟨-, fits, -⟩ | ⟨word, -⟩)
      · exact invalid fits
      · have counted := refused why answer
        rw [written, if_pos word] at counted
        cases counted
    · refine fun reliable => ⟨fun served => ?_, fun _ _ => ?_⟩
      · cases answer.symm.trans served
      · rw [written, if_neg fun word => reliable (.inr ⟨word, invalid⟩)]

/-- **The counts of a request can be relied on**, whatever state the adapter is in, **unless groups
are joined or a word is refused.** -/
theorem serve_counts_bytes (a : Adapter) (oid : UInt32) (kind : RequestKind)
    (buffer : List UInt8) :
    a.Counts ⟨oid, kind, buffer, 0, 0⟩ (a.serve ⟨oid, kind, buffer, 0, 0⟩).answer := by
  cases kind with
  | query =>
    have counts := a.query_counts (q := ⟨oid, .query, buffer, 0, 0⟩) rfl rfl
    have joins : ¬ (⟨oid, .query, buffer, 0, 0⟩ : AttributeRequest).Joins := nofun
    have word : ¬ (⟨oid, .query, buffer, 0, 0⟩ : AttributeRequest).SetsWord := nofun
    exact {
      transferred := fun served => (counts.served served).1
      needed := fun served => by
        rw [if_neg joins]
        exact (counts.served served).2
      refused := fun why refused => by
        rw [if_neg word]
        exact counts.refused why refused
      reliable := iff_of_true counts fun
        | .inl ⟨joined, _⟩ => joins joined
        | .inr ⟨given, _⟩ => word given }
  | set => exact {
      transferred := fun served => (set_served rfl served).1
      needed := fun served => (set_served rfl served).2
      refused := fun _ refused => set_refused rfl refused
      reliable := set_reliable rfl rfl rfl }

/-- An adapter joins two groups, which take no bytes by its count; and it refuses a VLAN, of which
it counts four bytes as transferred. -/
theorem tuned_miscounts :
    (tuned.serve joinTwo).answer = ({ joinTwo with bytesWritten := 14, bytesNeeded := 0 }, .ok ()) ∧
      ¬ CountsTransfer 14 (tuned.serve joinTwo).answer ∧
      (tuned.serve ⟨Attribute.vlan.oid, .set, [0, 16, 0, 0], 0, 0⟩).answer =
        (⟨Attribute.vlan.oid, .set, [0, 16, 0, 0], 4, 4⟩, .error .invalidData) ∧
      ¬ CountsTransfer 4 (tuned.serve ⟨Attribute.vlan.oid, .set, [0, 16, 0, 0], 0, 0⟩).answer := by
  have joined : (tuned.serve joinTwo).answer =
      ({ joinTwo with bytesWritten := 14, bytesNeeded := 0 }, .ok ()) := by decide +kernel
  have refused : (tuned.serve ⟨Attribute.vlan.oid, .set, [0, 16, 0, 0], 0, 0⟩).answer =
      (⟨Attribute.vlan.oid, .set, [0, 16, 0, 0], 4, 4⟩, .error .invalidData) := by decide +kernel
  refine ⟨joined, fun counts => ?_, refused, fun counts => ?_⟩
  · rw [joined] at counts
    cases (counts.served rfl).2
  · rw [refused] at counts
    cases counts.refused _ rfl

end Adapter

end PacketRadio
