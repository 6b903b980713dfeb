import PacketRadio.Driver.Activity

/-!
# The record of the active context

Every claim of the role takes the next number, be it granted or refused, and giving the role up
takes none. So the numbers count the claims, as far as a word does: the first one is 1, and a number
is 0 only when they have wrapped. Zero stands for nobody in the record. Any other number that is
recorded is that of the active context.
-/

namespace PacketRadio.Activity

variable {a : Activity} {id : UInt32} {n : Nat}

theorem claim_of_unclaimed (unclaimed : a.active = 0) :
    a.claim = ⟨.ok a.next, ⟨a.next, a.next + 1⟩, []⟩ := by
  rw [claim, if_pos unclaimed]

theorem claim_of_claimed (claimed : a.active ≠ 0) :
    a.claim = ⟨.error .contextAlreadyActive, { a with next := a.next + 1 },
      [.notice (.claimRefused a.next a.active)]⟩ := by
  rw [claim, if_neg claimed]

theorem claim_next (a : Activity) : a.claim.state.next = a.next + 1 := by
  unfold claim
  split <;> rfl

/-- Whoever is recorded gives the role up, and nobody else is found in it. -/
theorem release_of_recorded (recorded : a.active = id) :
    a.release id = .quiet () { a with active := 0 } := by
  rw [release, if_pos recorded]

theorem release_next (a : Activity) (id : UInt32) : (a.release id).state.next = a.next := by
  unfold release
  split <;> rfl

/-! ## Who is recorded -/

theorem active?_eq_none : a.active? = none ↔ a.active = 0 := by
  unfold active?
  split
  · rename_i zero
    exact iff_of_true rfl zero
  · rename_i numbered
    exact iff_of_false nofun numbered

theorem active?_eq_some : a.active? = some id ↔ a.active = id ∧ id ≠ 0 := by
  unfold active?
  split
  · rename_i zero
    refine iff_of_false nofun ?_
    rintro ⟨rfl, numbered⟩
    exact numbered zero
  · rename_i numbered
    rw [Option.some_inj]
    exact ⟨fun same => ⟨same, same ▸ numbered⟩, And.left⟩

/-- The record names the context `id`. One that is recorded under a number that has wrapped to 0 is
not told from nobody. -/
def Names (a : Activity) (id : UInt32) : Prop := id ≠ 0 → a.active? = some id

theorem names_of_active (recorded : a.active = id) : a.Names id := fun numbered =>
  active?_eq_some.2 ⟨recorded, numbered⟩

/-! ## How often the role was claimed -/

/-- The record after `n` claims, with contexts that gave the role up in between. -/
inductive Claimed : Nat → Activity → Prop
  | initial : Claimed 0 initial
  | claim {n : Nat} {a : Activity} (before : Claimed n a) : Claimed (n + 1) a.claim.state
  | release {n : Nat} {a : Activity} (before : Claimed n a) (id : UInt32) :
      Claimed n (a.release id).state

namespace Claimed

/-- The next number counts the next claim. -/
theorem toNat_next (claimed : Claimed n a) : a.next.toNat = (n + 1) % UInt32.size := by
  induction claimed with
  | initial => rfl
  | claim before ih =>
    rw [claim_next, UInt32.toNat_add, ih]
    exact Nat.mod_add_mod _ _ _
  | release before id ih => rw [release_next, ih]

/-- **Only a number that has wrapped is 0.** -/
theorem next_eq_zero (claimed : Claimed n a) : a.next = 0 ↔ UInt32.size ∣ n + 1 := by
  rw [← UInt32.toNat_inj, claimed.toNat_next, Nat.dvd_iff_mod_eq_zero]
  rfl

/-- As long as the numbers have not wrapped, the next one is that of the claim. -/
theorem toNat_next_of_few (claimed : Claimed n a) (few : n + 1 < UInt32.size) :
    a.next ≠ 0 ∧ a.next.toNat = n + 1 :=
  ⟨mt claimed.next_eq_zero.1 (Nat.not_dvd_of_pos_of_lt n.succ_pos few),
    claimed.toNat_next.trans (Nat.mod_eq_of_lt few)⟩

theorem granted (claimed : Claimed n a) (unclaimed : a.active = 0) :
    Claimed (n + 1) ⟨a.next, a.next + 1⟩ := by
  have after := claimed.claim
  rwa [claim_of_unclaimed unclaimed] at after

theorem refused (claimed : Claimed n a) (taken : a.active ≠ 0) :
    Claimed (n + 1) { a with next := a.next + 1 } := by
  have after := claimed.claim
  rwa [claim_of_claimed taken] at after

theorem vacated (claimed : Claimed n a) : Claimed n { a with active := 0 } := by
  have after := claimed.release a.active
  rwa [release_of_recorded rfl] at after

end Claimed

end PacketRadio.Activity
