import SecureUpdate.Proofs.Metadata.Reading
import SecureUpdate.Proofs.Trust.Authority

/-!
The line of roots. A first root is trusted on its own word, and every later one on the word of the
one before it as well, with a version that is one higher. Versions are of 64 bits, but the highest
one has no successor: the next number would be 0, which no reading lets pass. Nothing below the root
changes which root is trusted.

Main statements: `rooted_of_loadRoot`, `Rooted.succeeds`, `Lineage.version`.
-/

namespace SecureUpdate

variable {p : Primitives} {bs : Bytes}

namespace Root

variable {v v' v'' : Verified Root} {m n : Nat}

/-- Whether a root is what its bytes say, and enough of its own keys signed it. -/
structure SelfSigned (p : Primitives) (v : Verified Root) : Prop where
  read : Signed.parseAs p Root v.bytes = .ok v.metadata
  vouched : v.metadata.Vouched p v.payload.roles.root v.payload.keys

/-- The bytes of a root that was read say which root it is. -/
theorem SelfSigned.eq_of_read (h : SelfSigned p v) {m : Signed Root}
    (hm : Signed.parseAs p Root v.bytes = .ok m) : v = ⟨m, v.bytes⟩ := by
  obtain ⟨metadata, bytes⟩ := v
  cases h.read.symm.trans hm
  rfl

/-- Whether bytes are a root that satisfies its own root role. -/
def Valid (p : Primitives) (bs : Bytes) : Prop :=
  ∃ m, Signed.parseAs p Root bs = .ok m ∧
    m.verifies p m.payload.roles.root (.ofKeys p m.payload.keys) = true

/-- Whether a root is the next one after another: its version is one higher, and enough keys of the
other one signed it besides enough of its own. -/
structure Succeeds (p : Primitives) (v v' : Verified Root) : Prop extends SelfSigned p v' where
  version_eq : v'.version.toNat = v.version.toNat + 1
  vouchedByPrevious : v'.metadata.Vouched p v.payload.roles.root v.payload.keys

/-- Whether a line of so many links leads from one root to another. -/
inductive Lineage (p : Primitives) (v : Verified Root) : Nat → Verified Root → Prop where
  | refl : Lineage p v 0 v
  | link {n : Nat} {v' v'' : Verified Root} (line : Lineage p v n v') (next : Succeeds p v' v'') :
    Lineage p v (n + 1) v''

/-- Each link of a line raises the version by one. -/
theorem Lineage.version (h : Lineage p v n v') : v'.version.toNat = v.version.toNat + n := by
  induction h with
  | refl => rfl
  | link _ next ih => rw [next.version_eq, ih, Nat.add_assoc]

theorem Lineage.trans (h : Lineage p v m v') (h' : Lineage p v' n v'') :
    Lineage p v (m + n) v'' := by
  induction h' with
  | refl => exact h
  | link _ next ih => exact .link ih next

/-- Whether a line of so many links leads to a root from the one that some bytes are. -/
def DescendsFrom (p : Primitives) (bs : Bytes) (n : Nat) (v : Verified Root) : Prop :=
  ∃ first, first.bytes = bs ∧ SelfSigned p first ∧ Lineage p first n v

theorem DescendsFrom.lineage (h : DescendsFrom p bs m v) (h' : Lineage p v n v') :
    DescendsFrom p bs (m + n) v' := by
  obtain ⟨first, hbytes, hfirst, hline⟩ := h
  exact ⟨first, hbytes, hfirst, hline.trans h'⟩

end Root

namespace Trust

variable {t t' : Trust} {v : Verified Root}

/-- Whether a root is the trusted one, with its own ring of keys. -/
structure Rooted (p : Primitives) (t : Trust) (v : Verified Root) : Prop where
  held : t.root = some v
  ring : t.rootKeys = .ofKeys p v.payload.keys

theorem rooted_of_loadRoot (h : t.loadRoot p bs = .ok t') :
    ∃ v, v.bytes = bs ∧ Root.SelfSigned p v ∧ t'.Rooted p v := by
  obtain ⟨m, hm, rfl⟩ := loadRoot_eq_ok_iff.1 h
  exact ⟨⟨m, bs⟩, rfl, ⟨hm.read, Signed.vouched_of_verifies hm.signed⟩, rfl, rfl⟩

theorem loadRoot_of_valid (h : Root.Valid p bs) (hroot : t.root = none) :
    ∃ t', t.loadRoot p bs = .ok t' := by
  obtain ⟨m, hread, hsigned⟩ := h
  exact ⟨_, loadRoot_eq_ok_iff.2 ⟨m, ⟨hroot, hread, hsigned⟩, rfl⟩⟩

/-- The root that is accepted on top of another one is the next one after it. -/
theorem Rooted.succeeds (h : t.Rooted p v) (hnext : t.updateRoot p bs = .ok t') :
    ∃ v', v'.bytes = bs ∧ Root.Succeeds p v v' ∧ t'.Rooted p v' := by
  obtain ⟨held, m, hm, rfl⟩ := updateRoot_eq_ok_iff.1 hnext
  cases h.held.symm.trans hm.root_held
  have hversion : m.version.toNat = v.version.toNat + 1 := by
    have hzero : m.version.toNat ≠ 0 := fun hzero =>
      Root.version_ne_zero hm.read (UInt64.toNat_inj.1 hzero)
    have hlt := v.version.toNat_lt
    rw [hm.version_eq, UInt64.toNat_add] at hzero ⊢
    simp only [UInt64.toNat_one] at hzero ⊢
    omega
  have hprevious := hm.signedByHeld
  rw [h.ring] at hprevious
  exact ⟨⟨m, bs⟩, rfl, ⟨⟨hm.read, Signed.vouched_of_verifies hm.signed⟩, hversion,
    Signed.vouched_of_verifies hprevious⟩, rfl, rfl⟩

/-- Whatever else is accepted leaves the trusted root as it is. -/
theorem Rooted.attempt {offer : Offer} (h : t.Rooted p v) (hoffer : ¬ offer.OfRoot)
    (hattempt : t.attempt p offer = .ok t') : t'.Rooted p v := by
  cases offer with
  | firstRoot bs => exact absurd trivial hoffer
  | root bs => exact absurd trivial hoffer
  | timestamp bs origin =>
    obtain ⟨root, m, -, rfl⟩ := updateTimestamp_eq_ok_iff.1 hattempt
    exact ⟨h.held, h.ring⟩
  | snapshot bs origin =>
    obtain ⟨root, timestamp, m, -, rfl⟩ := updateSnapshot_eq_ok_iff.1 hattempt
    exact ⟨h.held, h.ring⟩
  | targets bs origin =>
    obtain ⟨root, snapshot, m, -, rfl⟩ := updateTargets_eq_ok_iff.1 hattempt
    exact ⟨h.held, h.ring⟩
  | delegated bs role delegator origin =>
    obtain ⟨snapshot, m, -, rfl⟩ := updateDelegated_eq_ok_iff.1 hattempt
    exact ⟨h.held, h.ring⟩
  | clock now =>
    cases hattempt
    exact ⟨h.held, h.ring⟩

end Trust

end SecureUpdate
