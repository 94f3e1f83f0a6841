import SecureUpdate.Metadata.Envelope
import SecureUpdate.Proofs.Dict

/-!
What a tally counts. The distinct keys with a good signature are exactly the usable keys of
authorized ids under which some signature verifies, each once. An envelope that satisfies an
authority is therefore vouched for by as many distinct keys as the threshold asks for
(`vouched_of_verifies`), and what vouches for it are keys and not the ids they are listed under.
-/

namespace SecureUpdate

/-! ### Lists without repetitions -/

theorem nodup_eraseDups {α : Type} [BEq α] [LawfulBEq α] : ∀ l : List α, l.eraseDups.Nodup
  | [] => by simp
  | a :: l => by
    rw [List.eraseDups_cons, List.nodup_cons, List.mem_eraseDups]
    exact ⟨by simp, nodup_eraseDups (l.filter fun b => !b == a)⟩
  termination_by l => l.length
  decreasing_by exact Nat.lt_succ_of_le (List.length_filter_le _ _)

/-! ### Rings -/

/-- The usable keys of a ring are those of the listed keys. -/
theorem KeyRing.usable?_ofKeys (p : Primitives) (keys : Dict Key) (id : String) :
    (ofKeys p keys).usable? id = (keys.get? id).bind fun k => k.publicKey? p := by
  rw [usable?, ofKeys, SortedMap.get?_mapEntries]
  cases keys.get? id <;> rfl

theorem Key.length_of_publicKey? {p : Primitives} {k : Key} {key : Bytes}
    (h : k.publicKey? p = some key) : key.length = 32 := by
  rw [publicKey?] at h
  split at h
  · split at h
    · split at h
      · simp_all
      · cases h
    · cases h
  · cases h

/-! ### Verdicts and tallies -/

variable {p : Primitives} {message : Bytes} {authority : Authority} {ring : KeyRing} {key : Bytes}

theorem verdict_eq_good_iff {s : Signature} : verdict p message authority ring s = .good key ↔
    s.keyId ∈ authority.keyIds ∧ ring.usable? s.keyId = some key ∧
      s.verifies p key message = true := by
  rw [verdict]
  split
  · rename_i hdeclared
    refine ⟨nofun, ?_⟩
    rintro ⟨-, husable, -⟩
    rw [KeyRing.usable?] at husable
    rw [KeyRing.declares, SortedMap.contains] at hdeclared
    cases h : ring.get? s.keyId <;> simp_all
  · split
    · simp_all
    · split
      · simp_all
      · rename_i found hfound
        constructor
        · intro h
          split at h
          · rename_i hverifies
            cases h
            exact ⟨by simp_all, hfound, hverifies⟩
          · cases h
        · rintro ⟨-, husable, hverifies⟩
          cases hfound.symm.trans husable
          rw [if_pos hverifies]

namespace Tally

theorem mem_validKeys_take_iff {signatures : List Signature} :
    key ∈ (take p message signatures authority ring).validKeys ↔
      ∃ s ∈ signatures, s.keyId ∈ authority.keyIds ∧ ring.usable? s.keyId = some key ∧
        s.verifies p key message = true := by
  simp only [validKeys, take, List.mem_eraseDups, List.mem_filterMap, List.mem_map]
  constructor
  · rintro ⟨v, ⟨s, hs, rfl⟩, hv⟩
    refine ⟨s, hs, verdict_eq_good_iff.1 ?_⟩
    split at hv
    · rename_i h
      cases hv
      exact h
    · cases hv
  · rintro ⟨s, hs, hgood⟩
    refine ⟨_, ⟨s, hs, rfl⟩, ?_⟩
    rw [verdict_eq_good_iff.2 hgood]

end Tally

/-! ### Vouching -/

/-- Enough distinct public keys, each the usable key of some authorized id, have a signature in the
envelope that verifies over its canonical bytes. The signature may carry any key id. -/
def Signed.Vouched {α : Type} (p : Primitives) (m : Signed α) (authority : Authority)
    (keys : Dict Key) : Prop :=
  ∃ signers : List Bytes, signers.Nodup ∧ authority.threshold.toNat ≤ signers.length ∧
    ∀ key ∈ signers, key.length = 32 ∧
      (∃ id ∈ authority.keyIds, ∃ k, keys.get? id = some k ∧ k.publicKey? p = some key) ∧
      ∃ s ∈ m.signatures, s.verifies p key m.canonical = true

/-- An envelope that satisfies an authority with a ring of keys is vouched for by those keys. -/
theorem Signed.vouched_of_verifies {α : Type} {m : Signed α} {keys : Dict Key}
    (h : m.verifies p authority (.ofKeys p keys) = true) : m.Vouched p authority keys := by
  refine ⟨(m.tally p authority (.ofKeys p keys)).validKeys, nodup_eraseDups _, ?_, ?_⟩
  · exact of_decide_eq_true h
  · intro key hkey
    obtain ⟨s, hs, hid, husable, hverifies⟩ := Tally.mem_validKeys_take_iff.1 hkey
    rw [KeyRing.usable?_ofKeys] at husable
    obtain ⟨k, hk, hpublic⟩ := Option.bind_eq_some_iff.1 husable
    exact ⟨Key.length_of_publicKey? hpublic, ⟨s.keyId, hid, k, hk, hpublic⟩, s, hs, hverifies⟩

end SecureUpdate
