import Mathlib.Data.Set.Card
import SecureUpdate.Proofs.Key.Tally
import SecureUpdate.Proofs.Sample

/-!
A tally counts exactly. Each signature stands in one of five ways, which the declared keys and the
authority decide (`Stands`), and the tally lists its key id accordingly. The number of valid keys is
the size of the set of public keys with a good signature, so neither order nor repetition matters,
and further signatures cannot undo what was reached.

Main statement: `Tally.take_exact`.
-/

namespace SecureUpdate

variable {p : Primitives} {message key : Bytes} {authority : Authority} {keys : Dict Key}
  {s : Signature} {signatures signatures' : List Signature}

/-- The ways in which a signature can stand. -/
inductive Standing where
  | good
  | bad
  | unknown
  | untrusted
  | unsupported
deriving DecidableEq

/-- How a signature over a message stands, by the keys that are declared and those that are
authorized. -/
inductive Stands (p : Primitives) (message : Bytes) (authority : Authority) (keys : Dict Key)
    (s : Signature) : Standing → Prop where
  | unknown (undeclared : keys.get? s.keyId = none) : Stands p message authority keys s .unknown
  | untrusted {k : Key} (declared : keys.get? s.keyId = some k)
      (unauthorized : s.keyId ∉ authority.keyIds) : Stands p message authority keys s .untrusted
  | unsupported {k : Key} (declared : keys.get? s.keyId = some k)
      (authorized : s.keyId ∈ authority.keyIds) (unusable : k.publicKey? p = none) :
      Stands p message authority keys s .unsupported
  | bad {k : Key} {key : Bytes} (declared : keys.get? s.keyId = some k)
      (authorized : s.keyId ∈ authority.keyIds) (usable : k.publicKey? p = some key)
      (refuted : s.verifies p key message = false) : Stands p message authority keys s .bad
  | good {k : Key} {key : Bytes} (declared : keys.get? s.keyId = some k)
      (authorized : s.keyId ∈ authority.keyIds) (usable : k.publicKey? p = some key)
      (verified : s.verifies p key message = true) : Stands p message authority keys s .good

/-- The public keys with a good signature. -/
def SigningKeys (p : Primitives) (message : Bytes) (signatures : List Signature)
    (authority : Authority) (keys : Dict Key) : Set Bytes :=
  {key | key.length = 32 ∧ ∃ s ∈ signatures, s.keyId ∈ authority.keyIds ∧
    (∃ k, keys.get? s.keyId = some k ∧ k.publicKey? p = some key) ∧
    s.verifies p key message = true}

/-! ### Standings -/

/-- The way of standing that a verdict reports. -/
def Verdict.standing : Verdict → Standing
  | .unknown => .unknown
  | .untrusted => .untrusted
  | .unsupported => .unsupported
  | .bad => .bad
  | .good _ => .good

theorem KeyRing.declares_ofKeys (p : Primitives) (keys : Dict Key) (id : String) :
    (ofKeys p keys).declares id = (keys.get? id).isSome := by
  rw [declares, SortedMap.contains, ofKeys, SortedMap.get?_mapEntries, Option.isSome_map]

/-- The verdict of a signature whose key is declared. -/
theorem verdict_of_declared {k : Key} (h : keys.get? s.keyId = some k) :
    verdict p message authority (.ofKeys p keys) s =
      if s.keyId ∈ authority.keyIds then
        match k.publicKey? p with
        | none => .unsupported
        | some key => if s.verifies p key message then .good key else .bad
      else .untrusted := by
  rw [verdict, KeyRing.declares_ofKeys, KeyRing.usable?_ofKeys, h, Option.bind_some]
  by_cases hid : s.keyId ∈ authority.keyIds <;> cases k.publicKey? p <;> simp [hid]

theorem stands_verdict (p : Primitives) (message : Bytes) (authority : Authority) (keys : Dict Key)
    (s : Signature) :
    Stands p message authority keys s
      (verdict p message authority (.ofKeys p keys) s).standing := by
  cases hk : keys.get? s.keyId with
  | none =>
    rw [verdict, KeyRing.declares_ofKeys, hk]
    exact .unknown hk
  | some k =>
    rw [verdict_of_declared hk]
    by_cases hid : s.keyId ∈ authority.keyIds
    · rw [if_pos hid]
      cases hpublic : k.publicKey? p with
      | none => exact .unsupported hk hid hpublic
      | some key =>
        cases hverifies : s.verifies p key message with
        | false => simpa [hverifies] using .bad hk hid hpublic hverifies
        | true => simpa [hverifies] using .good hk hid hpublic hverifies
    · rw [if_neg hid]
      exact .untrusted hk hid

/-- A signature stands in one way only. -/
theorem Stands.unique {a b : Standing} (ha : Stands p message authority keys s a)
    (hb : Stands p message authority keys s b) : a = b := by
  cases ha <;> cases hb <;> simp_all

theorem stands_iff {a : Standing} : Stands p message authority keys s a ↔
    (verdict p message authority (.ofKeys p keys) s).standing = a := by
  constructor
  · exact (stands_verdict p message authority keys s).unique
  · rintro rfl
    exact stands_verdict p message authority keys s

/-! ### Tallies -/

namespace Tally

/-- The list of a tally for one way of standing. -/
def listed (t : Tally) : Standing → List String
  | .good => t.good
  | .bad => t.bad
  | .unknown => t.unknown
  | .untrusted => t.untrusted
  | .unsupported => t.unsupported

theorem listed_eq_idsOf (t : Tally) (a : Standing) :
    t.listed a = t.idsOf fun v => v.standing = a := by
  cases a <;> simp only [listed, good, bad, unknown, untrusted, unsupported] <;>
    refine congrArg t.idsOf (funext fun v => ?_) <;> cases v <;> rfl

open Classical in
/-- Each list has the key ids of the signatures that stand so, in their order. -/
theorem listed_take (a : Standing) :
    (take p message signatures authority (.ofKeys p keys)).listed a =
      (signatures.filter fun s => Stands p message authority keys s a).map (·.keyId) := by
  simp only [listed_eq_idsOf, idsOf, take, List.filter_map, List.map_map, stands_iff]
  rfl

theorem mem_validKeys_ofKeys_iff :
    key ∈ (take p message signatures authority (.ofKeys p keys)).validKeys ↔
      key ∈ SigningKeys p message signatures authority keys := by
  simp only [mem_validKeys_take_iff, KeyRing.usable?_ofKeys, Option.bind_eq_some_iff, SigningKeys,
    Set.mem_ofPred_eq]
  refine ⟨fun h => ⟨?_, h⟩, And.right⟩
  obtain ⟨s, -, -, ⟨k, -, hpublic⟩, -⟩ := h
  exact Key.length_of_publicKey? hpublic

/-- As many keys are valid as the set of public keys with a good signature has members. -/
theorem length_validKeys_take :
    (take p message signatures authority (.ofKeys p keys)).validKeys.length =
      (SigningKeys p message signatures authority keys).ncard := by
  have hset : SigningKeys p message signatures authority keys =
      (take p message signatures authority (.ofKeys p keys)).validKeys.toFinset := by
    ext key
    simp only [List.coe_toFinset, Set.mem_ofPred_eq, mem_validKeys_ofKeys_iff]
  rw [hset, Set.ncard_coe_finset]
  exact (List.toFinset_card_of_nodup (nodup_eraseDups _)).symm

theorem finite_signingKeys : (SigningKeys p message signatures authority keys).Finite :=
  (take p message signatures authority (.ofKeys p keys)).validKeys.finite_toSet.subset
    fun _ => mem_validKeys_ofKeys_iff.2

theorem satisfied_take_iff :
    (take p message signatures authority (.ofKeys p keys)).satisfied = true ↔
      authority.threshold.toNat ≤ (SigningKeys p message signatures authority keys).ncard := by
  rw [← length_validKeys_take]
  exact decide_eq_true_iff

/-- More signatures and more authorized ids can only add to the keys with a good signature. -/
theorem signingKeys_subset {authority' : Authority} (hsignatures : signatures ⊆ signatures')
    (hids : authority.keyIds ⊆ authority'.keyIds) :
    SigningKeys p message signatures authority keys ⊆
      SigningKeys p message signatures' authority' keys := by
  rintro key ⟨hlength, s, hs, hid, hdeclared, hverifies⟩
  exact ⟨hlength, s, hsignatures hs, hids hid, hdeclared, hverifies⟩

/-- More signatures and more authorized ids leave what was reached. -/
theorem satisfied_mono {authority' : Authority} (hsignatures : signatures ⊆ signatures')
    (hids : authority.keyIds ⊆ authority'.keyIds)
    (hthreshold : authority'.threshold = authority.threshold)
    (h : (take p message signatures authority (.ofKeys p keys)).satisfied = true) :
    (take p message signatures' authority' (.ofKeys p keys)).satisfied = true := by
  rw [satisfied_take_iff] at h ⊢
  calc authority'.threshold.toNat
      _ = authority.threshold.toNat := by rw [hthreshold]
      _ ≤ _ := h
      _ ≤ _ := Set.ncard_le_ncard (signingKeys_subset hsignatures hids) finite_signingKeys

open Classical in
/-- **A tally counts exactly.** The number of valid keys is that of the distinct public keys of 32
bytes for which some signature of a declared and authorized key id verifies; the threshold is
reached exactly when this number reaches it. Every signature stands in exactly one way, and each of
the five lists has the key ids of the signatures that stand so, in their order. Hence signatures and
authorized ids may be permuted and repeated, and signatures may be added. -/
theorem take_exact (p : Primitives) (message : Bytes) (signatures : List Signature)
    (authority : Authority) (keys : Dict Key) :
    (take p message signatures authority (.ofKeys p keys)).validKeys.length =
      (SigningKeys p message signatures authority keys).ncard ∧
    ((take p message signatures authority (.ofKeys p keys)).satisfied = true ↔
      authority.threshold.toNat ≤ (SigningKeys p message signatures authority keys).ncard) ∧
    (∀ s, ∃! a, Stands p message authority keys s a) ∧
    (∀ a, (take p message signatures authority (.ofKeys p keys)).listed a =
      (signatures.filter fun s => Stands p message authority keys s a).map (·.keyId)) ∧
    (∀ (signatures' : List Signature) (authority' : Authority),
      (∀ s, s ∈ signatures' ↔ s ∈ signatures) →
      (∀ id, id ∈ authority'.keyIds ↔ id ∈ authority.keyIds) →
      authority'.threshold = authority.threshold →
      (take p message signatures' authority' (.ofKeys p keys)).satisfied =
        (take p message signatures authority (.ofKeys p keys)).satisfied) ∧
    (∀ signatures', signatures ⊆ signatures' →
      (take p message signatures authority (.ofKeys p keys)).satisfied = true →
      (take p message signatures' authority (.ofKeys p keys)).satisfied = true) := by
  refine ⟨length_validKeys_take, satisfied_take_iff, fun s => ?_, listed_take,
    fun signatures' authority' hsignatures hids hthreshold => ?_, fun signatures' hsubset => ?_⟩
  · exact ⟨_, stands_verdict p message authority keys s,
      fun a ha => ha.unique (stands_verdict p message authority keys s)⟩
  · rw [Bool.eq_iff_iff]
    exact ⟨satisfied_mono (fun _ => (hsignatures _).1) (fun _ => (hids _).1) hthreshold.symm,
      satisfied_mono (fun _ => (hsignatures _).2) (fun _ => (hids _).2) hthreshold⟩
  · exact satisfied_mono hsubset (List.Subset.refl _) rfl

namespace Panel

/-- One key under two ids, and another one. -/
def declared : Dict Key :=
  .ofList [("a", Key.ofDigit '1'), ("b", Key.ofDigit '1'), ("c", Key.ofDigit '2')]

/-- Two of the keys have to sign. -/
def panel : Authority := ⟨["a", "b", "c"], 2, by decide⟩

/-- The same with the ids in another order, and one of them twice. -/
def reordered : Authority := ⟨["c", "b", "c", "a"], 2, by decide⟩

/-- The signature of the key of a digit. -/
def signature (id : String) (digit : Char) : Signature :=
  ⟨id, String.ofList (List.replicate 128 digit)⟩

end Panel

open Panel in
/-- Two keys sign. This is enough with a signature given twice and the ids reordered, and with one
more signature. -/
theorem take_exact_panel :
    let tally := fun signatures authority =>
      take .transparent [] signatures authority (.ofKeys .transparent declared)
    (tally [signature "a" '1', signature "c" '2'] panel).satisfied = true ∧
      (tally [signature "c" '2', signature "a" '1', signature "a" '1'] reordered).satisfied = true ∧
      (tally [signature "b" '1', signature "a" '1', signature "c" '2'] panel).satisfied = true :=
    by
  have hsatisfied : (take .transparent [] [signature "a" '1', signature "c" '2'] panel
      (.ofKeys .transparent declared)).satisfied = true := by decide +kernel
  obtain ⟨-, -, -, -, hsame, hmore⟩ := take_exact .transparent []
    [signature "a" '1', signature "c" '2'] panel declared
  refine ⟨hsatisfied, ?_, ?_⟩
  · exact (hsame _ reordered (by simp; grind) (by simp [panel, reordered]; grind) rfl).trans
      hsatisfied
  · exact hmore _ (by simp) hsatisfied

end Tally

end SecureUpdate
