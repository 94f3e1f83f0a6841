import SecureUpdate.Proofs.Client.Coherence
import SecureUpdate.Proofs.Client.Delegators
import SecureUpdate.Proofs.Delegation.Calls

/-!
What a search is given is current. Metadata of delegated roles comes from memory, from the local
store or from the mirrors, and each way has checks of its own: memory is asked whether what it holds
is still current, what the store gives is judged on a copy of what is trusted, without a look at its
expiry, and what the mirrors give has to be unexpired to be accepted at all. All three come to the
same: whatever the search is given is held, is unexpired, and is exactly what the snapshot pins; and
it stays so while the search goes on, since no role is asked for twice.

Main statement: `delegatedTargets_current`.
-/

namespace SecureUpdate

namespace Trust

variable {p : Primitives} {t t' : Trust} {role other : String} {v : Verified Targets}

/-- Whether metadata is what is held for a delegated role, is unexpired at the time against which
expiry is judged, and is exactly what the snapshot that is held pins for the role. -/
structure HoldsCurrent (p : Primitives) (t : Trust) (role : String) (v : Verified Targets) :
    Prop where
  held : t.delegated.get? role = some v
  unexpired : v.metadata.isExpired t.now = false
  pinned : ∃ snapshot pin, t.snapshot = some snapshot ∧ snapshot.payload.pin? role = some pin ∧
    pin.Matches p v.version v.bytes

theorem exists_holdsCurrent (h : t.isDelegatedCurrent p role = true) :
    ∃ v, t.HoldsCurrent p role v := by
  obtain ⟨snapshot, v, pin, hsnapshot, hheld, hpin, hcurrent⟩ := isPinned_iff.1 h
  exact ⟨v, hheld, hcurrent.unexpired, snapshot, pin, hsnapshot, hpin,
    .of_describes hcurrent.described⟩

/-- What is accepted from the mirrors is current at once. -/
theorem exists_holdsCurrent_of_remote {bs : Bytes} {delegator : String}
    (h : t.updateDelegated p bs role delegator .remote = .ok t') :
    ∃ v, t'.HoldsCurrent p role v := by
  obtain ⟨snapshot, m, hm, rfl⟩ := updateDelegated_eq_ok_iff.1 h
  obtain ⟨pin, hpin, hdescribes⟩ := hm.pinned
  have hheld : (t.delegated.insert role ⟨m, bs⟩).get? role = some ⟨m, bs⟩ := by
    simp [SortedMap.get?_insert]
  exact ⟨⟨m, bs⟩, hheld, (hm.unexpired rfl).2, snapshot, pin, hm.snapshot_held, hpin,
    .of_describes hdescribes⟩

/-- Metadata that is accepted for another role leaves what is held current. -/
theorem HoldsCurrent.delegate {bs : Bytes} {delegator : String} {origin : Origin}
    (h : t.HoldsCurrent p role v) (hother : other ≠ role)
    (haccept : t.updateDelegated p bs other delegator origin = .ok t') :
    t'.HoldsCurrent p role v := by
  obtain ⟨snapshot, m, -, rfl⟩ := updateDelegated_eq_ok_iff.1 haccept
  refine ⟨?_, h.unexpired, h.pinned⟩
  rw [SortedMap.get?_insert, if_neg hother]
  exact h.held

end Trust

namespace Client

variable {ν κ : Type} {c : Client ν κ} {s s' : LookupState ν κ} {delegation : Delegation}
  {role delegator : String} {v : Verified Targets}

/-! ### One ask -/

theorem heldDelegated_eq_ok_iff {t : Trust} :
    heldDelegated t role = .ok v ↔ t.delegated.get? role = some v := by
  unfold heldDelegated
  cases t.delegated.get? role <;> simp

/-- What is given as held, where something is held as current, is current. -/
theorem holdsCurrent_of_heldDelegated {p : Primitives} {t : Trust}
    (h : heldDelegated t role = .ok v) (hcurrent : ∃ v, t.HoldsCurrent p role v) :
    t.HoldsCurrent p role v := by
  obtain ⟨v', hv'⟩ := hcurrent
  cases (heldDelegated_eq_ok_iff.1 h).symm.trans hv'.held
  exact hv'

/-- Metadata from the local store is taken over only if it is current. -/
theorem loadDelegated_current (h : c.loadDelegated role delegator s = (true, s')) :
    s'.1.isDelegatedCurrent c.primitives role = true := by
  unfold loadDelegated at h
  split at h
  · simp only at h
    split at h
    · split at h
      · rename_i hcurrent
        cases h
        exact hcurrent
      · cases h
    · cases h
  · cases h

/-- Whichever way metadata comes, it is current once it is given. -/
theorem delegatedTargets_holdsCurrent
    (h : c.delegatedTargets delegation delegator s = (.ok v, s')) :
    s'.1.HoldsCurrent c.primitives delegation.name v := by
  unfold delegatedTargets at h
  simp only at h
  split at h
  · rename_i hcurrent
    obtain ⟨hheld, rfl⟩ := Prod.mk.inj h
    exact holdsCurrent_of_heldDelegated hheld (Trust.exists_holdsCurrent hcurrent)
  · split at h
    · -- the copy that took metadata over from the store was asked before it was kept
      rename_i s₁ hload
      obtain ⟨hheld, rfl⟩ := Prod.mk.inj h
      exact holdsCurrent_of_heldDelegated hheld
        (Trust.exists_holdsCurrent (loadDelegated_current hload))
    · split at h
      · rename_i t w hfetch
        obtain ⟨hheld, rfl⟩ := Prod.mk.inj h
        rcases fetchDelegated_cases hfetch with
          ⟨e, net, he, -⟩ | ⟨t', bs, version, net, ht, haccept, -⟩
        · cases he
        · cases ht
          exact holdsCurrent_of_heldDelegated hheld (Trust.exists_holdsCurrent_of_remote haccept)
      · cases h

/-- To ask for another role leaves what is held current. -/
theorem holdsCurrent_of_asked (h : s.1.HoldsCurrent c.primitives role v)
    (hother : delegation.name ≠ role) :
    (c.delegatedTargets delegation delegator s).2.1.HoldsCurrent c.primitives role v := by
  rcases delegatedTargets_trust delegation delegator s with hsame | ⟨bs, origin, haccept⟩
  · rw [hsame]
    exact h
  · exact h.delegate hother haccept

/-! ### A whole look-up -/

/-- What holds all along a search of the answers that its source has given. -/
def GivenCurrent (p : Primitives) (visited : List String) (t : Trust) (calls : List Search.Call) :
    Prop :=
  ∀ call ∈ calls, call.delegation.name ∈ visited ∧
    ∀ v, call.answer = .ok v → t.HoldsCurrent p call.delegation.name v

theorem GivenCurrent.ask {visited : List String} {calls : List Search.Call}
    (h : GivenCurrent c.primitives visited s.1 calls) (hnew : delegation.name ∉ visited) :
    GivenCurrent c.primitives (delegation.name :: visited)
      (c.delegatedTargets delegation delegator s).2.1
      (calls ++ [⟨delegation, delegator, (c.delegatedTargets delegation delegator s).1⟩]) := by
  intro call hcall
  rcases List.mem_append.1 hcall with hold | hlast
  · obtain ⟨hvisited, hcurrent⟩ := h call hold
    have hother : delegation.name ≠ call.delegation.name := by
      rintro heq
      exact hnew (heq ▸ hvisited)
    exact ⟨List.mem_cons_of_mem _ hvisited, fun v hv =>
      holdsCurrent_of_asked (hcurrent v hv) hother⟩
  · cases List.mem_singleton.1 hlast
    exact ⟨List.mem_cons_self, fun v hv => delegatedTargets_holdsCurrent (Prod.ext hv rfl)⟩

/-- All that a look-up has been given is current when it ends. -/
theorem calls_givenCurrent (c : Client ν κ) (path : String) (top : Targets) (s : LookupState ν κ) :
    ∃ visited, GivenCurrent c.primitives visited
      (Search.run c.primitives c.searchBounds c.delegatedTargets path top s).2.1
      (Search.callsOf (fun source => Search.run c.primitives c.searchBounds source path top)
        c.delegatedTargets s) := by
  have hask : ∀ visited (s : LookupState ν κ) calls (delegation : Delegation) delegator,
      delegation.name ∉ visited → GivenCurrent c.primitives visited s.1 calls →
        GivenCurrent c.primitives (delegation.name :: visited)
          (c.delegatedTargets delegation delegator s).2.1
          (calls ++ [⟨delegation, delegator, (c.delegatedTargets delegation delegator s).1⟩]) :=
    fun _ _ _ _ _ hnew h => h.ask hnew
  exact Search.calls_induction hask c.primitives c.searchBounds path top (List.forall_mem_nil _)

/-- Whatever is trusted and whatever the store and the mirrors hold: metadata that is given for a
role is then held for it, unexpired, and exactly what the snapshot that is held pins; where the
store gives nothing of use, what is trusted stays as it was; and in a look-up all the metadata that
its search was given is held, unexpired and pinned in the end. -/
theorem delegatedTargets_current (c : Client ν κ) :
    (∀ (delegation : Delegation) delegator (s s' : LookupState ν κ) v,
      c.delegatedTargets delegation delegator s = (.ok v, s') →
        s'.1.HoldsCurrent c.primitives delegation.name v) ∧
    (∀ role delegator (s s' : LookupState ν κ),
      c.loadDelegated role delegator s = (false, s') → s'.1 = s.1) ∧
    ∀ path top (s : LookupState ν κ), ∀ call ∈
      Search.callsOf (fun source => Search.run c.primitives c.searchBounds source path top)
        c.delegatedTargets s,
      ∀ v, call.answer = .ok v →
        (Search.run c.primitives c.searchBounds c.delegatedTargets path top s).2.1.HoldsCurrent
          c.primitives call.delegation.name v := by
  refine ⟨fun _ _ _ _ _ => delegatedTargets_holdsCurrent, fun role delegator s s' hload => ?_,
    fun path top s call hcall => ?_⟩
  · rcases (loadDelegated_cases hload).2 with ⟨hloaded, -⟩ | ⟨-, hsame⟩
    · cases hloaded
    · exact hsame
  · obtain ⟨visited, hgiven⟩ := c.calls_givenCurrent path top s
    exact (hgiven call hcall).2

open Twice in
/-- The store holds metadata of `x` that has expired, though it would be accepted from there; the
mirror serves it anew. -/
theorem delegatedTargets_current_renewed :
    let lapsed := publish ['1'] "[\"targets\",\"1\",1,\"1970-01-01T00:00:00Z\"]"
    let s : LookupState (List Reply) (Dict Bytes) :=
      (trust, { world with cache := .ofList [("x", lapsed)] })
    (trust.updateDelegated .transparent lapsed "x" Role.targets.name .cache).isOk = true ∧
      ((scripted []).loadDelegated "x" Role.targets.name s).2.1 = trust ∧
        ∃ v, ((scripted []).delegatedTargets (toX '1') Role.targets.name s).1 = .ok v ∧
          ((scripted []).delegatedTargets (toX '1') Role.targets.name s).2.1.HoldsCurrent
            .transparent "x" v := by
  intro lapsed s
  obtain ⟨hasks, hloads, -⟩ := delegatedTargets_current (scripted [])
  have haccepted : (trust.updateDelegated .transparent lapsed "x" Role.targets.name .cache).isOk =
      true := by decide +kernel
  have hloaded : ((scripted []).loadDelegated "x" Role.targets.name s).1 = false := by
    decide +kernel
  have hgiven : ((scripted []).delegatedTargets (toX '1') Role.targets.name s).1.isOk = true := by
    decide +kernel
  have hkept : ((scripted []).loadDelegated "x" Role.targets.name s).2.1 = trust := by
    cases hload : (scripted []).loadDelegated "x" Role.targets.name s with
    | mk loaded s' =>
      rw [hload] at hloaded
      cases hloaded
      exact hloads "x" Role.targets.name s s' hload
  refine ⟨haccepted, hkept, ?_⟩
  cases hask : (scripted []).delegatedTargets (toX '1') Role.targets.name s with
  | mk r s' =>
    rw [hask] at hgiven
    cases r with
    | error e => cases hgiven
    | ok v => exact ⟨v, rfl, hasks (toX '1') Role.targets.name s s' v hask⟩

end Client

end SecureUpdate
