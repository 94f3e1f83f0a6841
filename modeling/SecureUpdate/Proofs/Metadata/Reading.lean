import SecureUpdate.Metadata.Envelope
import SecureUpdate.Proofs.Chain
import SecureUpdate.Proofs.Dict

/-!
What reading metadata says. A successful reading is characterised once, for metadata of any role and
of an expected one, and what was checked of a payload holds of it. A timestamp pins a snapshot, and
a snapshot lists the top-level targets; nothing that it lists has version 0, which is the version
that a file counts as when it is not listed. Targets delegate to no name twice, so a name stands for
one delegation. What cannot be read is malformed by what it says itself.

Main statements: `parse_eq_ok_iff`, `parseAs_eq_ok_iff`, `parseAs_error`, `faultless_of_parseAs`,
`listed_ne_zero`, `Root.parseAs_ne_ok_of_targets`.
-/

namespace SecureUpdate

open Chain

variable {p : Primitives} {bs : Bytes}

/-! ### Faults of form -/

/-- Whether metadata is malformed by what it says itself, whoever delegates to it. -/
def Malformation.OfForm : Malformation → Prop
  | notDelegatedBy _ => False
  | _ => True

theorem Pin.ofForm_of_firstFault? {pins : Dict Pin} {fault : Malformation}
    (h : Pin.firstFault? pins = some fault) : fault.OfForm := by
  obtain ⟨e, -, hfault⟩ := List.exists_of_findSome?_eq_some h
  unfold fault? at hfault
  grind [Malformation.OfForm]

theorem Payload.ofForm_of_fault? {payload : Payload} {fault : Malformation}
    (h : payload.fault? = some fault) : fault.OfForm := by
  unfold fault? at h
  split at h
  · cases h
    trivial
  split at h
  · cases h
    trivial
  cases payload with
  | root => cases h
  | timestamp t =>
    simp only at h
    split at h
    · cases h
      trivial
    · exact Pin.ofForm_of_firstFault? h
  | snapshot s =>
    simp only at h
    split at h
    · cases h
      trivial
    · exact Pin.ofForm_of_firstFault? h
  | targets t =>
    simp only [Targets.fault?] at h
    split at h
    · cases h
      trivial
    · obtain ⟨name, -, rfl⟩ := Option.map_eq_some_iff.1 h
      trivial

namespace Signed

/-- What a successful reading comes to. -/
theorem parse_eq_ok_iff {m : Signed Payload} : Signed.parse p bs = .ok m ↔
    Json.Reader.whole Envelope.envelope bs = some (m.raw, m.signatures) ∧
      m.raw.canonical p.normalize = some m.canonical ∧ Payload.ofJson? m.raw = some m.payload ∧
        m.payload.check = .ok () := by
  constructor
  · intro h
    unfold Signed.parse at h
    split at h
    · cases h
    · rename_i raw signatures hread
      split at h
      · rename_i canonical payload hcanonical hpayload
        cases hcheck : payload.check with
        | error e =>
          rw [hcheck] at h
          cases h
        | ok =>
          rw [hcheck] at h
          cases h
          exact ⟨hread, hcanonical, hpayload, hcheck⟩
      · cases h
  · rintro ⟨hread, hcanonical, hpayload, hcheck⟩
    simp only [Signed.parse, hread, hcanonical, hpayload, hcheck]
    rfl

variable {α : Type} [RolePayload α]

theorem narrow_eq_ok_iff {m : Signed Payload} {m' : Signed α} : m.narrow α = .ok m' ↔
    RolePayload.ofPayload? m.payload = some m'.payload ∧
      m' = { m with payload := m'.payload } := by
  unfold narrow
  cases hpayload : (RolePayload.ofPayload? m.payload : Option α) with
  | none => simp
  | some payload =>
    constructor
    · intro h
      cases h
      exact ⟨rfl, rfl⟩
    · rintro ⟨h, heq⟩
      cases h
      rw [heq]

/-- Metadata of an expected role is metadata with a payload of that role. -/
theorem parseAs_eq_ok_iff {m : Signed α} : Signed.parseAs p α bs = .ok m ↔
    ∃ m₀, Signed.parse p bs = .ok m₀ ∧ RolePayload.ofPayload? m₀.payload = some m.payload ∧
      m = { m₀ with payload := m.payload } := by
  simp only [Signed.parseAs, bind_eq_ok_iff, narrow_eq_ok_iff]

/-- Bytes that are metadata of another role than the expected one are malformed, and for that
reason. -/
theorem narrow_error {m : Signed Payload} : FailsWith (fun e => ∃ role expected found,
    e = .malformedMetadata role (.unexpectedRole expected found)) (m.narrow α) := by
  intro e h
  unfold narrow at h
  split at h <;> cases h
  exact ⟨_, _, _, rfl⟩

/-- Bytes that cannot be read as metadata are malformed, for a reason that their own form gives. -/
theorem parse_error : FailsWith (fun e => ∃ role reason,
    e = .malformedMetadata role reason ∧ reason.OfForm) (Signed.parse p bs) := by
  intro e h
  unfold Signed.parse at h
  split at h
  · cases h
    exact ⟨_, _, rfl, trivial⟩
  · split at h
    · rename_i payload _ _
      unfold Payload.check at h
      cases hfault : payload.fault? with
      | none =>
        rw [hfault] at h
        cases h
      | some fault =>
        rw [hfault] at h
        cases h
        exact ⟨_, _, rfl, Payload.ofForm_of_fault? hfault⟩
    · cases h
      exact ⟨_, _, rfl, trivial⟩

/-- Bytes that cannot be read as metadata of an expected role are malformed, for a reason that their
own form gives. -/
theorem parseAs_error : FailsWith (fun e => ∃ role reason,
    e = .malformedMetadata role reason ∧ reason.OfForm) (parseAs p α bs) := by
  refine parse_error.bind fun m => narrow_error.mono ?_
  rintro _ ⟨role, expected, found, rfl⟩
  exact ⟨role, _, rfl, trivial⟩

end Signed

/-! ### What was checked of a payload -/

theorem Payload.check_eq_ok_iff {payload : Payload} :
    payload.check = .ok () ↔ payload.fault? = none := by
  unfold check
  cases payload.fault? <;> simp

/-- Whether a payload from which that of an expected role is taken is one of that role. -/
class LawfulRole (α : Type) [RolePayload α] : Prop where
  eq_toPayload : ∀ {payload : Payload} {x : α},
    RolePayload.ofPayload? payload = some x → payload = RolePayload.toPayload x

instance : LawfulRole Root where
  eq_toPayload {payload _} h := by
    cases payload <;> cases h
    rfl

instance : LawfulRole Timestamp where
  eq_toPayload {payload _} h := by
    cases payload <;> cases h
    rfl

instance : LawfulRole Snapshot where
  eq_toPayload {payload _} h := by
    cases payload <;> cases h
    rfl

instance : LawfulRole Targets where
  eq_toPayload {payload _} h := by
    cases payload <;> cases h
    rfl

/-- What is read as metadata of an expected role has no fault. -/
theorem Signed.faultless_of_parseAs {α : Type} [RolePayload α] [LawfulRole α] {m : Signed α}
    (h : Signed.parseAs p α bs = .ok m) : (RolePayload.toPayload m.payload).fault? = none := by
  obtain ⟨m₀, hparse, hpayload, -⟩ := parseAs_eq_ok_iff.1 h
  obtain ⟨-, -, -, hcheck⟩ := parse_eq_ok_iff.1 hparse
  rw [← LawfulRole.eq_toPayload hpayload]
  exact Payload.check_eq_ok_iff.1 hcheck

/-- Whether a payload holds what its role must hold, and nothing that its role must not. -/
def Payload.FitsRole : Payload → Prop
  | root _ => True
  | timestamp t => t.snapshotPin?.isSome ∧ Pin.firstFault? t.pins = none
  | snapshot s => (s.pin? Role.targets.name).isSome ∧ Pin.firstFault? s.pins = none
  | targets t => t.fault? = none

/-- The checks of a payload include those of its version and of its role. -/
theorem Payload.fault?_of_role {payload : Payload} (h : payload.fault? = none) :
    payload.header.version ≠ 0 ∧ payload.FitsRole := by
  unfold fault? at h
  split at h
  · cases h
  split at h
  · cases h
  rename_i hversion
  refine ⟨hversion, ?_⟩
  cases payload with
  | root => trivial
  | timestamp t =>
    simp only at h
    cases hpin : t.snapshotPin? <;> simp_all [FitsRole]
  | snapshot s =>
    simp only at h
    cases hpin : s.pin? Role.targets.name <;> simp_all [FitsRole]
  | targets t => exact h

/-! ### Timestamps and snapshots -/

/-- Every timestamp that is read pins a snapshot. -/
theorem Timestamp.snapshotPin?_isSome {m : Signed Timestamp}
    (h : Signed.parseAs p Timestamp bs = .ok m) : m.payload.snapshotPin?.isSome :=
  (Payload.fault?_of_role (Signed.faultless_of_parseAs h)).2.1

namespace Snapshot

/-- Every snapshot that is read lists the top-level targets. -/
theorem pin?_targets_isSome {m : Signed Snapshot} (h : Signed.parseAs p Snapshot bs = .ok m) :
    (m.payload.pin? Role.targets.name).isSome :=
  (Payload.fault?_of_role (Signed.faultless_of_parseAs h)).2.1

end Snapshot

theorem Pin.version_ne_zero {pins : Dict Pin} (h : Pin.firstFault? pins = none) {file : String}
    {pin : Pin} (hpin : pins.get? file = some pin) : pin.version ≠ 0 := by
  intro hzero
  have hfault : fault? file pin = none :=
    List.findSome?_eq_none_iff.1 h _ (SortedMap.mem_of_get? hpin)
  rw [fault?, if_pos hzero] at hfault
  cases hfault

/-- No snapshot that is read lists a file at version 0. -/
theorem Snapshot.listed_ne_zero {m : Signed Snapshot} (h : Signed.parseAs p Snapshot bs = .ok m)
    {file : String} {pin : Pin} (hpin : m.payload.pins.get? file = some pin) : pin.version ≠ 0 :=
  Pin.version_ne_zero (Payload.fault?_of_role (Signed.faultless_of_parseAs h)).2.2 hpin

/-! ### Targets -/

namespace Targets

theorem nodup_of_firstRepeated? {seen names : List String}
    (h : firstRepeated? seen names = none) : names.Nodup ∧ ∀ name ∈ names, name ∉ seen := by
  induction names generalizing seen with
  | nil => exact ⟨.nil, List.forall_mem_nil _⟩
  | cons name names ih =>
    rw [firstRepeated?] at h
    split at h
    · cases h
    · rename_i hnew
      obtain ⟨hnodup, hothers⟩ := ih h
      refine ⟨List.nodup_cons.2 ⟨fun hmem => hothers name hmem List.mem_cons_self, hnodup⟩,
        List.forall_mem_cons.2 ⟨by simpa using hnew, fun other hmem hseen => ?_⟩⟩
      exact hothers other hmem (List.mem_cons_of_mem _ hseen)

/-- No targets metadata that is read delegates to one name twice. -/
theorem nodup_delegated {m : Signed Targets} (h : Signed.parseAs p Targets bs = .ok m) :
    (m.payload.delegated.map (·.name)).Nodup := by
  have hunrepeated : m.payload.fault? = none :=
    (Payload.fault?_of_role (Signed.faultless_of_parseAs h)).2
  unfold fault? at hunrepeated
  split at hunrepeated
  · cases hunrepeated
  · exact (nodup_of_firstRepeated? (Option.map_eq_none_iff.1 hunrepeated)).1

/-- Where no name is delegated to twice, each delegation is the one that its name stands for. -/
theorem delegation?_of_mem {targets : Targets} (h : (targets.delegated.map (·.name)).Nodup)
    {d : Delegation} (hd : d ∈ targets.delegated) : targets.delegation? d.name = some d := by
  unfold delegation?
  generalize targets.delegated = ds at h hd ⊢
  induction ds with
  | nil => cases hd
  | cons first rest ih =>
    rw [List.map_cons, List.nodup_cons] at h
    rcases List.mem_cons.1 hd with rfl | hrest
    · rw [List.find?_cons_of_pos (by simp)]
    · have hother : first.name ≠ d.name := fun hname => h.1 (hname ▸ List.mem_map_of_mem hrest)
      rw [List.find?_cons_of_neg (by simpa using hother)]
      exact ih h.2 hrest

end Targets

/-! ### Roots -/

namespace Root

/-- No root that is read has version 0. -/
theorem version_ne_zero {m : Signed Root} (h : Signed.parseAs p Root bs = .ok m) :
    m.version ≠ 0 :=
  (Payload.fault?_of_role (Signed.faultless_of_parseAs h)).1

/-- What is read as targets metadata is not read as a root. -/
theorem parseAs_ne_ok_of_targets {m : Signed Targets}
    (h : Signed.parseAs p Targets bs = .ok m) (root : Signed Root) :
    Signed.parseAs p Root bs ≠ .ok root := by
  intro hroot
  obtain ⟨m₀, hparse, htargets, -⟩ := Signed.parseAs_eq_ok_iff.1 h
  obtain ⟨m₀', hparse', hpayload, -⟩ := Signed.parseAs_eq_ok_iff.1 hroot
  cases hparse.symm.trans hparse'
  rw [LawfulRole.eq_toPayload hpayload] at htargets
  cases htargets

end Root

end SecureUpdate
