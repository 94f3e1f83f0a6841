import SecureUpdate.Proofs.Client.Refresh
import SecureUpdate.Proofs.Trust.Refusal

/-!
How a refresh goes that succeeds, stage by stage, over any store. Each stage starts from where the
one before it ended, and below the root a stage changes what is held for its role and what depends
on it. A chain of roots ends when the next root cannot be retrieved, or when there have been as many
rotations as are allowed.

Main statements: `runRefresh_eq_ok_iff`, `rotateRoots_ok`, `Passage.timestamp_ok`.
-/

namespace SecureUpdate

/-! ### The same root -/

/-- Whether two things that are trusted have the same root with the same ring of keys, and are
judged at the same time. -/
structure Trust.SameRoot (t t' : Trust) : Prop where
  root : t'.root = t.root
  rootKeys : t'.rootKeys = t.rootKeys
  now : t'.now = t.now

namespace Trust.SameRoot

variable {p : Primitives} {t t' t'' : Trust} {bs : Bytes} {origin : Origin}

theorem refl (t : Trust) : SameRoot t t := ⟨rfl, rfl, rfl⟩

theorem trans (h : SameRoot t t') (h' : SameRoot t' t'') : SameRoot t t'' :=
  ⟨h'.root.trans h.root, h'.rootKeys.trans h.rootKeys, h'.now.trans h.now⟩

theorem of_timestamp (h : t.updateTimestamp p bs origin = .ok t') : SameRoot t t' := by
  obtain ⟨root, m, -, rfl⟩ := updateTimestamp_eq_ok_iff.1 h
  exact ⟨rfl, rfl, rfl⟩

theorem of_snapshot (h : t.updateSnapshot p bs origin = .ok t') : SameRoot t t' := by
  obtain ⟨root, timestamp, m, -, rfl⟩ := updateSnapshot_eq_ok_iff.1 h
  exact ⟨rfl, rfl, rfl⟩

theorem of_targets (h : t.updateTargets p bs origin = .ok t') : SameRoot t t' := by
  obtain ⟨root, snapshot, m, -, rfl⟩ := updateTargets_eq_ok_iff.1 h
  exact ⟨rfl, rfl, rfl⟩

end Trust.SameRoot

/-! ### Rotations -/

/-- How many rotations of the root some events report. -/
def rotations (events : List Event) : Nat := events.countP fun
  | .rotated _ => true
  | _ => false

@[simp] theorem rotations_append (events events' : List Event) :
    rotations (events ++ events') = rotations events + rotations events' := List.countP_append

theorem rotations_le {events events' : List Event} (h : events <+: events') :
    rotations events ≤ rotations events' := h.sublist.countP_le

namespace Task

variable {ν κ α β : Type} {f : α → Task ν κ β}

theorem pure_bind {x : α} : (pure x >>= f) = f x := rfl

theorem ite_bind {b : Prop} [Decidable b] {a a' : Task ν κ α} :
    (if b then a else a') >>= f = if b then a >>= f else a' >>= f := by
  split <;> rfl

end Task

namespace Client

variable {ν κ : Type} {c : Client ν κ} {k k' : Working} {w w' : World ν κ} {now : Instant}
  {committed : Option Trust}

/-! ### The stages -/

/-- How a refresh goes: what each of its stages ends with. -/
structure Passage (c : Client ν κ) (now : Instant) (committed : Option Trust) (w : World ν κ)
    (started rooted floored stamped listed ended : Working × World ν κ) : Prop where
  start : c.workingCopy now committed w = (.ok started.1, started.2)
  rotation : c.rotateRoots c.limits.maxRootRotations.toNat started.1 started.2 =
    (.ok rooted.1, rooted.2)
  root_unexpired : rooted.1.trust.checkRootExpiry = .ok ()
  floors : (if rooted.1.cold then c.loadFloors rooted.1 else pure rooted.1) rooted.2 =
    (.ok floored.1, floored.2)
  timestamp : c.updateTimestamp floored.1 floored.2 = (.ok stamped.1, stamped.2)
  snapshot : c.updateSnapshot stamped.1 stamped.2 = (.ok listed.1, listed.2)
  targets : c.updateTargets listed.1 listed.2 = (.ok ended.1, ended.2)
  consistent : ended.1.trust.checkConsistent c.primitives = .ok ()

/-- A refresh is its stages one after another. -/
theorem runRefresh_eq (now : Instant) (committed : Option Trust) : c.runRefresh now committed =
    c.workingCopy now committed >>= fun k =>
      c.rotateRoots c.limits.maxRootRotations.toNat k >>= fun k =>
        Task.ofExcept k.trust.checkRootExpiry >>= fun _ =>
          (if k.cold then c.loadFloors k else pure k) >>= fun k =>
            c.updateTimestamp k >>= fun k => c.updateSnapshot k >>= fun k =>
              c.updateTargets k >>= fun k =>
                Task.ofExcept (k.trust.checkConsistent c.primitives) >>= fun _ => pure k := by
  simp only [runRefresh, updateRootChain, Task.bind_assoc, Task.pure_bind, Task.ite_bind]

/-- A refresh succeeds when each of its stages does after the one before. -/
theorem runRefresh_eq_ok_iff : c.runRefresh now committed w = (.ok k, w') ↔
    ∃ started rooted floored stamped listed,
      Passage c now committed w started rooted floored stamped listed (k, w') := by
  rw [runRefresh_eq]
  constructor
  · intro h
    obtain ⟨k₀, w₀, hstart, h⟩ := Task.bind_eq_ok_iff.1 h
    obtain ⟨k₁, w₁, hrotation, h⟩ := Task.bind_eq_ok_iff.1 h
    obtain ⟨_, _, hcheck, h⟩ := Task.bind_eq_ok_iff.1 h
    obtain ⟨hroot, rfl⟩ := Task.ofExcept_eq_ok_iff.1 hcheck
    obtain ⟨k₂, w₂, hfloors, h⟩ := Task.bind_eq_ok_iff.1 h
    obtain ⟨k₃, w₃, htimestamp, h⟩ := Task.bind_eq_ok_iff.1 h
    obtain ⟨k₄, w₄, hsnapshot, h⟩ := Task.bind_eq_ok_iff.1 h
    obtain ⟨k₅, w₅, htargets, h⟩ := Task.bind_eq_ok_iff.1 h
    obtain ⟨_, _, hcheck', h⟩ := Task.bind_eq_ok_iff.1 h
    obtain ⟨hconsistent, rfl⟩ := Task.ofExcept_eq_ok_iff.1 hcheck'
    cases h
    exact ⟨(k₀, w₀), (k₁, w₁), (k₂, w₂), (k₃, w₃), (k₄, w₄),
      ⟨hstart, hrotation, hroot, hfloors, htimestamp, hsnapshot, htargets, hconsistent⟩⟩
  · rintro ⟨started, rooted, floored, stamped, listed, h⟩
    rw [Task.bind_of_ok h.start, Task.bind_of_ok h.rotation, h.root_unexpired,
      Task.bind_of_ok Task.ofExcept_ok, Task.bind_of_ok h.floors, Task.bind_of_ok h.timestamp,
      Task.bind_of_ok h.snapshot, Task.bind_of_ok h.targets, h.consistent,
      Task.bind_of_ok Task.ofExcept_ok]
    rfl

/-- A refresh that succeeds has passed every stage, and commits what it ended with. -/
theorem passage_of_refresh_ok {s : Session ν κ} (h : (c.refresh now s).1 = .ok ()) :
    ∃ started rooted floored stamped listed ended,
      Passage c now s.committed s.world started rooted floored stamped listed ended ∧
        (c.refresh now s).2.committed = some ended.1.trust ∧
        (c.refresh now s).2.world =
          { ended.2 with events := ended.2.events ++ [.refreshCompleted] } := by
  unfold refresh at h ⊢
  cases hrun : c.runRefresh now s.committed s.world with
  | mk r w' =>
    rw [hrun] at h
    cases r with
    | error e => cases h
    | ok k =>
      obtain ⟨started, rooted, floored, stamped, listed, hpassage⟩ := runRefresh_eq_ok_iff.1 hrun
      exact ⟨started, rooted, floored, stamped, listed, (k, w'), hpassage, rfl, rfl⟩

/-- A refresh that passes every stage and notes no failure to save succeeds. -/
theorem refresh_ok_of_passage {s : Session ν κ}
    {started rooted floored stamped listed ended : Working × World ν κ}
    (h : Passage c now s.committed s.world started rooted floored stamped listed ended)
    (hsaved : ended.1.saveError = none) : c.refresh now s = (.ok (), {
      committed := some ended.1.trust
      world := { ended.2 with events := ended.2.events ++ [.refreshCompleted] } }) := by
  have hrun : c.runRefresh now s.committed s.world = (.ok ended.1, ended.2) :=
    runRefresh_eq_ok_iff.2 ⟨started, rooted, floored, stamped, listed, h⟩
  rw [refresh, hrun]
  simp only [hsaved]

/-! ### What a stage does -/

/-- To report accepted bytes and save them changes events and store, and may note a failure. -/
theorem noteAccepted_world (c : Client ν κ) (role : Role) (version : UInt64) (bs : Bytes)
    (k : Working) (w : World ν κ) : ∃ saveError, c.noteAccepted role version bs k w =
      (.ok { k with saveError }, { w with
        cache := (c.store.save role.name bs w.cache).2
        events := w.events ++ [.accepted role.name version] }) := by
  rw [noteAccepted, Task.bind_of_ok (report_eq _ w), persist]
  obtain ⟨failure, hsave⟩ := c.save_world role.name bs
    { w with events := w.events ++ [.accepted role.name version] }
  rw [Task.bind_of_ok hsave]
  exact ⟨_, rfl⟩

/-- What it takes to retrieve metadata of a role, and to report and save it. -/
theorem retrieve_ok {fetch : Task ν κ (Bytes × Trust)} (role : Role) (version : Trust → UInt64)
    (hfetch : ∀ bs t w', fetch w = (.ok (bs, t), w') → ∃ net, w' = { w with net })
    (h : (fetch >>= fun found =>
      c.noteAccepted role (version found.2) found.1 { k with trust := found.2 }) w =
        (.ok k', w')) :
    ∃ bs w₁, fetch w = (.ok (bs, k'.trust), w₁) ∧
      w'.cache = (c.store.save role.name bs w.cache).2 ∧
      w'.events = w.events ++ [.accepted role.name (version k'.trust)] := by
  obtain ⟨⟨bs, t⟩, w₁, hfound, h⟩ := Task.bind_eq_ok_iff.1 h
  obtain ⟨net, rfl⟩ := hfetch bs t w₁ hfound
  obtain ⟨saveError, hnote⟩ := c.noteAccepted_world role (version t) bs { k with trust := t }
    { w with net }
  cases hnote.symm.trans h
  exact ⟨bs, _, hfound, rfl, rfl⟩

/-- To retrieve metadata, report and save it fails only where the retrieval does. -/
theorem retrieve_error {fetch : Task ν κ (Bytes × Trust)} {role : Role}
    (version : Trust → UInt64) (h : (fetch >>= fun found =>
      c.noteAccepted role (version found.2) found.1 { k with trust := found.2 }) w =
        (.error e, w')) : fetch w = (.error e, w') := by
  cases hfetch : fetch w with
  | mk r w₁ =>
    cases r with
    | ok found =>
      rw [Task.bind_of_ok hfetch] at h
      obtain ⟨saveError, hnote⟩ := c.noteAccepted_world role (version found.2) found.1
        { k with trust := found.2 } w₁
      cases hnote.symm.trans h
    | error _ =>
      rw [Task.bind_of_error hfetch] at h
      cases h
      rfl

theorem updateTimestamp_ok (h : c.updateTimestamp k w = (.ok k', w')) : ∃ bs w₁,
    c.fetchAccepted (metadataFile Role.timestamp.name none) c.limits.timestampSizeCap
        (fun bs t => t.updateTimestamp c.primitives bs .remote) k.trust w =
      (.ok (bs, k'.trust), w₁) ∧
    w'.cache = (c.store.save Role.timestamp.name bs w.cache).2 ∧
    ∃ version, w'.events = w.events ++ [.accepted Role.timestamp.name version] := by
  obtain ⟨bs, w₁, hfetch, hcache, hevents⟩ := retrieve_ok (c := c) (k := k) .timestamp
    (fun t => (t.timestamp.map Verified.version).getD 0)
    (fun _ _ _ hfetch => (fetchAccepted_ok hfetch).2) h
  exact ⟨bs, w₁, hfetch, hcache, _, hevents⟩

/-- What a stage for a pinned role does: nothing where what is held is current, and else it accepts
bytes and saves them. -/
inductive Skips (c : Client ν κ) (role : Role) (accept : Bytes → Trust → Except TrustError Trust)
    (k : Working) (w : World ν κ) : Working → World ν κ → Prop
  | current : Skips c role accept k w k w
  | accepted {k' w' bs version} (haccept : accept bs k.trust = .ok k'.trust)
    (hcache : w'.cache = (c.store.save role.name bs w.cache).2)
    (hevents : w'.events = w.events ++ [.accepted role.name version]) :
    Skips c role accept k w k' w'

/-- What such a stage does to what is trusted is what an acceptance does, or nothing. -/
theorem Skips.trust {role : Role} {accept : Bytes → Trust → Except TrustError Trust}
    {R : Trust → Trust → Prop} (h : Skips c role accept k w k' w') (hrefl : ∀ t, R t t)
    (haccept : ∀ bs t t', accept bs t = .ok t' → R t t') : R k.trust k'.trust := by
  cases h with
  | current => exact hrefl _
  | accepted hok => exact haccept _ _ _ hok

theorem Skips.grows {role : Role} {accept : Bytes → Trust → Except TrustError Trust}
    (h : Skips c role accept k w k' w') : w.events <+: w'.events := by
  cases h with
  | current => exact List.prefix_refl _
  | accepted _ _ hevents => exact hevents ▸ List.prefix_append _ _

/-- Such a stage leaves what the store holds for other roles as it is. -/
theorem Skips.stored {role : Role} {accept : Bytes → Trust → Except TrustError Trust}
    {view : κ → String → Option Bytes} (h : Skips c role accept k w k' w')
    (hstore : c.store.Writable view) {other : Role} (hother : role ≠ other) :
    view w'.cache other.name = view w.cache other.name := by
  cases h with
  | current => rfl
  | @accepted _ _ bs _ _ hcache _ =>
    obtain ⟨cache, hsave, hview⟩ := hstore.save role.name bs w.cache
    rw [hcache, hsave, hview, if_neg fun hname => hother (Role.name_injective hname)]

theorem pass_ok {pinned : PinnedRole} (h : c.pass pinned k w = (.ok k', w')) :
    Skips c pinned.role (pinned.accept c.primitives) k w k' w' := by
  unfold pass at h
  split at h
  · cases h
    exact .current
  · obtain ⟨pin, w₁, hpin, h⟩ := Task.bind_eq_ok_iff.1 h
    obtain ⟨-, rfl⟩ := Task.ofExcept_eq_ok_iff.1 hpin
    obtain ⟨bs, w₁, hfetch, hcache, hevents⟩ := retrieve_ok pinned.role (fun _ => pin.version)
      (fun _ _ _ hfetch => (fetchPinned_ok hfetch).2) h
    exact .accepted (fetchPinned_ok hfetch).1 hcache hevents

/-- A pinned role that is not brought up to date is not saved. -/
theorem pass_error {pinned : PinnedRole} {e : TrustError}
    (h : c.pass pinned k w = (.error e, w')) : w'.cache = w.cache := by
  unfold pass at h
  split at h
  · cases h
  · rcases Task.bind_eq_error_iff.1 h with hpin | ⟨pin, w₁, hpin, h⟩
    · obtain ⟨-, rfl⟩ := Task.ofExcept_eq_error_iff.1 hpin
      rfl
    · obtain ⟨-, rfl⟩ := Task.ofExcept_eq_ok_iff.1 hpin
      obtain ⟨net, rfl⟩ := fetchPinned_error (retrieve_error (fun _ => pin.version) h)
      rfl

theorem updateSnapshot_ok (h : c.updateSnapshot k w = (.ok k', w')) :
    Skips c .snapshot (fun bs t => t.updateSnapshot c.primitives bs .remote) k w k' w' := by
  rw [updateSnapshot_eq_pass] at h
  exact pass_ok h

theorem updateTargets_ok (h : c.updateTargets k w = (.ok k', w')) :
    Skips c .targets (fun bs t => t.updateTargets c.primitives bs .remote) k w k' w' := by
  rw [updateTargets_eq_pass] at h
  exact pass_ok h

theorem loadCached_events {role : String} {held : Option Bytes}
    (h : c.loadCached role w = (.ok held, w')) : w'.events = w.events := by
  unfold loadCached at h
  split at h <;>
  · cases h
    rfl

theorem persist_ok {role : Role} {bs : Bytes} (h : c.persist role bs k w = (.ok k', w')) :
    k'.trust = k.trust ∧ k'.cold = k.cold ∧ w'.events = w.events := by
  obtain ⟨failure, hsave⟩ := c.save_world role.name bs w
  rw [persist, Task.bind_of_ok hsave] at h
  cases h
  exact ⟨rfl, rfl, rfl⟩

/-- Wherever a refresh starts, it judges by its own time, and has reported nothing. -/
theorem workingCopy_ok (h : c.workingCopy now committed w = (.ok k, w')) :
    k.trust.now = now ∧ k.cold = committed.isNone ∧ w'.events = w.events := by
  cases committed with
  | some t =>
    cases h
    exact ⟨rfl, rfl, rfl⟩
  | none =>
    have hinitial : ∀ w₁, c.startFromInitial now w₁ = (.ok k, w') →
        k.trust.now = now ∧ k.cold = true ∧ w'.events = w₁.events := by
      intro w₁ h
      obtain ⟨t, w₂, hload, h⟩ := Task.bind_eq_ok_iff.1 h
      obtain ⟨hroot, rfl⟩ := Task.ofExcept_eq_ok_iff.1 hload
      obtain ⟨m, -, rfl⟩ := Trust.loadRoot_eq_ok_iff.1 hroot
      obtain ⟨htrust, hcold, hevents⟩ := persist_ok h
      exact ⟨by rw [htrust]; rfl, hcold, hevents⟩
    obtain ⟨held, w₁, hload, h⟩ := Task.bind_eq_ok_iff.1 (h : c.startCold now w = (.ok k, w'))
    rw [← loadCached_events hload]
    cases held with
    | none => exact hinitial w₁ h
    | some bs =>
      simp only at h
      cases hroot : (Trust.initial now).loadRoot c.primitives bs with
      | error e =>
        rw [hroot] at h
        exact hinitial w₁ h
      | ok t =>
        rw [hroot] at h
        cases h
        obtain ⟨m, -, rfl⟩ := Trust.loadRoot_eq_ok_iff.1 hroot
        exact ⟨rfl, rfl, rfl⟩

/-- The file of the root that would be next. -/
def nextRootFile (t : Trust) : String := metadataFile Role.root.name (some (nextRootVersion t))

/-- The chain of roots ends where the next root cannot be retrieved. -/
theorem rotateRoots_stop {steps : Nat} {e : TrustError} (hsteps : 0 < steps)
    (h : c.fetchAccepted (nextRootFile k.trust) c.limits.rootSizeCap
      (fun bs t => t.updateRoot c.primitives bs) k.trust w = (.error e, w'))
    (he : e.isTransport = true) : c.rotateRoots steps k w = (.ok k, w') := by
  obtain ⟨n, rfl⟩ := Nat.exists_eq_succ_of_ne_zero (Nat.pos_iff_ne_zero.1 hsteps)
  unfold nextRootFile at h
  simp only [rotateRoots, h, he, if_true]

/-- What following the chain of roots comes to. -/
structure Rotated (c : Client ν κ) (steps : Nat) (k : Working) (w : World ν κ) (k' : Working)
    (w' : World ν κ) : Prop where
  now : k'.trust.now = k.trust.now
  cold : k'.cold = k.cold
  grows : w.events <+: w'.events
  /-- It ends after as many rotations as are allowed, or for want of a next root. -/
  ended : rotations w.events + steps ≤ rotations w'.events ∨ ∃ w₁ w₂ e,
    c.fetchAccepted (nextRootFile k'.trust) c.limits.rootSizeCap
      (fun bs t => t.updateRoot c.primitives bs) k'.trust w₁ = (.error e, w₂) ∧
      e.isTransport = true

theorem rotateRoots_ok (steps : Nat) (h : c.rotateRoots steps k w = (.ok k', w')) :
    Rotated c steps k w k' w' := by
  induction steps generalizing k w with
  | zero =>
    cases h
    exact ⟨rfl, rfl, List.prefix_refl _, .inl (Nat.le_refl _)⟩
  | succ steps ih =>
    simp only [rotateRoots] at h
    split at h
    · rename_i e w₁ hfetch
      obtain ⟨net, rfl⟩ := fetchAccepted_error hfetch
      split at h
      · rename_i htransport
        cases h
        exact ⟨rfl, rfl, List.prefix_refl _, .inr ⟨w, _, e, hfetch, htransport⟩⟩
      · cases h
    · rename_i bs t w₁ hfetch
      obtain ⟨haccept, net, rfl⟩ := fetchAccepted_ok hfetch
      obtain ⟨k₁, w₂, hpersist, h⟩ := Task.bind_eq_ok_iff.1 h
      rw [Task.bind_of_ok (report_eq _ _), Task.bind_of_ok (report_eq _ _)] at hpersist
      obtain ⟨htrust, hcold, hevents⟩ := persist_ok hpersist
      have hrest := ih h
      rw [List.append_assoc] at hevents
      refine ⟨?_, hrest.cold.trans hcold, ?_, hrest.ended.imp_left fun hmost => ?_⟩
      · obtain ⟨held, m, -, rfl⟩ := Trust.updateRoot_eq_ok_iff.1 haccept
        rw [hrest.now, htrust]
        exact Trust.now_forgetRotated
      · exact (List.prefix_append _ _).trans (hevents ▸ hrest.grows)
      · rw [hevents, rotations_append] at hmost
        have hone : rotations ([.accepted Role.root.name (nextRootVersion k.trust)] ++
          [.rotated (nextRootVersion k.trust)]) = 1 := rfl
        dsimp only at hmost
        omega

/-- A cached floor that is accepted leaves the root alone. -/
theorem loadFloor_ok {role : Role} {accept : Bytes → Trust → Except TrustError Trust}
    (haccept : ∀ bs t t', accept bs t = .ok t' → Trust.SameRoot t t')
    (h : c.loadFloor role accept k w = (.ok k', w')) :
    Trust.SameRoot k.trust k'.trust ∧ w'.events = w.events := by
  obtain ⟨held, w₁, hload, h⟩ := Task.bind_eq_ok_iff.1 h
  rw [← loadCached_events hload]
  cases held with
  | none =>
    cases h
    exact ⟨.refl _, rfl⟩
  | some bs =>
    simp only at h
    cases hoffer : accept bs k.trust with
    | ok t =>
      rw [hoffer] at h
      cases h
      exact ⟨haccept bs _ t hoffer, rfl⟩
    | error e =>
      rw [hoffer] at h
      cases h
      exact ⟨.refl _, rfl⟩

theorem loadFloors_ok (h : c.loadFloors k w = (.ok k', w')) :
    Trust.SameRoot k.trust k'.trust ∧ w'.events = w.events := by
  obtain ⟨k₁, w₁, htimestamp, h⟩ := Task.bind_eq_ok_iff.1 h
  obtain ⟨k₂, w₂, hsnapshot, htargets⟩ := Task.bind_eq_ok_iff.1 h
  obtain ⟨hroot₁, hevents₁⟩ := loadFloor_ok (fun _ _ _ => .of_timestamp) htimestamp
  obtain ⟨hroot₂, hevents₂⟩ := loadFloor_ok (fun _ _ _ => .of_snapshot) hsnapshot
  obtain ⟨hroot₃, hevents₃⟩ := loadFloor_ok (fun _ _ _ => .of_targets) htargets
  exact ⟨(hroot₁.trans hroot₂).trans hroot₃, hevents₃.trans (hevents₂.trans hevents₁)⟩

namespace Passage

variable {started rooted floored stamped listed ended : Working × World ν κ}

/-! ### What a passage keeps -/

theorem floors_ok (h : Passage c now committed w started rooted floored stamped listed ended) :
    Trust.SameRoot rooted.1.trust floored.1.trust ∧ floored.2.events = rooted.2.events := by
  have hfloors := h.floors
  split at hfloors
  · exact loadFloors_ok hfloors
  · obtain ⟨hk, hw⟩ := Prod.mk.inj hfloors
    rw [← Except.ok.inj hk, ← hw]
    exact ⟨.refl _, rfl⟩

variable (h : Passage c now committed w started rooted floored stamped listed ended)
include h

/-- Trust is judged by the time of the refresh, and once the chain of roots is followed the root
does not change any more. -/
theorem sameRoot : rooted.1.trust.now = now ∧ Trust.SameRoot rooted.1.trust floored.1.trust ∧
    Trust.SameRoot floored.1.trust ended.1.trust := by
  obtain ⟨hnow, -, -⟩ := workingCopy_ok h.start
  obtain ⟨bs, w₁, hfetch, -, -⟩ := updateTimestamp_ok h.timestamp
  refine ⟨(rotateRoots_ok _ h.rotation).now.trans hnow, h.floors_ok.1, ?_⟩
  refine (Trust.SameRoot.of_timestamp (fetchAccepted_ok hfetch).1).trans ?_
  refine ((updateSnapshot_ok h.snapshot).trust (R := Trust.SameRoot) .refl
    fun _ _ _ => .of_snapshot).trans ?_
  exact (updateTargets_ok h.targets).trust .refl fun _ _ _ => .of_targets

/-- The timestamp that is held in the end was retrieved and accepted by this refresh. -/
theorem timestamp_ok : ∃ bs root m w₁,
    c.fetchAccepted (metadataFile Role.timestamp.name none) c.limits.timestampSizeCap
        (fun bs t => t.updateTimestamp c.primitives bs .remote) floored.1.trust floored.2 =
      (.ok (bs, stamped.1.trust), w₁) ∧
    Trust.NextTimestamp c.primitives floored.1.trust bs .remote root m ∧
    ended.1.trust.timestamp = some ⟨m, bs⟩ ∧
    stamped.2.cache = (c.store.save Role.timestamp.name bs floored.2.cache).2 := by
  obtain ⟨bs, w₁, hfetch, hcache, -⟩ := updateTimestamp_ok h.timestamp
  obtain ⟨root, m, hm, hstamped⟩ := Trust.updateTimestamp_eq_ok_iff.1 (fetchAccepted_ok hfetch).1
  have hlisted : listed.1.trust.timestamp = stamped.1.trust.timestamp := by
    refine (updateSnapshot_ok h.snapshot).trust (R := fun t t' => t'.timestamp = t.timestamp)
      (fun _ => rfl) fun _ _ _ haccept => ?_
    obtain ⟨root, timestamp, m, -, rfl⟩ := Trust.updateSnapshot_eq_ok_iff.1 haccept
    rfl
  have hended : ended.1.trust.timestamp = listed.1.trust.timestamp := by
    refine (updateTargets_ok h.targets).trust (R := fun t t' => t'.timestamp = t.timestamp)
      (fun _ => rfl) fun _ _ _ haccept => ?_
    obtain ⟨root, snapshot, m, -, rfl⟩ := Trust.updateTargets_eq_ok_iff.1 haccept
    rfl
  refine ⟨bs, root, m, w₁, hfetch, hm, ?_, hcache⟩
  rw [hended, hlisted, hstamped]

theorem grows_below : rooted.2.events <+: ended.2.events := by
  obtain ⟨bs, w₁, -, -, version, hstamped⟩ := updateTimestamp_ok h.timestamp
  rw [← h.floors_ok.2]
  refine List.IsPrefix.trans ?_
    ((updateSnapshot_ok h.snapshot).grows.trans (updateTargets_ok h.targets).grows)
  exact hstamped ▸ List.prefix_append _ _

theorem grows : w.events <+: ended.2.events := by
  obtain ⟨-, -, hstart⟩ := workingCopy_ok h.start
  exact hstart ▸ (rotateRoots_ok _ h.rotation).grows.trans h.grows_below

/-- The chain of roots ends after as many rotations as are allowed, or for want of a next root. -/
theorem rotation_ended : rotations w.events + c.limits.maxRootRotations.toNat ≤
      rotations ended.2.events ∨ ∃ w₁ w₂ e,
    c.fetchAccepted (nextRootFile rooted.1.trust) c.limits.rootSizeCap
      (fun bs t => t.updateRoot c.primitives bs) rooted.1.trust w₁ = (.error e, w₂) ∧
      e.isTransport = true := by
  obtain ⟨-, -, hstart⟩ := workingCopy_ok h.start
  refine (rotateRoots_ok _ h.rotation).ended.imp_left fun hmost => ?_
  rw [hstart] at hmost
  exact Nat.le_trans hmost (rotations_le h.grows_below)

end Passage

end Client

end SecureUpdate
