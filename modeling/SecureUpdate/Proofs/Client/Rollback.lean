import SecureUpdate.Proofs.Client.Floors

/-!
Protection against rollback through failures and restarts. Refreshes succeed or fail at any step,
and a restart keeps nothing but the local store. While the root stays the initial one, no refresh
that succeeds commits a timestamp or a snapshot of a lower version than an earlier one committed.
The same holds of the top-level targets as long as no cold refresh finds in the store a snapshot
that the stored timestamp does not pin; a refresh that failed between the two leaves such a store.

Main statement: `refresh_ok_ascends`.
-/

namespace SecureUpdate.Client

variable {ν κ : Type} {c : Client ν κ} {view : κ → String → Option Bytes} {now : Instant}
  {committed : Option Trust} {w : World ν κ} {rooted stamped ended : Spot ν κ} {α : Type}
  [RolePayload α] {r : Rung c.primitives α} {m : Signed α}

/-! ### One refresh -/

section Refresh

variable {s s' : Spot ν κ}

/-- Whether nothing has changed below the root, neither what is trusted nor what is stored. -/
structure Unturned (c : Client ν κ) (view : κ → String → Option Bytes) (s s' : Spot ν κ) :
    Prop where
  held : ∀ {α : Type} [RolePayload α] (r : Rung c.primitives α), r.held s'.1 = r.held s.1
  stored : ∀ role : Role, role ≠ .root → view s'.2.cache role.name = view s.2.cache role.name

theorem Unturned.floor (h : Unturned c view s s') (hm : Stored c view r m s.2) :
    Stored c view r m s'.2 :=
  hm.of_view_eq (h.stored r.role r.below_root)

/-- Along the chain of roots only the initial root is accepted, as long as there is no rotation. -/
theorem Steady.rooting (hsteady : Steady c view s)
    (hmoves : Moves c.primitives view
      (fun offer => Rooting c (view s.2.cache) offer ∧ ∀ bs, offer ≠ .root bs) s s') :
    Steady c view s' ∧ Unturned c view s s' := by
  -- only the initial root is offered, be it from the store
  have honly : ∀ offer, (Rooting c (view s.2.cache) offer ∧ ∀ bs, offer ≠ .root bs) →
      offer = .firstRoot c.initialRoot := by
    rintro offer ⟨hoffer, hnext⟩
    cases offer with
    | firstRoot bs =>
      rcases hoffer with rfl | hheld
      · rfl
      · rw [hsteady.root_stored bs hheld]
    | root bs => exact absurd rfl (hnext bs)
    | _ => exact hoffer.elim
  constructor
  · refine hsteady.moves (fun offer hoffer => ?_) hmoves
    rw [honly offer hoffer]
    rfl
  · refine hmoves.induction (I := Unturned c view s) ?_ ⟨fun _ => rfl, fun _ _ => rfl⟩
    intro s₁ s₂ h hmove
    rcases hmove.idle_or_accepts with ⟨htrust, hview⟩ | ⟨offer, role, bs, hoffer, haccepts⟩
    · refine ⟨fun r => ?_, fun role hrole => ?_⟩
      · rw [htrust]
        exact h.held r
      · rw [hview]
        exact h.stored role hrole
    · have hsubject := haccepts.subject
      rw [honly offer hoffer] at hsubject
      cases hsubject
      refine ⟨fun r => ?_, fun role hrole => ?_⟩
      · rw [r.kept hoffer.2 haccepts.subject r.below_root.symm haccepts.accepted]
        exact h.held r
      · exact (haccepts.others role hrole.symm).trans (h.stored role hrole)

/-- Whether a floor under what the store holds is one for a cold refresh once it has loaded that. -/
def Reloads (c : Client ν κ) (view : κ → String → Option Bytes) (r : Rung c.primitives α)
    (m : Signed α) (w : World ν κ) : Prop :=
  ∀ now rooted, Steady c view rooted → Unturned c view ((start now none).trust, w) rooted →
    Above c view r m (floored c view none rooted)

theorem reloads_timestamp {m : Signed Timestamp} (hm : Stored c view .timestamp m w) :
    Reloads c view .timestamp m w :=
  fun _ _ hrooted hunturned =>
    above_timestamp_floored hrooted (hunturned.held .timestamp) (hunturned.floor hm)

/-- The stored snapshot is a floor for a cold refresh if the stored timestamp pins it. -/
theorem reloads_snapshot {m : Signed Snapshot} {stamp : Signed Timestamp}
    (hstamp : Stored c view .timestamp stamp w) (hm : Stored c view .snapshot m w)
    (hlinked : Linked c.primitives (view w.cache)) : Reloads c view .snapshot m w := by
  intro now rooted hrooted hunturned
  refine above_snapshot_floored hrooted (hunturned.held .timestamp) (hunturned.held .snapshot)
    (hunturned.floor hstamp) (hunturned.floor hm) ?_
  rw [Linked, hunturned.stored .timestamp (by decide), hunturned.stored .snapshot (by decide)]
  exact hlinked

section Course

variable (hcourse : Course c view now committed w rooted stamped ended)
  (hnone : ∀ version, .rotated version ∉ ended.2.events)
  (hsteady : Steady c view ((start now committed).trust, w))
include hcourse hnone hsteady

theorem steady_rooted :
    Steady c view rooted ∧ Unturned c view ((start now committed).trust, w) rooted := by
  have hrest : Moves c.primitives view (fun _ => True) rooted ended :=
    ((floored_moves committed rooted).mono fun _ _ => trivial).trans
      ((hcourse.stamping.mono fun _ _ => trivial).trans (hcourse.ending.mono fun _ _ => trivial))
  refine hsteady.rooting (hcourse.rooting.without_rotation fun version hmem => ?_)
  exact hnone version (hrest.events_grow.subset hmem)

theorem steady_floored : Steady c view (floored c view committed rooted) := by
  refine (steady_rooted hcourse hnone hsteady).1.moves ?_ (floored_moves committed rooted)
  rintro offer ⟨role, bs, hrole, rfl⟩
  cases role with
  | root => exact absurd rfl hrole
  | _ => exact trivial

theorem steady_ended : Steady c view ended :=
  ((steady_floored hcourse hnone hsteady).moves (fun _ => staying_of_advancing)
    hcourse.stamping).moves (fun _ => staying_of_advancing) hcourse.ending

/-- A floor under what the store holds, and under what is committed if anything is, lasts. -/
theorem above_ended (hm : Stored c view r m w)
    (hwarm : ∀ t, committed = some t → ∃ v, r.held t = some v ∧ r.le m v.metadata)
    (hcold : committed = none → Reloads c view r m w) : Above c view r m ended := by
  obtain ⟨hrooted, hunturned⟩ := steady_rooted hcourse hnone hsteady
  have hfloored : Above c view r m (floored c view committed rooted) := by
    cases committed with
    | none => exact hcold rfl now rooted hrooted hunturned
    | some t =>
      obtain ⟨v, hv, hle⟩ := hwarm t rfl
      have hheld : r.held rooted.1 = some v :=
        (hunturned.held r).trans ((r.held_clock t now).trans hv)
      exact ⟨hunturned.floor hm, .inr ⟨v, hheld, hle⟩⟩
  have hsteady := steady_floored hcourse hnone hsteady
  exact (hfloored.moves hsteady hcourse.stamping).moves
    (hsteady.moves (fun _ => staying_of_advancing) hcourse.stamping) hcourse.ending

end Course

end Refresh

/-! ### Episodes -/

variable {s : Session ν κ}

/-- An episode in the life of a client: a refresh at some time, or a restart. -/
inductive Episode where
  | refresh (now : Instant)
  | restart

/-- The session after an episode. A restart keeps nothing but the world. -/
def live (c : Client ν κ) (s : Session ν κ) : Episode → Session ν κ
  | .refresh now => (c.refresh now s).2
  | .restart => { s with committed := none }

/-- The session after some episodes. -/
def liveAll (c : Client ν κ) (s : Session ν κ) (episodes : List Episode) : Session ν κ :=
  episodes.foldl c.live s

/-- The version of the root that an event reports the move to. -/
def rotation? : Event → Option UInt64
  | .rotated version => some version
  | _ => none

/-- Whether no newer root was ever accepted. -/
def Unrotated (s : Session ν κ) : Prop := ∀ version, .rotated version ∉ s.world.events

instance : Decidable (Unrotated s) :=
  decidable_of_iff (∀ event ∈ s.world.events, rotation? event = none) <| by
    constructor
    · intro h version hmem
      cases h _ hmem
    · intro h event hmem
      cases event with
      | rotated version => exact absurd hmem (h version)
      | _ => rfl

/-- Whether every cold refresh among some episodes finds in the store the snapshot that the stored
timestamp pins. -/
def LinkedStarts (c : Client ν κ) (view : κ → String → Option Bytes) :
    Session ν κ → List Episode → Prop
  | _, [] => True
  | s, .refresh now :: rest =>
    (s.committed = none → Linked c.primitives (view s.world.cache)) ∧
      LinkedStarts c view (c.refresh now s).2 rest
  | s, .restart :: rest => LinkedStarts c view { s with committed := none } rest

instance LinkedStarts.decide : (s : Session ν κ) → (episodes : List Episode) →
    Decidable (LinkedStarts c view s episodes)
  | _, [] => .isTrue trivial
  | s, .refresh now :: rest =>
    have := LinkedStarts.decide (c.refresh now s).2 rest
    inferInstanceAs (Decidable ((s.committed = none → Linked c.primitives (view s.world.cache)) ∧
      LinkedStarts c view (c.refresh now s).2 rest))
  | s, .restart :: rest => LinkedStarts.decide { s with committed := none } rest

/-- What holds between episodes while the root stays the initial one. -/
def Settled (c : Client ν κ) (view : κ → String → Option Bytes) (s : Session ν κ) : Prop :=
  ∀ now, Steady c view ((start now s.committed).trust, s.world)

/-- A floor under what the store holds for a role, and under what is committed if anything is. -/
structure Kept (c : Client ν κ) (view : κ → String → Option Bytes) (r : Rung c.primitives α)
    (m : Signed α) (s : Session ν κ) : Prop where
  stored : Stored c view r m s.world
  committed : ∀ t, s.committed = some t → ∃ v, r.held t = some v ∧ r.le m v.metadata

section Episodes

variable {episodes : List Episode}

/-- With nothing committed, all that matters is that the store holds no root but the initial one. -/
theorem settled_of_none
    (hroot : ∀ bs, view w.cache Role.root.name = some bs → bs = c.initialRoot) :
    Settled c view ⟨none, w⟩ := by
  refine fun now => ⟨hroot, .inl rfl, fun r v hv => ?_⟩
  cases (r.held_initial now).symm.trans hv

theorem Settled.restart (h : Settled c view s) : Settled c view { s with committed := none } :=
  settled_of_none (h default).root_stored

theorem Kept.restart (h : Kept c view r m s) : Kept c view r m { s with committed := none } := by
  refine ⟨h.stored, ?_⟩
  rintro _ ⟨⟩

variable (hstore : c.store.Reliable view)
include hstore

/-- The log of events only grows. -/
theorem live_grows (s : Session ν κ) (episode : Episode) :
    s.world.events <+: (c.live s episode).world.events := by
  cases episode with
  | restart => exact List.prefix_refl _
  | refresh now =>
    obtain ⟨_, _, _, hcourse, _, hevents, _⟩ := refresh_course hstore now s
    exact hcourse.moves.events_grow.trans hevents

theorem Unrotated.before (h : Unrotated (c.liveAll s episodes)) : Unrotated s := by
  suffices hgrow : s.world.events <+: (c.liveAll s episodes).world.events from
    fun version hmem => h version (hgrow.subset hmem)
  induction episodes generalizing s with
  | nil => exact List.prefix_refl _
  | cons episode episodes ih => exact (live_grows hstore s episode).trans (ih h)

/-- The course of a refresh that accepts no newer root. What it commits, if anything, has a root. -/
theorem unrotated_course (hunrotated : Unrotated (c.refresh now s).2) : ∃ rooted stamped ended,
    Course c view now s.committed s.world rooted stamped ended ∧
      (∀ version, .rotated version ∉ ended.2.events) ∧
      (c.refresh now s).2.world.cache = ended.2.cache ∧
      ((c.refresh now s).2.committed = s.committed ∨
        ((c.refresh now s).2.committed = some ended.1 ∧ ended.1.root ≠ none)) := by
  obtain ⟨rooted, stamped, ended, hcourse, hcache, hevents, hend⟩ := refresh_course hstore now s
  refine ⟨rooted, stamped, ended, hcourse, fun version hmem => ?_, hcache, ?_⟩
  · exact hunrotated version (hevents.subset hmem)
  · rcases hend with ⟨e, -, hcommitted⟩ | ⟨-, hcommitted, k, hk⟩
    · exact .inl hcommitted
    · obtain ⟨root, _, _, _, hchain⟩ := Trust.checkConsistent_eq_ok_iff.1 hk.consistent
      exact .inr ⟨hcommitted, by simp [hchain.root_held]⟩

theorem Kept.refresh (hsettled : Settled c view s) (h : Kept c view r m s)
    (hcold : s.committed = none → Reloads c view r m s.world)
    (hunrotated : Unrotated (c.refresh now s).2) : Kept c view r m (c.refresh now s).2 := by
  obtain ⟨rooted, stamped, ended, hcourse, hnone, hcache, hend⟩ :=
    unrotated_course hstore hunrotated
  have hfloor := above_ended hcourse hnone (hsettled now) h.stored h.committed hcold
  refine ⟨hfloor.stored.of_view_eq (by rw [hcache]), fun t ht => ?_⟩
  rcases hend with hcommitted | ⟨hcommitted, hroot⟩
  · exact h.committed t (hcommitted.symm.trans ht)
  · cases hcommitted.symm.trans ht
    exact hfloor.trusted.resolve_left hroot

theorem Settled.refresh (h : Settled c view s) (hunrotated : Unrotated (c.refresh now s).2) :
    Settled c view (c.refresh now s).2 := by
  obtain ⟨rooted, stamped, ended, hcourse, hnone, hcache, hend⟩ :=
    unrotated_course hstore hunrotated
  have hended : Steady c view ended := steady_ended hcourse hnone (h now)
  intro later
  refine ⟨by rw [hcache]; exact hended.root_stored, ?_, fun r v hv => ?_⟩
  · rcases hend with hcommitted | ⟨hcommitted, -⟩
    · rw [hcommitted]
      exact (h later).rooted
    · rw [hcommitted]
      exact hended.rooted
  · rcases hend with hcommitted | ⟨hcommitted, -⟩
    · -- what is committed is what it was, and a floor under what the store holds now
      rw [hcommitted] at hv
      have hkept : Kept c view r v.metadata s := by
        refine ⟨(h later).matched r v hv, fun t ht => ⟨v, ?_, r.le_refl _⟩⟩
        rw [ht] at hv
        exact (r.held_clock t later).symm.trans hv
      refine (hkept.refresh hstore h (fun hcold => ?_) hunrotated).stored
      rw [hcold] at hv
      cases (r.held_initial later).symm.trans hv
    · rw [hcommitted] at hv
      have hheld : r.held ended.1 = some v := (r.held_clock _ later).symm.trans hv
      exact (hended.matched r v hheld).of_view_eq (by rw [hcache])

theorem Settled.liveAll (h : Settled c view s)
    (hunrotated : Unrotated (c.liveAll s episodes)) : Settled c view (c.liveAll s episodes) := by
  induction episodes generalizing s with
  | nil => exact h
  | cons episode episodes ih =>
    have hafter : Unrotated (c.live s episode) := hunrotated.before hstore
    cases episode with
    | refresh now => exact ih (h.refresh hstore hafter) hunrotated
    | restart => exact ih h.restart hunrotated

/-- Floors last through any episodes without a rotation, though the one under what the snapshot
lists only if every cold refresh finds the stored snapshot pinned. -/
theorem kept_of_liveAll {stamp : Signed Timestamp} (hsettled : Settled c view s)
    (hstamp : Kept c view .timestamp stamp s) (hunrotated : Unrotated (c.liveAll s episodes)) :
    Kept c view .timestamp stamp (c.liveAll s episodes) ∧
      ∀ list, Kept c view .snapshot list s → LinkedStarts c view s episodes →
        Kept c view .snapshot list (c.liveAll s episodes) := by
  induction episodes generalizing s with
  | nil => exact ⟨hstamp, fun list hlist _ => hlist⟩
  | cons episode episodes ih =>
    have hafter : Unrotated (c.live s episode) := hunrotated.before hstore
    cases episode with
    | restart =>
      obtain ⟨hstamp', hlist'⟩ := ih hsettled.restart hstamp.restart hunrotated
      exact ⟨hstamp', fun list hlist hlinked => hlist' list hlist.restart hlinked⟩
    | refresh now =>
      have hstamp₁ := hstamp.refresh hstore hsettled
        (fun _ => reloads_timestamp hstamp.stored) hafter
      obtain ⟨hstamp', hlist'⟩ := ih (hsettled.refresh hstore hafter) hstamp₁ hunrotated
      refine ⟨hstamp', fun list hlist hlinked => hlist' list ?_ hlinked.2⟩
      refine hlist.refresh hstore hsettled (fun hcold => ?_) hafter
      exact reloads_snapshot hstamp.stored hlist.stored (hlinked.1 hcold)

end Episodes

/-! ### Versions -/

/-- The version that is trusted for a role. -/
def trustedVersion (t : Trust) : Role → Option UInt64
  | .root => t.root.map (·.version)
  | .timestamp => t.timestamp.map (·.version)
  | .snapshot => t.snapshot.map (·.version)
  | .targets => t.targets.map (·.version)

/-- The version that a session has committed for a role. -/
def committedVersion (s : Session ν κ) (role : Role) : Option UInt64 :=
  s.committed.bind fun t => trustedVersion t role

section Consistent

variable {p : Primitives} {t t' : Trust} {root root' : Verified Root}
  {timestamp timestamp' : Verified Timestamp} {snapshot snapshot' : Verified Snapshot}
  {targets targets' : Verified Targets}
  (h : Trust.Consistent p t root timestamp snapshot targets)
  (h' : Trust.Consistent p t' root' timestamp' snapshot' targets')
include h h'

/-- In a complete chain the timestamp says what the version of the snapshot is. -/
theorem snapshot_version_le (hle : StampLe timestamp.metadata timestamp'.metadata) :
    snapshot.version ≤ snapshot'.version := by
  obtain ⟨pin, hpin, hcurrent⟩ := h.snapshot_current
  obtain ⟨pin', hpin', hcurrent'⟩ := h'.snapshot_current
  obtain ⟨new, hnew, hle⟩ := hle.pin_le pin hpin
  cases hnew.symm.trans hpin'
  rw [hcurrent.described.version_eq, hcurrent'.described.version_eq]
  exact hle

/-- In a complete chain the snapshot says what the version of the targets is. -/
theorem targets_version_le (hle : ListLe snapshot.metadata snapshot'.metadata) :
    targets.version ≤ targets'.version := by
  have hlisted {t : Trust} {root : Verified Root} {timestamp : Verified Timestamp}
      {snapshot : Verified Snapshot} {targets : Verified Targets}
      (h : Trust.Consistent p t root timestamp snapshot targets) :
      targets.version = listedTargets snapshot.metadata := by
    obtain ⟨pin, hpin, hcurrent⟩ := h.targets_current
    have hpin : snapshot.metadata.payload.pins.get? (Role.fileOf Role.targets.name) = some pin :=
      hpin
    rw [hcurrent.described.version_eq, listedTargets, Pin.listed, hpin]
    rfl
  rw [hlisted h, hlisted h']
  exact hle

/-- No version falls from one complete chain to another whose timestamp and snapshot are not below
those of the first. -/
theorem trustedVersion_le (hroot : root.version ≤ root'.version)
    (hstamp : StampLe timestamp.metadata timestamp'.metadata) (role : Role)
    (hlist : role = .targets → ListLe snapshot.metadata snapshot'.metadata) :
    ∃ v v', trustedVersion t role = some v ∧ trustedVersion t' role = some v' ∧ v ≤ v' := by
  cases role with
  | root =>
    exact ⟨root.version, root'.version, by simp [trustedVersion, h.root_held],
      by simp [trustedVersion, h'.root_held], hroot⟩
  | timestamp =>
    exact ⟨timestamp.version, timestamp'.version, by simp [trustedVersion, h.timestamp_held],
      by simp [trustedVersion, h'.timestamp_held], hstamp.version_le⟩
  | snapshot =>
    exact ⟨snapshot.version, snapshot'.version, by simp [trustedVersion, h.snapshot_held],
      by simp [trustedVersion, h'.snapshot_held], snapshot_version_le h h' hstamp⟩
  | targets =>
    exact ⟨targets.version, targets'.version, by simp [trustedVersion, h.targets_held],
      by simp [trustedVersion, h'.targets_held], targets_version_le h h' (hlist rfl)⟩

end Consistent

/-! ### Two refreshes that succeed -/

section Whole

variable (hstore : c.store.Reliable view)
include hstore

/-- A refresh that succeeds commits a complete chain. -/
theorem refresh_ok_commits (hok : (c.refresh now s).1 = .ok ()) :
    ∃ t root timestamp snapshot targets, (c.refresh now s).2.committed = some t ∧
      Trust.Consistent c.primitives t root timestamp snapshot targets := by
  obtain ⟨_, _, ended, _, _, _, ⟨e, he, -⟩ | ⟨-, hcommitted, k, hk⟩⟩ :=
    refresh_course hstore now s
  · rw [hok] at he
    cases he
  · obtain ⟨root, timestamp, snapshot, targets, hchain⟩ :=
      Trust.checkConsistent_eq_ok_iff.1 hk.consistent
    exact ⟨ended.1, root, timestamp, snapshot, targets, hcommitted, hchain⟩

omit hstore in
/-- What is committed between episodes is a floor, and its root is the initial one. -/
theorem Settled.floors (hsettled : Settled c view s) {t : Trust} {root : Verified Root}
    {timestamp : Verified Timestamp} {snapshot : Verified Snapshot} {targets : Verified Targets}
    (ht : s.committed = some t)
    (h : Trust.Consistent c.primitives t root timestamp snapshot targets) :
    Rooted c t ∧ Kept c view .timestamp timestamp.metadata s ∧
      Kept c view .snapshot snapshot.metadata s := by
  have hsteady := hsettled default
  rw [ht] at hsteady
  refine ⟨hsteady.rooted_of_held h.root_held,
    ⟨hsteady.matched .timestamp timestamp h.timestamp_held, ?_⟩,
    ⟨hsteady.matched .snapshot snapshot h.snapshot_held, ?_⟩⟩
  · intro t' ht'
    cases ht.symm.trans ht'
    exact ⟨timestamp, h.timestamp_held, .refl _⟩
  · intro t' ht'
    cases ht.symm.trans ht'
    exact ⟨snapshot, h.snapshot_held, UInt64.le_refl _⟩

omit hstore in
/-- Under the initial root there is one version of the root only. -/
theorem root_eq_of_rooted {t t' : Trust} {root root' : Verified Root} (h : Rooted c t)
    (h' : Rooted c t') (hroot : t.root = some root) (hroot' : t'.root = some root') :
    root = root' := by
  obtain ⟨initial, hparse, hheld, -⟩ := h
  obtain ⟨initial', hparse', hheld', -⟩ := h'
  cases hparse.symm.trans hparse'
  exact Option.some.inj (hroot.symm.trans (hheld.trans (hheld'.symm.trans hroot')))

/-- From a start with nothing committed, over a store that never fails and that holds no root but
the initial one: take two refreshes that succeed, before and between them any refreshes, failed or
not, and any restarts, and say that no newer root was ever accepted. Then no version that the second
one commits is lower than the one that the first one committed, for the targets if each cold refresh
from the first one on finds in the store the snapshot that the stored timestamp pins. -/
theorem refresh_ok_ascends
    (hroot : ∀ bs, view w.cache Role.root.name = some bs → bs = c.initialRoot)
    (before between : List Episode) (now now' : Instant) :
    let first := c.refresh now (c.liveAll ⟨none, w⟩ before)
    let second := c.refresh now' (c.liveAll first.2 between)
    first.1 = .ok () → second.1 = .ok () → Unrotated second.2 →
      ∀ role, (role = .targets → LinkedStarts c view first.2 (between ++ [.refresh now'])) →
        ∃ v v', committedVersion first.2 role = some v ∧
          committedVersion second.2 role = some v' ∧ v ≤ v' := by
  intro first second hfirst hsecond hunrotated role hlinked
  have hend : second.2 = c.liveAll first.2 (between ++ [.refresh now']) := by
    rw [liveAll, List.foldl_append]
    rfl
  rw [hend] at hunrotated
  have hunrotated₁ : Unrotated first.2 := hunrotated.before hstore
  have hunrotated₀ : Unrotated (c.liveAll ⟨none, w⟩ before) := by
    have honce : first.2 = c.liveAll (c.liveAll ⟨none, w⟩ before) [.refresh now] := rfl
    rw [honce] at hunrotated₁
    exact hunrotated₁.before hstore
  have hsettled : Settled c view first.2 :=
    ((settled_of_none hroot).liveAll hstore hunrotated₀).refresh hstore hunrotated₁
  have hsettled' : Settled c view second.2 := by
    rw [hend]
    exact hsettled.liveAll hstore hunrotated
  obtain ⟨t, root, timestamp, snapshot, targets, ht, h⟩ := refresh_ok_commits hstore hfirst
  obtain ⟨t', root', timestamp', snapshot', targets', ht', h'⟩ := refresh_ok_commits hstore hsecond
  -- what the first one committed is a floor under what the second one committed
  obtain ⟨hrooted, hstamp, hlist⟩ := hsettled.floors ht h
  obtain ⟨hrooted', -, -⟩ := hsettled'.floors ht' h'
  obtain ⟨hstamp', hlist'⟩ := kept_of_liveAll hstore hsettled hstamp hunrotated
  rw [← hend] at hstamp' hlist'
  have hroot : root.version ≤ root'.version := by
    rw [root_eq_of_rooted hrooted hrooted' h.root_held h'.root_held]
    exact UInt64.le_refl _
  rw [committedVersion, committedVersion, ht, ht']
  refine trustedVersion_le h h' hroot ?_ role fun hrole => ?_
  · obtain ⟨v, hv, hle⟩ := hstamp'.committed t' ht'
    cases hv.symm.trans h'.timestamp_held
    exact hle
  · obtain ⟨v, hv, hle⟩ := (hlist' _ hlist (hlinked hrole)).committed t' ht'
    cases hv.symm.trans h'.snapshot_held
    exact hle

end Whole

open Sample in
/-- The small repository at its first release, then after a restart at its second. -/
theorem refresh_ok_ascends_restarted :
    let net : List Reply := [missing, .body (timestamp 1 1), .body (snapshot 1 1),
      .body (targets 1), missing, .body (timestamp 2 2), .body (snapshot 2 2), .body (targets 2)]
    let first := (scripted root).refresh Sample.now ⟨none, world net⟩
    let second := (scripted root).refresh Sample.now ((scripted root).liveAll first.2 [.restart])
    ∃ v v', committedVersion first.2 .targets = some v ∧
      committedVersion second.2 .targets = some v' ∧ v ≤ v' := by
  intro net first second
  have hlinked : LinkedStarts (scripted root) SortedMap.get? first.2
      [.restart, .refresh Sample.now] := by
    decide +kernel
  have hunrotated : Unrotated second.2 := by decide +kernel
  have hempty : ∀ bs, (world net).cache.get? Role.root.name = some bs → bs = root := by
    rintro _ ⟨⟩
  exact refresh_ok_ascends LocalStore.plain_reliable hempty [] [.restart] Sample.now Sample.now
    (Chain.isOk_iff.1 (by decide +kernel)) (Chain.isOk_iff.1 (by decide +kernel)) hunrotated
    .targets fun _ => hlinked

open Sample in
/-- A second refresh accepts and saves a new timestamp and then fails for want of its snapshot.
After a restart the store still holds the first snapshot, which is no floor, as the second timestamp
does not pin it. So the third refresh accepts a snapshot that lists lower targets. -/
theorem refresh_ok_descends :
    let net : List Reply := [missing, .body (timestamp 1 1), .body (snapshot 1 5),
      .body (targets 5), missing, .body (timestamp 2 2), missing,
      missing, .body (timestamp 2 2), .body (snapshot 2 1), .body (targets 1)]
    let first := (scripted root).refresh Sample.now ⟨none, world net⟩
    let second := (scripted root).refresh Sample.now
      ((scripted root).liveAll first.2 [.refresh Sample.now, .restart])
    first.1.isOk = true ∧ second.1.isOk = true ∧ Unrotated second.2 ∧
      committedVersion first.2 .targets = some 5 ∧ committedVersion second.2 .targets = some 1 := by
  decide +kernel

end SecureUpdate.Client
