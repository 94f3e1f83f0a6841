import Mathlib.Data.List.Induction
import SecureUpdate.Proofs.Client.Consistency
import SecureUpdate.Proofs.Client.Upkeep
import SecureUpdate.Proofs.Trust.Monotone

/-!
The local store against what is committed. Each role is saved as it is accepted, while what is
trusted is committed at the end, and a role that is still current is not retrieved again. So a
refresh that fails may leave a root or a snapshot in the store that was never committed, and a later
one that succeeds need not replace it. In no other way does the store come to differ from what is
committed: the timestamp is always retrieved again, and targets are saved last, when nothing can
fail any more.

Main statement: `refresh_ok_agrees`.
-/

namespace SecureUpdate.Client

variable {ν κ : Type} {c : Client ν κ} {view : κ → String → Option Bytes} {s : Session ν κ}

/-! ### One refresh -/

/-- A complete chain holds bytes for every role. -/
theorem exists_bytesOf {p : Primitives} {t : Trust} (h : t.checkConsistent p = .ok ())
    (role : Role) : ∃ bs, t.bytesOf role.name = some bs := by
  obtain ⟨root, timestamp, snapshot, targets, hchain⟩ := Trust.checkConsistent_eq_ok_iff.1 h
  cases role with
  | root => exact ⟨root.bytes, by simp [hchain.root_held]⟩
  | timestamp => exact ⟨timestamp.bytes, by simp [hchain.timestamp_held]⟩
  | snapshot => exact ⟨snapshot.bytes, by simp [hchain.snapshot_held]⟩
  | targets => exact ⟨targets.bytes, by simp [hchain.targets_held]⟩

/-- The bytes that a session has committed for a role. -/
def committedBytes (s : Session ν κ) (role : Role) : Option Bytes :=
  s.committed.bind fun t => t.bytesOf role.name

/-- The bytes that the store holds for a role. -/
def storedBytes (view : κ → String → Option Bytes) (s : Session ν κ) (role : Role) :
    Option Bytes :=
  view s.world.cache role.name

/-- A refresh starts with the bytes that are committed. -/
theorem bytesOf_start (now : Instant) (role : Role) :
    (start now s.committed).trust.bytesOf role.name = committedBytes s role := by
  cases h : s.committed with
  | none => cases role <;> simp [start, committedBytes, h, Trust.initial]
  | some t => cases role <;> simp [start, committedBytes, h]

/-- After a refresh that succeeds the store holds what is committed for a role. Else nothing was
retrieved for the role: what is committed is what was, and the store is left as it was. The
timestamp is always retrieved. -/
theorem refresh_ok_bytes (hstore : c.store.Reliable view) (now : Instant)
    (hok : (c.refresh now s).1 = .ok ()) (role : Role) : ∃ bs,
    committedBytes (c.refresh now s).2 role = some bs ∧
      (storedBytes view (c.refresh now s).2 role = some bs ∨ (role ≠ .timestamp ∧
        committedBytes s role = some bs ∧
          storedBytes view (c.refresh now s).2 role = storedBytes view s role)) := by
  obtain ⟨rooted, stamped, ended, hcourse, hcache, -, hend⟩ := refresh_course hstore now s
  rcases hend with ⟨e, he, -⟩ | ⟨-, hcommitted, k, hk⟩
  · rw [hok] at he
    cases he
  · obtain ⟨bs, hbs⟩ := exists_bytesOf hk.consistent role
    refine ⟨bs, by rw [committedBytes, hcommitted]; exact hbs, ?_⟩
    rw [storedBytes, hcache]
    by_cases hrole : role = .timestamp
    · subst hrole
      obtain ⟨bs', hstamped, hsaved⟩ := hk.timestamp_saved
      rcases hcourse.ending.bytesOf hbs with hheld | ⟨hheld, hkept⟩
      · exact .inl hheld
      · rw [hstamped] at hheld
        cases hheld
        exact .inl (hkept.trans hsaved)
    · rcases hcourse.moves.bytesOf hbs with hheld | ⟨hheld, hkept⟩
      · exact .inl hheld
      · rw [bytesOf_start] at hheld
        exact .inr ⟨hrole, hheld, hkept⟩

/-! ### Refreshes that fail -/

/-- What a store in which roles do not get in each other's way holds for one role is kept while
others are saved. -/
theorem guardsOn_others (hstore : c.store.Separate view) (role : Role) (held : Option Bytes) :
    c.GuardsOn (· ≠ role) (fun _ => True) fun k => view k role.name = held where
  load other k hheld := by rw [hstore.load, hheld]
  save other bs k hother _ hheld := by
    rw [hstore.save _ _ _ _ fun hname => hother (Role.name_injective hname), hheld]

/-- Before a refresh asks for the targets it saves none. -/
theorem untilTargets_keeps (c : Client ν κ) (hstore : c.store.Separate view) (now : Instant)
    (committed : Option Trust) (w : World ν κ) :
    view (c.untilTargets now committed w).2.cache Role.targets.name =
      view w.cache Role.targets.name := by
  have hK := guardsOn_others hstore .targets (view w.cache Role.targets.name)
  -- nothing needs to be known here of what is trusted on the way
  have hJ := c.upholds_trivial now ⟨committed, w⟩
  have hI := hJ.below 0
  have hstart := workingCopy_leaves hK (by decide) hJ rfl
  have hfloored : Task.Leaves _ (fun _ => True) (c.untilTimestamp now committed w) :=
    hstart.bind fun _ h => (updateRootChain_keeps hK (by decide) hJ h).bind fun _ _ =>
      .ite (loadFloors_keeps hK hI trivial) (.pure trivial)
  have hstamped : Task.Leaves _ (fun _ => True) (c.untilSnapshot now committed w) :=
    hfloored.bind fun _ h => updateTimestamp_keeps hK hI (by decide) h
  rw [untilTargets, updateSnapshot_eq_pass]
  have hlisted := hstamped.bind (f := c.pass c.pinnedSnapshot) fun _ h =>
    pass_keeps hK hI (by decide : Role.snapshot ≠ .targets) h
  exact hlisted.1

/-- A refresh that fails has saved no targets: they come last, and the check after them is idle. -/
theorem refresh_error_targets (hstore : c.store.Reliable view) {now : Instant} {e : TrustError}
    (h : (c.refresh now s).1 = .error e) :
    storedBytes view (c.refresh now s).2 .targets = storedBytes view s .targets := by
  obtain ⟨rooted, stamped, ended, -, -, hcompleted⟩ :=
    runRefresh_course hstore now s.committed s.world
  cases hrun : c.runRefresh now s.committed s.world with
  | mk r w' =>
    rw [hrun] at hcompleted
    rw [refresh, hrun] at h ⊢
    cases r with
    | ok k =>
      -- nothing failed, not even to save
      simp only [(hcompleted k rfl).saved] at h
      cases h
    | error e =>
      have huntil := c.untilTargets_keeps hstore.separate now s.committed s.world
      rw [runRefresh_eq_untilCheck] at hrun
      rcases Task.bind_eq_error_iff.1 hrun with hfailed | ⟨k, w₁, hbefore, hpass⟩
      · rw [hfailed] at huntil
        exact huntil
      · rw [hbefore] at huntil
        rw [updateTargets_eq_pass] at hpass
        exact (congrArg (view · Role.targets.name) (pass_error hpass)).trans huntil

/-! ### Refreshes one after another -/

/-- The session after some refreshes, each at its time. -/
def refreshAll (c : Client ν κ) (s : Session ν κ) (nows : List Instant) : Session ν κ :=
  nows.foldl (fun s now => (c.refresh now s).2) s

theorem refreshAll_append_singleton {nows : List Instant} {now : Instant} :
    c.refreshAll s (nows ++ [now]) = (c.refresh now (c.refreshAll s nows)).2 := by
  rw [refreshAll, List.foldl_append]
  rfl

/-- Whether, among some refreshes, one failed after it had replaced the bytes that were committed
for a role, and that the store held, by other bytes. -/
def Overwritten (c : Client ν κ) (view : κ → String → Option Bytes) (s : Session ν κ)
    (nows : List Instant) (role : Role) (bs : Bytes) : Prop :=
  ∃ before failed rest, nows = before ++ failed :: rest ∧
    (∃ e, (c.refresh failed (c.refreshAll s before)).1 = .error e) ∧
    committedBytes (c.refreshAll s before) role = some bs ∧
    storedBytes view (c.refreshAll s before) role = some bs ∧
    storedBytes view (c.refreshAll s (before ++ [failed])) role ≠ some bs

theorem Overwritten.append_singleton {nows : List Instant} {now : Instant} {role : Role}
    {bs : Bytes} (h : c.Overwritten view s nows role bs) :
    c.Overwritten view s (nows ++ [now]) role bs := by
  obtain ⟨before, failed, rest, rfl, hrest⟩ := h
  exact ⟨before, failed, rest ++ [now], by simp, hrest⟩

/-- Targets are never overwritten so. -/
theorem Overwritten.ne_targets (hstore : c.store.Reliable view) {nows : List Instant} {role : Role}
    {bs : Bytes} (h : c.Overwritten view s nows role bs) : role ≠ .targets := by
  obtain ⟨before, failed, _, _, ⟨e, herror⟩, _, hstored, hreplaced⟩ := h
  rintro rfl
  rw [refreshAll_append_singleton, refresh_error_targets hstore herror] at hreplaced
  exact hreplaced hstored

/-- From a start with nothing committed, whatever is committed is in the store, or was overwritten
there by a refresh that failed. -/
theorem storedBytes_of_committedBytes (hstore : c.store.Reliable view) (w : World ν κ)
    (nows : List Instant) {role : Role} {bs : Bytes}
    (h : committedBytes (c.refreshAll ⟨none, w⟩ nows) role = some bs) :
    storedBytes view (c.refreshAll ⟨none, w⟩ nows) role = some bs ∨
      c.Overwritten view ⟨none, w⟩ nows role bs := by
  induction nows using List.reverseRecOn generalizing bs with
  | nil => cases h
  | append_singleton nows now ih =>
    rw [refreshAll_append_singleton] at h ⊢
    obtain ⟨_, _, _, _, _, _, hend⟩ := refresh_course hstore now (c.refreshAll ⟨none, w⟩ nows)
    rcases hend with ⟨e, herror, hcommitted⟩ | ⟨hok, -⟩
    · -- a failed refresh commits nothing, but may have changed the store
      rw [committedBytes, hcommitted] at h
      rcases ih h with hstored | hoverwritten
      · by_cases hkept :
          storedBytes view (c.refresh now (c.refreshAll ⟨none, w⟩ nows)).2 role = some bs
        · exact .inl hkept
        · exact .inr ⟨nows, now, [], rfl, ⟨e, herror⟩, h, hstored,
            by rwa [refreshAll_append_singleton]⟩
      · exact .inr hoverwritten.append_singleton
    · obtain ⟨bs', hbs', hstored | ⟨-, hbefore, hkept⟩⟩ := refresh_ok_bytes hstore now hok role
      · cases h.symm.trans hbs'
        exact .inl hstored
      · cases h.symm.trans hbs'
        rw [hkept]
        exact (ih hbefore).imp_right Overwritten.append_singleton

/-- From a start with nothing committed, over a store that never fails and whatever it held: after
every refresh that succeeds the store holds for each role the bytes that are committed, unless the
role is the root or the snapshot and an earlier refresh that failed had overwritten these very
bytes. -/
theorem refresh_ok_agrees (hstore : c.store.Reliable view) (w : World ν κ) (nows : List Instant)
    (now : Instant) (hok : (c.refresh now (c.refreshAll ⟨none, w⟩ nows)).1 = .ok ()) (role : Role) :
    ∃ bs, committedBytes (c.refreshAll ⟨none, w⟩ (nows ++ [now])) role = some bs ∧
      (storedBytes view (c.refreshAll ⟨none, w⟩ (nows ++ [now])) role = some bs ∨
        (role ≠ .timestamp ∧ role ≠ .targets ∧ c.Overwritten view ⟨none, w⟩ nows role bs)) := by
  rw [refreshAll_append_singleton]
  obtain ⟨bs, hbs, hstored | ⟨hrole, hbefore, hkept⟩⟩ := refresh_ok_bytes hstore now hok role
  · exact ⟨bs, hbs, .inl hstored⟩
  · refine ⟨bs, hbs, ?_⟩
    rw [hkept]
    rcases storedBytes_of_committedBytes hstore w nows hbefore with hstored | hoverwritten
    · exact .inl hstored
    · exact .inr ⟨hrole, hoverwritten.ne_targets hstore, hoverwritten⟩

open Sample in
/-- A second refresh accepts and saves a new root and then fails for want of a timestamp. The third
one is not given that root and succeeds with the first: the first root is committed, and was
overwritten, while the timestamp and the targets in the store are those that are committed. -/
theorem refresh_ok_agrees_rotated :
    let net : List Reply := [missing, .body (timestamp 1 1), .body (snapshot 1 1),
      .body (targets 1), .body Trust.Rekeyed.nextRoot, missing, missing,
      missing, .body (timestamp 1 1)]
    let s := (scripted root).refreshAll ⟨none, world net⟩ ([now, now] ++ [now])
    (scripted root).Overwritten SortedMap.get? ⟨none, world net⟩ [now, now] .root root ∧
      ∀ role ∈ [Role.timestamp, .targets], ∃ bs,
        committedBytes s role = some bs ∧ storedBytes SortedMap.get? s role = some bs := by
  intro net s
  have hok : ((scripted root).refresh now
      ((scripted root).refreshAll ⟨none, world net⟩ [now, now])).1 = .ok () :=
    Chain.isOk_iff.1 (by decide +kernel)
  have hagrees := refresh_ok_agrees LocalStore.plain_reliable (world net) [now, now] now hok
  constructor
  · obtain ⟨bs, hbs, hroot⟩ := hagrees .root
    have hcommitted : committedBytes s .root = some root := by decide +kernel
    have hreplaced : storedBytes SortedMap.get? s .root ≠ some root := by decide +kernel
    cases hcommitted.symm.trans hbs
    exact (hroot.resolve_left hreplaced).2.2
  · intro role hrole
    obtain ⟨bs, hbs, hstored | ⟨htimestamp, htargets, -⟩⟩ := hagrees role
    · exact ⟨bs, hbs, hstored⟩
    · simp [htimestamp, htargets] at hrole

open Sample in
/-- A second refresh accepts and saves a new snapshot and then fails for want of targets. The third
one is given the first timestamp again, and skips the first snapshot, which is committed and
current. It succeeds, and the store still holds the second snapshot. -/
theorem refresh_ok_disagrees :
    let net : List Reply := [missing, .body (timestamp 1 1), .body (snapshot 1 1),
      .body (targets 1), missing, .body (timestamp 2 2), .body (snapshot 2 2), missing,
      missing, .body (timestamp 1 1)]
    let s := (scripted root).refreshAll ⟨none, world net⟩ [now, now]
    ((scripted root).refresh now s).1.isOk = true ∧
      storedBytes SortedMap.get? ((scripted root).refresh now s).2 .snapshot ≠
        committedBytes ((scripted root).refresh now s).2 .snapshot := by
  decide +kernel

end SecureUpdate.Client
