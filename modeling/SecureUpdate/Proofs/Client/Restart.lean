import SecureUpdate.Proofs.Client.Provenance
import SecureUpdate.Proofs.Mirror.Failover

/-!
A restart against going on. A client that goes on starts a refresh from what it has committed; one
that is started anew over a copy of the store loads it role by role, and drops what the present root
does not authorize. Where it authorizes all of it, both start from the same trust, and where answers
are fixed the rest of a refresh depends on nothing else.

A rotation of the root keeps what is held for a role whose keys stay the same, even if their ids do
not. What is held is then signed by ids that the present root does not know, and a client that is
started anew drops it.

Main statement: `refresh_restarted`.
-/

namespace SecureUpdate

/-! ### Failures of a chain -/

/-- A chain that fails also fails, and in the same way, with other steps that fail as the old ones
do. -/
theorem Chain.bind_error_congr {ε α β γ : Type} {x : Except ε α} {f : α → Except ε β}
    {g : α → Except ε γ} {e : ε} (hfg : ∀ a, f a = .error e → g a = .error e)
    (h : (x >>= f) = .error e) : (x >>= g) = .error e := by
  cases x with
  | ok a => exact hfg a h
  | error e' =>
    cases h
    rfl

namespace Trust

open Chain

variable {p : Primitives} {t t' : Trust} {bs : Bytes} {now : Instant}

/-- Why a root is refused depends on the trusted root and its keys only. -/
theorem updateRoot_error_congr {root : Verified Root} (hroot : t.root = some root)
    (hroot' : t'.root = some root) (hkeys : t'.rootKeys = t.rootKeys) {e : TrustError}
    (h : t.updateRoot p bs = .error e) : t'.updateRoot p bs = .error e := by
  unfold updateRoot requireRoot at h ⊢
  rw [hroot] at h
  rw [hroot', hkeys]
  refine bind_error_congr (fun held => bind_error_congr fun m h => ?_) h
  dsimp only at h ⊢
  split at h
  · rename_i hlow
    rw [if_pos hlow]
    exact h
  · rename_i hlow
    rw [if_neg hlow]
    split at h
    · rename_i hhigh
      rw [if_pos hhigh]
      exact h
    · rename_i hhigh
      rw [if_neg hhigh]
      refine bind_error_congr (fun _ => bind_error_congr fun _ h => ?_) h
      cases h

/-! ### What is loaded again -/

/-- What a client that is started anew trusts first: the root, and nothing below it. -/
def rootOnly (t : Trust) (now : Instant) : Trust :=
  { initial now with root := t.root, rootKeys := t.rootKeys }

/-- Whether the signatures on what is held below the timestamp satisfy the present root. -/
def Reverifiable (p : Primitives) (t : Trust) : Prop :=
  ∀ root ∈ t.root,
    (∀ v ∈ t.snapshot, v.metadata.verifies p root.payload.roles.snapshot
      (.ofKeys p root.payload.keys) = true) ∧
    (∀ v ∈ t.targets, v.metadata.verifies p root.payload.roles.targets
      (.ofKeys p root.payload.keys) = true)

instance : Decidable (t.Reverifiable p) := by
  unfold Reverifiable
  infer_instance

namespace Restorable

variable (h : t.Restorable p)
include h

theorem loadRoot {root : Verified Root} (hroot : t.root = some root) :
    (initial now).loadRoot p root.bytes = .ok (t.rootOnly now) := by
  refine loadRoot_eq_ok_iff.2 ⟨root.metadata,
    ⟨rfl, h.sourced.root root hroot, h.sourced.root_signed root hroot⟩, ?_⟩
  rw [rootOnly, hroot, h.sourced.rootKeys root hroot]
  rfl

section Floors

variable {root : Verified Root} {timestamp : Verified Timestamp} {snapshot : Verified Snapshot}
  {targets : Verified Targets} (hchain : Consistent p t root timestamp snapshot targets)
include hchain

theorem attempt_timestamp : (t.rootOnly now).attempt p (.timestamp timestamp.bytes .cache) =
    .ok { t.rootOnly now with timestamp := some timestamp } :=
  updateTimestamp_eq_ok_iff.2 ⟨root, timestamp.metadata, {
    root_held := hchain.root_held
    read := h.sourced.timestamp _ hchain.timestamp_held
    version_le := by rintro _ ⟨⟩
    pin_le := by rintro _ ⟨⟩
    unexpired := nofun
    signed := h.timestamp_signed root hchain.root_held timestamp hchain.timestamp_held }, rfl⟩

variable (hverifiable : t.Reverifiable p)
include hverifiable

theorem attempt_snapshot : { t.rootOnly now with timestamp := some timestamp : Trust }.attempt p
    (.snapshot snapshot.bytes .cache) =
      .ok { t.rootOnly now with timestamp := some timestamp, snapshot := some snapshot } :=
  updateSnapshot_eq_ok_iff.2 ⟨root, timestamp, snapshot.metadata, {
    root_held := hchain.root_held
    timestamp_held := rfl
    read := h.sourced.snapshot _ hchain.snapshot_held
    version_le := by rintro _ ⟨⟩
    pinned := hchain.snapshot_current.imp fun _ hpin => ⟨hpin.1, hpin.2.described⟩
    keeps := by rintro _ ⟨⟩
    unexpired := nofun
    signed := h.sourced.rootKeys root hchain.root_held ▸
      (hverifiable root hchain.root_held).1 snapshot hchain.snapshot_held }, rfl⟩

theorem attempt_targets : { t.rootOnly now with
      timestamp := some timestamp, snapshot := some snapshot : Trust }.attempt p
    (.targets targets.bytes .cache) =
      .ok { t.rootOnly now with
        timestamp := some timestamp, snapshot := some snapshot, targets := some targets } :=
  updateTargets_eq_ok_iff.2 ⟨root, snapshot, targets.metadata, {
    root_held := hchain.root_held
    snapshot_held := rfl
    read := h.sourced.targets _ hchain.targets_held
    version_le := by rintro _ ⟨⟩
    pinned := hchain.targets_current.imp fun _ hpin => ⟨hpin.1, hpin.2.described⟩
    unexpired := nofun
    signed := h.sourced.rootKeys root hchain.root_held ▸
      (hverifiable root hchain.root_held).2 targets hchain.targets_held }, rfl⟩

end Floors

/-- From the root and from what is stored below it, each role against the one that pins it, all that
was trusted is loaded again. -/
theorem run_floors (hverifiable : t.Reverifiable p) {held : String → Option Bytes}
    (hheld : ∀ role : Role, held role.name = t.bytesOf role.name) :
    (t.rootOnly now).run p (Client.floors held) = { t with now } := by
  obtain ⟨root, timestamp, snapshot, targets, hchain⟩ := checkConsistent_eq_ok_iff.1 h.consistent
  have hfloors : Client.floors held = [.timestamp timestamp.bytes .cache,
      .snapshot snapshot.bytes .cache, .targets targets.bytes .cache] := by
    simp only [Client.floors, Client.floor, hheld, bytesOf_timestamp, bytesOf_snapshot,
      bytesOf_targets, hchain.timestamp_held, hchain.snapshot_held, hchain.targets_held]
    rfl
  rw [hfloors, run_cons, run_cons, run_cons, run_nil,
    step_of_attempt (h.attempt_timestamp hchain),
    step_of_attempt (h.attempt_snapshot hchain hverifiable),
    step_of_attempt (h.attempt_targets hchain hverifiable), rootOnly, ← hchain.timestamp_held,
    ← hchain.snapshot_held, ← hchain.targets_held]
  -- refreshes lead to nothing that is delegated
  have hdelegated : t.delegated = .empty := h.sourced.delegated
  cases t
  cases hdelegated
  rfl

end Restorable

end Trust

namespace Client

open Chain

variable {ν κ : Type} {c : Client ν κ} {view : κ → String → Option Bytes}
  {answer : String → UInt64 → Reply} {t : Trust}

/-! ### Steps that depend on what is trusted only -/

/-- Whether a step comes to the same for all worlds, and changes nothing but what is trusted. -/
def Determined (step : Working → Task ν κ Working) : Prop :=
  ∀ t, ∃ r : Except TrustError Trust, ∀ k w, k.trust = t → ∃ w',
    step k w = (r.map fun trust => { k with trust }, w')

namespace Determined

variable {f g : Working → Task ν κ Working}

theorem bind (hf : Determined f) (hg : Determined g) : Determined fun k => f k >>= g := by
  intro t
  obtain ⟨r, hr⟩ := hf t
  cases r with
  | error e =>
    refine ⟨.error e, fun k w hk => ?_⟩
    obtain ⟨w', hstep⟩ := hr k w hk
    exact ⟨w', Task.bind_of_error hstep⟩
  | ok t' =>
    obtain ⟨r', hr'⟩ := hg t'
    refine ⟨r', fun k w hk => ?_⟩
    obtain ⟨w', hstep⟩ := hr k w hk
    obtain ⟨w'', hstep'⟩ := hr' { k with trust := t' } w' rfl
    exact ⟨w'', (Task.bind_of_ok hstep).trans hstep'⟩

theorem check (x : Trust → Except TrustError Unit) :
    Determined fun k : Working => (Task.ofExcept (x k.trust) >>= fun _ => pure k : Task ν κ _) := by
  intro t
  refine ⟨(x t).map fun _ => t, ?_⟩
  rintro k w rfl
  refine ⟨w, ?_⟩
  dsimp only
  cases x k.trust <;> rfl

/-- To retrieve metadata of a role, and to report and save it. -/
theorem retrieve (hstore : c.store.Writable view) (role : Role) (version : Trust → UInt64)
    {fetch : Task ν κ (Bytes × Trust)} {r : Except TrustError (Bytes × Trust)}
    (hfetch : ∀ w, ∃ w', fetch w = (r, w')) (k : Working) (w : World ν κ) : ∃ w',
    (fetch >>= fun found =>
      c.noteAccepted role (version found.2) found.1 { k with trust := found.2 }) w =
      ((r.map Prod.snd).map fun trust => { k with trust }, w') := by
  obtain ⟨w₁, hw₁⟩ := hfetch w
  cases r with
  | error e => exact ⟨w₁, Task.bind_of_error hw₁⟩
  | ok found =>
    obtain ⟨cache, hnote, -⟩ := noteAccepted_eq hstore role (version found.2) found.1
      { k with trust := found.2 } w₁
    exact ⟨_, (Task.bind_of_ok hw₁).trans hnote⟩

end Determined

section Steps

variable (hanswer : c.AnswersWith answer) (hstore : c.store.Writable view)
include hanswer hstore

theorem updateTimestamp_determined : Determined c.updateTimestamp := by
  intro t
  refine ⟨(c.settle answer (metadataFile Role.timestamp.name none) c.limits.timestampSizeCap
    (fun bs t => t.updateTimestamp c.primitives bs .remote) t).map Prod.snd, ?_⟩
  rintro k w rfl
  refine Determined.retrieve hstore .timestamp (fun t => (t.timestamp.map (·.version)).getD 0)
    (fun w => ?_) k w
  exact (c.fetchAccepted_eq hanswer _ _ _ _ w).imp' _ fun _ h => h

omit hstore in
/-- What the retrieval of a pinned file comes to where answers are fixed. -/
theorem fetchPinned_eq (role : String) (pin : Pin) (cap : UInt64)
    (accept : Bytes → Trust → Except TrustError Trust) (t : Trust) :
    ∃ r, ∀ w : World ν κ, ∃ w', c.fetchPinned role pin cap accept t w = (r, w') := by
  refine ⟨(c.settle answer (pinnedFile t role pin) (pin.cap cap) accept t).mapError
    (pin.explain role), fun w => ?_⟩
  obtain ⟨net, hfetch⟩ :=
    c.fetchAccepted_eq hanswer (pinnedFile t role pin) (pin.cap cap) accept t w
  refine ⟨{ w with net }, ?_⟩
  rw [fetchPinned, Task.mapError, hfetch]
  cases c.settle answer (pinnedFile t role pin) (pin.cap cap) accept t <;> rfl

theorem pass_determined (pinned : PinnedRole) : Determined (c.pass pinned) := by
  intro t
  by_cases hcurrent : pinned.isCurrent t = true
  · refine ⟨.ok t, ?_⟩
    rintro k w rfl
    exact ⟨w, by rw [pass, if_pos hcurrent]; rfl⟩
  · cases hpin : pinned.pin t with
    | error e =>
      refine ⟨.error e, ?_⟩
      rintro k w rfl
      exact ⟨w, by rw [pass, if_neg hcurrent, hpin]; rfl⟩
    | ok pin =>
      obtain ⟨r, hr⟩ := fetchPinned_eq hanswer pinned.role.name pin pinned.cap
        (pinned.accept c.primitives) t
      refine ⟨r.map Prod.snd, ?_⟩
      rintro k w rfl
      obtain ⟨w', hw'⟩ := Determined.retrieve hstore pinned.role (fun _ => pin.version) hr k w
      exact ⟨w', by rw [pass, if_neg hcurrent, hpin, Task.bind_of_ok Task.ofExcept_ok, hw']⟩

/-- What a refresh comes to, once the root is settled and the floors are loaded, depends on what is
trusted then. -/
theorem advance_determined : Determined fun k => c.updateTimestamp k >>= fun k =>
    c.updateSnapshot k >>= fun k => c.updateTargets k >>= fun k =>
      Task.ofExcept (k.trust.checkConsistent c.primitives) >>= fun _ => pure k := by
  simp only [updateSnapshot_eq_pass, updateTargets_eq_pass]
  exact (updateTimestamp_determined hanswer hstore).bind <|
    (pass_determined hanswer hstore _).bind <| (pass_determined hanswer hstore _).bind <| .check _

end Steps

/-! ### Where no next root is accepted -/

/-- Whether, by fixed answers, no mirror has a root that would be accepted as the next one; nothing
is asked of clients that follow no chain of roots. -/
def LastRoot (c : Client ν κ) (answer : String → UInt64 → Reply) (t : Trust) : Prop :=
  c.limits.maxRootRotations.toNat ≠ 0 → ∀ m ∈ c.mirrors, ∀ bs,
    answer (m.metadataUrl (nextRootFile t)) c.limits.rootSizeCap = .body bs →
      ∀ t', t.updateRoot c.primitives bs ≠ .ok t'

section Root

variable {t' : Trust} {root : Verified Root}

/-- The failure to retrieve a next root is the same on top of all that has the same root. -/
theorem LastRoot.settle_nextRoot (h : c.LastRoot answer t)
    (hsteps : c.limits.maxRootRotations.toNat ≠ 0) (hroot : t.root = some root) :
    ∃ e, ∀ t' : Trust, t'.root = some root → t'.rootKeys = t.rootKeys →
      c.settle answer (nextRootFile t') c.limits.rootSizeCap
        (fun bs t => t.updateRoot c.primitives bs) t' = .error e := by
  have hrefused : ∀ t' : Trust, t'.root = some root → t'.rootKeys = t.rootKeys →
      ∃ e, c.settle answer (nextRootFile t) c.limits.rootSizeCap
        (fun bs t => t.updateRoot c.primitives bs) t = .error e ∧
      c.settle answer (nextRootFile t) c.limits.rootSizeCap
        (fun bs t => t.updateRoot c.primitives bs) t' = .error e := by
    intro t' hroot' hkeys
    refine settle_refused fun m hm bs hbody => ?_
    cases haccept : t.updateRoot c.primitives bs with
    | ok t₁ => exact absurd haccept (h hsteps m hm bs hbody t₁)
    | error e => exact ⟨e, rfl, Trust.updateRoot_error_congr hroot hroot' hkeys haccept⟩
  obtain ⟨e, he, -⟩ := hrefused t hroot rfl
  refine ⟨e, fun t' hroot' hkeys => ?_⟩
  obtain ⟨e', he', hrefused'⟩ := hrefused t' hroot' hkeys
  cases he.symm.trans he'
  have hfile : nextRootFile t' = nextRootFile t := by
    simp only [nextRootFile, nextRootVersion, hroot, hroot']
  rw [hfile]
  exact hrefused'

/-- To follow the chain of roots then comes to the same from all that has the same root. -/
theorem LastRoot.rotateRoots (hanswer : c.AnswersWith answer) (h : c.LastRoot answer t)
    (hroot : t.root = some root) : ∃ r : Except TrustError Unit, ∀ (k : Working) (w : World ν κ),
      k.trust.root = some root → k.trust.rootKeys = t.rootKeys → ∃ net,
        c.rotateRoots c.limits.maxRootRotations.toNat k w = (r.map fun _ => k, { w with net }) := by
  cases hsteps : c.limits.maxRootRotations.toNat with
  | zero => exact ⟨.ok (), fun k w _ _ => ⟨w.net, rfl⟩⟩
  | succ steps =>
    obtain ⟨e, he⟩ := h.settle_nextRoot (by omega) hroot
    refine ⟨if e.isTransport then .ok () else .error e, fun k w hroot' hkeys => ?_⟩
    obtain ⟨net, hfetch⟩ := c.fetchAccepted_eq hanswer (nextRootFile k.trust) c.limits.rootSizeCap
      (fun bs t => t.updateRoot c.primitives bs) k.trust w
    rw [he k.trust hroot' hkeys] at hfetch
    refine ⟨net, ?_⟩
    unfold nextRootFile at hfetch
    simp only [Client.rotateRoots, hfetch]
    split <;> rfl

end Root

/-! ### The whole refresh -/

/-- How a refresh ends that comes to `r`: it fails with that failure, or it commits that trust. -/
def EndsWith (done : Except TrustError Unit × Session ν κ) : Except TrustError Trust → Prop
  | .error e => done.1 = .error e
  | .ok t => done.1 = .ok () ∧ done.2.committed = some t

theorem endsWith_of_runRefresh {now : Instant} {s : Session ν κ} {r : Except TrustError Trust}
    {cold : Bool} {w' : World ν κ} (h : c.runRefresh now s.committed s.world =
      (r.map fun trust => { trust, cold, saveError := none }, w')) :
    EndsWith (c.refresh now s) r := by
  rw [refresh, h]
  cases r with
  | error e => rfl
  | ok t => exact ⟨rfl, rfl⟩

/-- A refresh from a root after which no next one is accepted, once the floors are loaded. -/
theorem runRefresh_of_start {now : Instant} {committed : Option Trust} {w w₁ : World ν κ}
    {k : Working} (loaded : Trust) {r₁ : Except TrustError Unit} {r₂ : Except TrustError Trust}
    (hstart : c.workingCopy now committed w = (.ok k, w₁))
    (hrotate : ∃ net, c.rotateRoots c.limits.maxRootRotations.toNat k w₁ =
      (r₁.map fun _ => k, { w₁ with net }))
    (hfloors : ∀ net, ∃ w₂, (if k.cold then c.loadFloors k else pure k) { w₁ with net } =
      (.ok { k with trust := loaded }, w₂))
    (hadvance : ∀ w₂, ∃ w₃, (c.updateTimestamp { k with trust := loaded } >>= fun k =>
      c.updateSnapshot k >>= fun k => c.updateTargets k >>= fun k =>
        Task.ofExcept (k.trust.checkConsistent c.primitives) >>= fun _ => pure k) w₂ =
      (r₂.map fun trust => { k with trust }, w₃)) :
    ∃ w', c.runRefresh now committed w =
      ((r₁ >>= fun _ => k.trust.checkRootExpiry >>= fun _ => r₂).map
        fun trust => { k with trust }, w') := by
  obtain ⟨net, hrotate⟩ := hrotate
  rw [runRefresh_eq, Task.bind_of_ok hstart]
  cases r₁ with
  | error e => exact ⟨_, Task.bind_of_error hrotate⟩
  | ok =>
    rw [Task.bind_of_ok hrotate]
    cases hcheck : k.trust.checkRootExpiry with
    | error e => exact ⟨_, Task.bind_of_error Task.ofExcept_error⟩
    | ok =>
      obtain ⟨w₂, hw₂⟩ := hfloors net
      obtain ⟨w₃, hw₃⟩ := hadvance w₂
      refine ⟨w₃, ?_⟩
      rw [Task.bind_of_ok Task.ofExcept_ok, Task.bind_of_ok hw₂]
      exact hw₃

/-- Where answers are fixed and no next root is accepted: to go on from what can be loaded again,
and to start over a store that holds it, comes to the same. -/
theorem refresh_endsWith {now : Instant} (hanswer : c.AnswersWith answer)
    (hstore : c.store.Reliable view) (h : t.Restorable c.primitives)
    (hverifiable : t.Reverifiable c.primitives)
    (hlast : c.LastRoot answer t) (w w' : World ν κ)
    (hheld : ∀ role : Role, view w'.cache role.name = t.bytesOf role.name) :
    ∃ r, EndsWith (c.refresh now ⟨some t, w⟩) r ∧ EndsWith (c.refresh now ⟨none, w'⟩) r := by
  obtain ⟨root, _, _, _, hchain⟩ := Trust.checkConsistent_eq_ok_iff.1 h.consistent
  have hroot := hchain.root_held
  obtain ⟨r₁, hrotate⟩ := hlast.rotateRoots hanswer hroot
  obtain ⟨r₂, hadvance⟩ := advance_determined hanswer hstore.writable { t with now }
  have hcheck : (t.rootOnly now).checkRootExpiry = { t with now : Trust }.checkRootExpiry := by
    simp only [Trust.checkRootExpiry, Trust.requireRoot, Trust.rootOnly, hroot]
    rfl
  refine ⟨r₁ >>= fun _ => { t with now : Trust }.checkRootExpiry >>= fun _ => r₂, ?_, ?_⟩
  · have hstart : c.workingCopy now (some t) w =
        (.ok { trust := { t with now }, cold := false, saveError := none }, w) := rfl
    obtain ⟨w₃, hrun⟩ := runRefresh_of_start { t with now } hstart (hrotate _ w hroot rfl)
      (fun net => ⟨_, rfl⟩) fun w₂ => hadvance _ w₂ rfl
    exact endsWith_of_runRefresh hrun
  · obtain ⟨cache, hload, hcache⟩ := loadCached_eq hstore Role.root.name w'
    have hstart : c.workingCopy now none w' =
        (.ok { trust := t.rootOnly now, cold := true, saveError := none }, { w' with cache }) := by
      show c.startCold now w' = _
      rw [startCold, Task.bind_of_ok hload, hheld, Trust.bytesOf_root, hroot]
      simp only [Option.map_some, h.loadRoot hroot]
      rfl
    have hheld' : ∀ role : Role, view cache role.name = t.bytesOf role.name := by
      intro role
      rw [hcache, hheld]
    have hfloors : ∀ net, ∃ w₂, c.loadFloors
        { trust := t.rootOnly now, cold := true, saveError := none } { w' with cache, net } =
          (.ok { trust := { t with now }, cold := true, saveError := none }, w₂) := by
      intro net
      obtain ⟨cache', hfloors, -⟩ := loadFloors_eq hstore
        { trust := t.rootOnly now, cold := true, saveError := none } { w' with cache, net }
      rw [h.run_floors hverifiable hheld'] at hfloors
      exact ⟨_, hfloors⟩
    obtain ⟨w₃, hrun⟩ := runRefresh_of_start { t with now } hstart (hrotate _ _ hroot rfl) hfloors
      fun w₂ => hadvance _ w₂ rfl
    rw [hcheck] at hrun
    exact endsWith_of_runRefresh hrun

/-- Whether some refreshes, from a start with nothing committed, lead to a session. -/
def Refreshed (c : Client ν κ) (s : Session ν κ) : Prop :=
  ∃ w nows, c.refreshAll ⟨none, w⟩ nows = s

/-- A client that refreshes have brought to a committed state over a store that never fails, and
another one that is started anew over a copy of that store: the store holds the committed bytes of
the top-level roles, the signatures on the committed snapshot and targets satisfy the committed
root, answers are fixed by address and length, and no mirror has a root that would be accepted as
the next one. Then a refresh of either client at the same time comes to the same: both succeed and
commit the same bytes for each top-level role, or both fail in the same way. -/
theorem refresh_restarted (hstore : c.store.Reliable view) {s : Session ν κ}
    (hs : c.Refreshed s) (ht : s.committed = some t)
    (hheld : ∀ role, storedBytes view s role = committedBytes s role)
    (hverifiable : t.Reverifiable c.primitives) {fetcher : Fetcher ν}
    (hanswer : { c with fetcher }.AnswersWith answer) (hlast : c.LastRoot answer t)
    (now : Instant) (w : World ν κ) (hcopy : view w.cache = view s.world.cache) :
    let running := { c with fetcher }.refresh now s
    let restarted := { c with fetcher }.refresh now ⟨none, w⟩
    (running.1 = .ok () ∧ restarted.1 = .ok () ∧ ∀ role, ∃ bs,
      committedBytes running.2 role = some bs ∧ committedBytes restarted.2 role = some bs) ∨
    ∃ e, running.1 = .error e ∧ restarted.1 = .error e := by
  intro running restarted
  have hrestorable : t.Restorable c.primitives := by
    obtain ⟨w₀, nows, rfl⟩ := hs
    exact restorable_refreshAll hstore w₀ nows ht
  have hstored : ∀ role : Role, view w.cache role.name = t.bytesOf role.name := by
    intro role
    rw [hcopy]
    exact (hheld role).trans (by rw [committedBytes, ht]; rfl)
  obtain ⟨r, hr, hr'⟩ : ∃ r, EndsWith running r ∧ EndsWith restarted r := by
    have hrunning : s = ⟨some t, s.world⟩ := by rw [← ht]
    simp only [running, restarted]
    rw [hrunning]
    exact refresh_endsWith hanswer hstore hrestorable hverifiable hlast s.world w hstored
  cases r with
  | error e => exact .inr ⟨e, hr, hr'⟩
  | ok t' =>
    refine .inl ⟨hr.1, hr'.1, fun role => ?_⟩
    obtain ⟨bs, hbs, -⟩ := refresh_ok_bytes (c := { c with fetcher }) hstore now hr.1 role
    refine ⟨bs, hbs, ?_⟩
    rwa [committedBytes, hr'.2, ← hr.2]

/-! ### Ids of keys -/

/-- A client follows the chain of roots no further where no mirror gives a body for the next one. -/
theorem lastRoot_of_not_isBody (h : ∀ m ∈ c.mirrors,
    ¬ (answer (m.metadataUrl (nextRootFile t)) c.limits.rootSizeCap).IsBody) :
    c.LastRoot answer t := by
  intro _ m hm bs hbody
  have hnone := h m hm
  rw [hbody] at hnone
  exact absurd trivial hnone

namespace Renewed

open Sample

/-- A second root, which has key 1 under two ids. What signs a snapshot has to use the given one. -/
def nextRoot (keyId : Char) : Bytes :=
  publish ['1'] ("[\"root\",\"1\",false,2,\"2999-01-01T00:00:00Z\",\x7b" ++
    "\"1\":[\"ed25519\",\"ed25519\",[\"" ++ (Key.ofDigit '1').material ++ "\"]]," ++
    "\"2\":[\"ed25519\",\"ed25519\",[\"" ++ (Key.ofDigit '1').material ++ "\"]]\x7d," ++
    "[[[\"1\"],1],[[\"1\"],1],[[\"" ++ keyId.toString ++ "\"],1],[[\"1\"],1]]]")

/-- The small repository before it has a second root, and afterwards. -/
def replies (keyId : Char) : World (List Reply) (Dict Bytes) :=
  world [missing, .body (timestamp 1 1), .body (snapshot 1 1), .body (targets 1),
    .body (nextRoot keyId), missing, .body (timestamp 1 1)]

/-- The session after a refresh before and one after. -/
def session (keyId : Char) : Session (List Reply) (Dict Bytes) :=
  (scripted root).refreshAll ⟨none, replies keyId⟩ [now, now]

/-- What the small repository serves from then on. -/
def files : List (String × Bytes) :=
  [("timestamp.json", timestamp 1 1), ("snapshot.json", snapshot 1 1),
    ("targets.json", targets 1)].map fun (file, bs) =>
      ((Mirror.ofUrl "https://mirror.example").metadataUrl file, bs)

/-- A client of what is served. -/
def client : Client (List Reply) (Dict Bytes) :=
  { scripted root with fetcher := fun url _ net => (fileAt files url, net) }

/-- A world with a copy of a store. -/
def copy (cache : Dict Bytes) : World (List Reply) (Dict Bytes) := ⟨[], cache, []⟩

end Renewed

open Renewed Sample in
/-- A second root that keeps the id of the key leaves the snapshot verifiable, and a restart goes
unnoticed. -/
theorem refresh_restarted_renewed :
    let running := client.refresh now (session '1')
    let restarted := client.refresh now ⟨none, copy (session '1').world.cache⟩
    running.1 = .ok () ∧ restarted.1 = .ok () ∧ ∀ role, ∃ bs,
      committedBytes running.2 role = some bs ∧ committedBytes restarted.2 role = some bs := by
  have hfacts : (session '1').committed.isSome = true ∧
      (∀ role ∈ [Role.root, .timestamp, .snapshot, .targets],
        storedBytes SortedMap.get? (session '1') role = committedBytes (session '1') role) ∧
      (∀ t ∈ (session '1').committed, t.Reverifiable .transparent) ∧
      (∀ t ∈ (session '1').committed, ∀ m ∈ client.mirrors,
        ¬ (fileAt files (m.metadataUrl (nextRootFile t))).IsBody) ∧
      (client.refresh now (session '1')).1.isOk = true := by
    decide +kernel
  have hs : (scripted root).Refreshed (session '1') := ⟨replies '1', [now, now], rfl⟩
  -- the session is not looked into any more
  generalize session '1' = s at hfacts hs ⊢
  obtain ⟨hsome, hheld, hverifiable, hlast, hok⟩ := hfacts
  obtain ⟨t, ht⟩ := Option.isSome_iff_exists.1 hsome
  have hstore : (scripted root).store.Reliable SortedMap.get? := LocalStore.plain_reliable
  have hanswer : client.AnswersWith fun url _ => fileAt files url := fun _ _ _ => rfl
  have hheld' : ∀ role, storedBytes SortedMap.get? s role = committedBytes s role := by
    intro role
    refine hheld role ?_
    cases role <;> simp
  have hcopy : SortedMap.get? (copy s.world.cache).cache = SortedMap.get? s.world.cache := rfl
  have hrestarted := refresh_restarted hstore hs ht hheld' (hverifiable t ht) hanswer
    (lastRoot_of_not_isBody (hlast t ht)) now (copy s.world.cache) hcopy
  refine hrestarted.resolve_right ?_
  rintro ⟨e, he, -⟩
  cases (Chain.isOk_iff.1 hok).symm.trans he

open Renewed Sample in
/-- A second root that renames the key leaves the snapshot to be signed under a name that it does
not know. A client that goes on still has the snapshot; one that is started anew drops it, is given
the same snapshot again, and refuses it. -/
theorem refresh_restarted_renamed : ∃ t, (session '2').committed = some t ∧
    (∀ role, storedBytes SortedMap.get? (session '2') role = committedBytes (session '2') role) ∧
    client.LastRoot (fun url _ => fileAt files url) t ∧
    (client.refresh now (session '2')).1 = .ok () ∧
    (client.refresh now ⟨none, copy (session '2').world.cache⟩).1 ≠ .ok () := by
  have hfacts : (session '2').committed.isSome = true ∧
      (∀ role ∈ [Role.root, .timestamp, .snapshot, .targets],
        storedBytes SortedMap.get? (session '2') role = committedBytes (session '2') role) ∧
      (∀ t ∈ (session '2').committed, ∀ m ∈ client.mirrors,
        ¬ (fileAt files (m.metadataUrl (nextRootFile t))).IsBody) ∧
      (client.refresh now (session '2')).1.isOk = true ∧
      ¬ (client.refresh now ⟨none, copy (session '2').world.cache⟩).1.isOk = true := by
    decide +kernel
  obtain ⟨hsome, hheld, hlast, hok, hfails⟩ := hfacts
  obtain ⟨t, ht⟩ := Option.isSome_iff_exists.1 hsome
  refine ⟨t, ht, fun role => hheld role ?_, lastRoot_of_not_isBody (hlast t ht),
    Chain.isOk_iff.1 hok, fun h => hfails (Chain.isOk_iff.2 h)⟩
  cases role <;> simp

end Client

end SecureUpdate
