import SecureUpdate.Proofs.Client.Company
import SecureUpdate.Proofs.Client.Delegators
import SecureUpdate.Proofs.Delegation.Bounds
import SecureUpdate.Proofs.Mirror.Order

/-!
How many requests a client makes. A client can be made to keep a list of its requests to the
mirrors, and does what it does otherwise. Every retrieval asks each mirror once at most; a refresh
is one retrieval for each rotation of the root that is allowed and one for each role below it, and a
look-up is one for each role that its search asks for. So the number of requests is bounded by the
limits of the client, whatever the mirrors and the store give.

Main statement: `work_bounded`.
-/

namespace SecureUpdate

variable {ν κ σ α β : Type}

/-! ### Requests -/

/-- The same world, where some requests have been made. -/
def World.noting (w : World ν κ) (requests : List Request) : World (ν × List Request) κ :=
  w.withNet (w.net, requests)

/-- The same session, where some requests have been made. -/
def Session.noting (s : Session ν κ) (requests : List Request) :
    Session (ν × List Request) κ where
  committed := s.committed
  world := s.world.noting requests

/-- The same client, which keeps a list of its requests. -/
def Client.recorded (c : Client ν κ) : Client (ν × List Request) κ :=
  c.among c.fetcher.recorded c.mirrors

/-! ### Retrieval -/

namespace MirrorList

variable (timeout : Nat) (fetcher : Fetcher ν) (verify : Verifier σ) (resource : Resource)
  (maxLength : UInt64)

/-- One mirror is asked once. -/
theorem tryMirror_recorded (m : Mirror) (net : ν) (s : σ) (requests : List Request) :
    let r := tryMirror timeout fetcher verify resource maxLength m net s
    tryMirror timeout fetcher.recorded verify resource maxLength m (net, requests) s =
      (r.1, (r.2.1, requests ++ [⟨resource.urlAt m, maxLength⟩]), r.2.2) := by
  simp only [tryMirror, fetchOne, Fetcher.recorded]
  cases fetcher (resource.urlAt m) maxLength net with
  | mk reply net₁ =>
    cases reply with
    | body bs =>
      simp only
      cases verify bs s with
      | mk verdict s₁ => cases verdict <;> rfl
    | failure e => rfl
    | stalled => rfl

/-- Of some mirrors each is asked once at most. -/
theorem tryEach_recorded (ms : List Mirror) (net : ν) (s : σ) (requests : List Request) :
    let r := tryEach timeout fetcher verify resource maxLength ms net s
    ∃ more, more.length ≤ ms.length ∧
      tryEach timeout fetcher.recorded verify resource maxLength ms (net, requests) s =
        (r.1, (r.2.1, requests ++ more), r.2.2) := by
  induction ms generalizing net s requests with
  | nil => exact ⟨[], Nat.le_refl _, by rw [List.append_nil]; rfl⟩
  | cons m ms ih =>
    simp only [tryEach, tryMirror_recorded]
    cases tryMirror timeout fetcher verify resource maxLength m net s with
    | mk verdict rest =>
      obtain ⟨net₁, s₁⟩ := rest
      cases verdict with
      | ok bs => exact ⟨[_], Nat.succ_le_succ (Nat.zero_le _), rfl⟩
      | error e =>
        obtain ⟨more, hmore, hrest⟩ := ih net₁ s₁ (requests ++ [⟨resource.urlAt m, maxLength⟩])
        refine ⟨⟨resource.urlAt m, maxLength⟩ :: more, Nat.succ_le_succ hmore, ?_⟩
        simp only [hrest, List.append_assoc, List.singleton_append]
        cases tryEach timeout fetcher verify resource maxLength ms net₁ s₁ with
        | mk verdict rest => cases verdict <;> rfl

theorem fetchVerified_recorded (list : MirrorList) (net : ν) (s : σ) (requests : List Request) :
    let r := list.fetchVerified fetcher verify resource maxLength net s
    ∃ more, more.length ≤ list.mirrors.length ∧
      list.fetchVerified fetcher.recorded verify resource maxLength (net, requests) s =
        (r.1, (r.2.1, requests ++ more), r.2.2) := by
  obtain ⟨more, hmore, heach⟩ := tryEach_recorded list.timeout fetcher verify resource maxLength
    (list.mirrors.filter fun m => resource.servedBy m) net s requests
  refine ⟨more, hmore.trans (List.length_filter_le _ _), ?_⟩
  simp only [fetchVerified, heach]
  cases tryEach list.timeout fetcher verify resource maxLength
    (list.mirrors.filter fun m => resource.servedBy m) net s with
  | mk verdict rest => cases verdict <;> rfl

end MirrorList

/-! ### Steps -/

namespace Task

/-- Whether a step does what another one does, and makes at most so many requests. -/
def Makes (most : Nat) (a : Task ν κ α) (b : Task (ν × List Request) κ α) : Prop :=
  Notes most World.noting a b

variable {most most' : Nat} {a : Task ν κ α} {b : Task (ν × List Request) κ α}
  {f : α → Task ν κ β} {g : α → Task (ν × List Request) κ β}

theorem Makes.mono (h : Makes most a b) (hmost : most ≤ most') : Makes most' a b := by
  intro w requests
  obtain ⟨more, hmore, hb⟩ := h w requests
  exact ⟨more, hmore.trans hmost, hb⟩

/-- Steps that leave the network alone make no requests. -/
theorem Local.makes (h : Local a b) : Makes most a b := by
  intro w requests
  obtain ⟨hnet, hb⟩ := h w (w.net, requests)
  refine ⟨[], Nat.zero_le _, ?_⟩
  rw [World.noting, hb, List.append_nil, World.noting, hnet]

theorem Makes.bind (ha : Makes most a b) (hf : ∀ x, Makes most' (f x) (g x)) :
    Makes (most + most') (a >>= f) (b >>= g) := by
  intro w requests
  obtain ⟨more, hmore, hb⟩ := ha w requests
  cases hrun : a w with
  | mk r w₁ =>
    rw [hrun] at hb
    cases r with
    | ok x =>
      obtain ⟨others, hothers, hg⟩ := hf x w₁ (requests ++ more)
      refine ⟨more ++ others, by rw [List.length_append]; omega, ?_⟩
      rw [bind_of_ok hrun, bind_of_ok hb, hg, List.append_assoc]
    | error e =>
      refine ⟨more, by omega, ?_⟩
      rw [bind_of_error hrun, bind_of_error hb]

/-- A chain makes the requests of its last step only, if the steps before it make none. -/
theorem Makes.after (ha : Makes 0 a b) (hf : ∀ x, Makes most (f x) (g x)) :
    Makes most (a >>= f) (b >>= g) :=
  (ha.bind hf).mono (Nat.zero_add most).le

/-- A chain makes the requests of its first step only, if the steps after it make none. -/
theorem Makes.before (ha : Makes most a b) (hf : ∀ x, Makes 0 (f x) (g x)) :
    Makes most (a >>= f) (b >>= g) :=
  ha.bind hf

theorem Makes.ite {a' : Task ν κ α} {b' : Task (ν × List Request) κ α} {q : Prop} [Decidable q]
    (h : Makes most a b) (h' : Makes most a' b') :
    Makes most (if q then a else a') (if q then b else b') := by
  split
  · exact h
  · exact h'

theorem Makes.mapError {e : TrustError → TrustError} (h : Makes most a b) :
    Makes most (a.mapError e) (b.mapError e) := by
  intro w requests
  obtain ⟨more, hmore, hb⟩ := h w requests
  refine ⟨more, hmore, ?_⟩
  simp only [Task.mapError, hb]
  cases a w with
  | mk r w₁ => cases r <;> rfl

end Task

namespace Client

variable {c : Client ν κ}

/-- A retrieval asks each mirror once at most. -/
theorem fetchAccepted_makes (file : String) (maxLength : UInt64)
    (accept : Bytes → Trust → Except TrustError Trust) (t : Trust) :
    Task.Makes c.mirrors.length (c.fetchAccepted file maxLength accept t)
      (c.recorded.fetchAccepted file maxLength accept t) := by
  intro w requests
  obtain ⟨more, hmore, hfetch⟩ := MirrorList.fetchVerified_recorded c.fetcher
    (Verifier.ofAcceptance accept) (.metadata file) maxLength c.mirrorList w.net t requests
  refine ⟨more, hmore, ?_⟩
  simp only [fetchAccepted, World.noting, World.withNet]
  rw [show c.recorded.mirrorList = c.mirrorList from rfl,
    show c.recorded.fetcher = c.fetcher.recorded from rfl, hfetch]
  cases c.mirrorList.fetchVerified c.fetcher (Verifier.ofAcceptance accept) (.metadata file)
    maxLength w.net t with
  | mk verdict rest => cases verdict <;> rfl

theorem fetchPinned_makes (role : String) (pin : Pin) (cap : UInt64)
    (accept : Bytes → Trust → Except TrustError Trust) (t : Trust) :
    Task.Makes c.mirrors.length (c.fetchPinned role pin cap accept t)
      (c.recorded.fetchPinned role pin cap accept t) :=
  (fetchAccepted_makes _ _ _ _).mapError

/-! ### A refresh -/

/-- Each rotation of the root is one retrieval. -/
theorem rotateRoots_makes (steps : Nat) (k : Working) :
    Task.Makes (steps * c.mirrors.length) (c.rotateRoots steps k)
      (c.recorded.rotateRoots steps k) := by
  induction steps generalizing k with
  | zero => exact Task.Local.pure.makes
  | succ steps ih =>
    intro w requests
    obtain ⟨more, hmore, hfetch⟩ := fetchAccepted_makes (c := c) (nextRootFile k.trust)
      c.limits.rootSizeCap (fun bs t => t.updateRoot c.primitives bs) k.trust w requests
    rw [Nat.succ_mul]
    cases hrun : c.fetchAccepted (nextRootFile k.trust) c.limits.rootSizeCap
        (fun bs t => t.updateRoot c.primitives bs) k.trust w with
    | mk r w₁ =>
      rw [hrun] at hfetch
      cases r with
      | ok found =>
        obtain ⟨others, hothers, hrest⟩ :=
          (noteRotation_local k found.1 found.2).makes.after ih w₁ (requests ++ more)
        refine ⟨more ++ others, by rw [List.length_append]; omega, ?_⟩
        rw [rotateRoots_of_ok hrun, ← List.append_assoc, ← hrest]
        exact rotateRoots_of_ok hfetch
      | error e =>
        refine ⟨more, by omega, ?_⟩
        rw [rotateRoots_of_error hrun]
        refine (rotateRoots_of_error hfetch).trans ?_
        split <;> rfl

theorem updateRootChain_makes (k : Working) :
    Task.Makes (c.limits.maxRootRotations.toNat * c.mirrors.length) (c.updateRootChain k)
      (c.recorded.updateRootChain k) :=
  (rotateRoots_makes _ k).before fun _ =>
    (Task.Local.bind .ofExcept fun _ => .pure).makes

/-- To retrieve metadata and to report and save it is one retrieval. -/
theorem retrieve_makes (role : Role) (version : Trust → UInt64) (k : Working)
    {fetch : Task ν κ (Bytes × Trust)} {fetch' : Task (ν × List Request) κ (Bytes × Trust)}
    (hfetch : Task.Makes c.mirrors.length fetch fetch') :
    Task.Makes c.mirrors.length
      (fetch >>= fun found =>
        c.noteAccepted role (version found.2) found.1 { k with trust := found.2 })
      (fetch' >>= fun found =>
        c.recorded.noteAccepted role (version found.2) found.1 { k with trust := found.2 }) :=
  hfetch.before fun _ => (noteAccepted_local _ _ _ _).makes

theorem updateTimestamp_makes (k : Working) :
    Task.Makes c.mirrors.length (c.updateTimestamp k) (c.recorded.updateTimestamp k) :=
  retrieve_makes .timestamp (fun t => (t.timestamp.map (·.version)).getD 0) k
    (fetchAccepted_makes _ _ _ _)

theorem pass_makes (pinned : PinnedRole) (k : Working) :
    Task.Makes c.mirrors.length (c.pass pinned k) (c.recorded.pass pinned k) := by
  refine Task.Makes.ite Task.Local.pure.makes ?_
  refine Task.Local.ofExcept.makes.after fun pin => ?_
  exact retrieve_makes pinned.role (fun _ => pin.version) k (fetchPinned_makes _ _ _ _ _)

/-- The three roles below the root are one retrieval each. -/
theorem finish_makes (k : Working) :
    Task.Makes (c.mirrors.length + (c.mirrors.length + c.mirrors.length))
      (c.updateTimestamp k >>= fun k => c.updateSnapshot k >>= fun k =>
        c.updateTargets k >>= fun k =>
          Task.ofExcept (k.trust.checkConsistent c.primitives) >>= fun _ => pure k)
      (c.recorded.updateTimestamp k >>= fun k => c.recorded.updateSnapshot k >>= fun k =>
        c.recorded.updateTargets k >>= fun k =>
          Task.ofExcept (k.trust.checkConsistent c.primitives) >>= fun _ => pure k) := by
  simp only [updateSnapshot_eq_pass, updateTargets_eq_pass]
  refine (updateTimestamp_makes k).bind fun k => ?_
  refine (pass_makes c.pinnedSnapshot k).bind fun k => ?_
  exact (pass_makes c.pinnedTargets k).before fun k =>
    (Task.Local.bind .ofExcept fun _ => .pure).makes

theorem runRefresh_makes (now : Instant) (committed : Option Trust) :
    Task.Makes ((c.limits.maxRootRotations.toNat + 3) * c.mirrors.length)
      (c.runRefresh now committed) (c.recorded.runRefresh now committed) := by
  have hmost : c.limits.maxRootRotations.toNat * c.mirrors.length +
      (c.mirrors.length + (c.mirrors.length + c.mirrors.length)) ≤
        (c.limits.maxRootRotations.toNat + 3) * c.mirrors.length := by
    rw [Nat.add_mul]
    omega
  refine Task.Makes.mono ?_ hmost
  refine (workingCopy_local now committed).makes.after fun k => ?_
  refine (updateRootChain_makes k).bind fun k => ?_
  exact Task.Makes.ite ((loadFloors_local k).makes.after finish_makes) (finish_makes k)

/-- A refresh makes one retrieval for each rotation of the root that is allowed, and three more. -/
theorem refresh_requests (c : Client ν κ) (now : Instant) (s : Session ν κ) :
    ∃ requests, requests.length ≤ (c.limits.maxRootRotations.toNat + 3) * c.mirrors.length ∧
      c.recorded.refresh now (s.noting []) =
        ((c.refresh now s).1, (c.refresh now s).2.noting requests) := by
  obtain ⟨requests, hrequests, hrun⟩ := runRefresh_makes now s.committed s.world []
  refine ⟨requests, hrequests, ?_⟩
  simp only [refresh, Session.noting, hrun, List.nil_append]
  cases c.runRefresh now s.committed s.world with
  | mk r w => cases r <;> rfl

/-! ### A look-up -/

/-- The same state of a search, where some requests have been made. -/
def LookupState.noting (s : LookupState ν κ) (requests : List Request) :
    LookupState (ν × List Request) κ :=
  (s.1, s.2.noting requests)

theorem loadDelegated_noting (role delegator : String) (s : LookupState ν κ)
    (requests : List Request) :
    c.recorded.loadDelegated role delegator (LookupState.noting s requests) =
      ((c.loadDelegated role delegator s).1,
        LookupState.noting (c.loadDelegated role delegator s).2 requests) := by
  simp only [loadDelegated, recorded, among, LookupState.noting, World.noting, World.withNet]
  cases c.store.load role s.2.cache with
  | mk r cache =>
    cases r with
    | error e => rfl
    | ok held =>
      cases held with
      | none => rfl
      | some bs =>
        simp only
        cases s.1.updateDelegated c.primitives bs role delegator .cache with
        | error e => rfl
        | ok t =>
          simp only
          by_cases hcurrent : t.isDelegatedCurrent c.primitives role = true
          · simp only [if_pos hcurrent]
            exact if_pos hcurrent
          · simp only [if_neg hcurrent]
            exact if_neg hcurrent

theorem fetchDelegated_makes (role delegator : String) (t : Trust) :
    Task.Makes c.mirrors.length (c.fetchDelegated role delegator t)
      (c.recorded.fetchDelegated role delegator t) := by
  unfold fetchDelegated
  cases t.snapshot.bind fun s => s.payload.pin? role with
  | none => exact Task.Local.fail.makes
  | some pin =>
    refine (fetchPinned_makes _ _ _ _ _).before fun found => ?_
    exact (Task.Local.bind .report fun _ => .bind (save_local _ _) fun _ => .pure).makes

/-- To ask for a role is one retrieval at most. -/
theorem delegatedTargets_notes (delegation : Delegation) (delegator : String) :
    Notes c.mirrors.length LookupState.noting (c.delegatedTargets delegation delegator)
      (c.recorded.delegatedTargets delegation delegator) := by
  intro s requests
  by_cases hcurrent : s.1.isDelegatedCurrent c.primitives delegation.name = true
  · refine ⟨[], Nat.zero_le _, ?_⟩
    rw [delegatedTargets_of_current hcurrent, List.append_nil]
    exact delegatedTargets_of_current hcurrent
  · have hload := loadDelegated_noting (c := c) delegation.name delegator s requests
    -- the recording client finds the same metadata current
    have hcurrent' : ¬ (LookupState.noting s requests).1.isDelegatedCurrent
        c.recorded.primitives delegation.name = true := hcurrent
    simp only [delegatedTargets, if_neg hcurrent, if_neg hcurrent', hload]
    obtain ⟨loaded, t, w⟩ := c.loadDelegated delegation.name delegator s
    cases loaded with
    | true => exact ⟨[], Nat.zero_le _, by rw [List.append_nil]; rfl⟩
    | false =>
      obtain ⟨more, hmore, hfetch⟩ := fetchDelegated_makes delegation.name delegator t w requests
      refine ⟨more, hmore, ?_⟩
      simp only [LookupState.noting, hfetch]
      cases c.fetchDelegated delegation.name delegator t w with
      | mk r w₁ => cases r <;> rfl

/-- A look-up is one retrieval for each role that its search asks for. -/
theorem lookup_requests (path : String) (t : Trust) (w : World ν κ) :
    ∃ requests, requests.length ≤ (c.limits.maxDelegations.toNat - 1) * c.mirrors.length ∧
      c.recorded.lookup path t (w.noting []) =
        ((c.lookup path t w).1, LookupState.noting (c.lookup path t w).2 requests) := by
  unfold lookup
  cases t.targets with
  | none => exact ⟨[], Nat.zero_le _, rfl⟩
  | some top =>
    obtain ⟨requests, hrequests, hrun⟩ :=
      Search.run_notes delegatedTargets_notes c.primitives c.searchBounds path top.payload (t, w) []
    refine ⟨requests, hrequests, ?_⟩
    have hrun : Search.run c.recorded.primitives c.recorded.searchBounds
        c.recorded.delegatedTargets path top.payload (t, w.noting []) = _ := hrun
    simp only [hrun]
    cases Search.run c.primitives c.searchBounds c.delegatedTargets path top.payload (t, w) with
    | mk r s => cases r <;> rfl

/-- The look-up of a target in what is committed does nothing else. -/
theorem targetInfo_requests (c : Client ν κ) (now : Instant) (path : String) (t : Trust)
    (w : World ν κ) :
    ∃ requests, requests.length ≤ (c.limits.maxDelegations.toNat - 1) * c.mirrors.length ∧
      c.recorded.targetInfo now path (Session.noting ⟨some t, w⟩ []) =
        ((c.targetInfo now path ⟨some t, w⟩).1,
          (c.targetInfo now path ⟨some t, w⟩).2.noting requests) := by
  obtain ⟨requests, hrequests, hlookup⟩ := lookup_requests (c := c) path t w
  refine ⟨requests, hrequests, ?_⟩
  show c.recorded.lookupCommitted path ⟨some t, w.noting []⟩ =
    ((c.lookupCommitted path ⟨some t, w⟩).1, (c.lookupCommitted path ⟨some t, w⟩).2.noting requests)
  simp only [lookupCommitted, hlookup]
  rfl

/-- Whatever the source answers, a search comes to its result after finitely many rounds, and its
calls are within its bounds. So whatever the mirrors and the store give, the look-up of a target in
what is committed asks each mirror at most once for every role that may be visited below the
top-level one, and a refresh at most once for every rotation of the root that is allowed and thrice
more: clients that keep a list of their requests do the same, and the list is no longer than that.
-/
theorem work_bounded (c : Client ν κ) (now : Instant) (path : String) :
    (∀ (σ : Type) (p : Primitives) (bounds : SearchBounds) (source : DelegationSource σ)
      (top : Targets) (s : σ),
      Search.Resolves p bounds source path top s (Search.run p bounds source path top s) ∧
        Search.Within p bounds path top
          (Search.callsOf (fun source => Search.run p bounds source path top) source s)) ∧
    (∀ t w, ∃ requests,
      requests.length ≤ (max c.limits.maxDelegations.toNat 1 - 1) * c.mirrors.length ∧
        c.recorded.targetInfo now path (Session.noting ⟨some t, w⟩ []) =
          ((c.targetInfo now path ⟨some t, w⟩).1,
            (c.targetInfo now path ⟨some t, w⟩).2.noting requests)) ∧
    ∀ s, ∃ requests,
      requests.length ≤ (c.limits.maxRootRotations.toNat + 3) * c.mirrors.length ∧
        c.recorded.refresh now (s.noting []) =
          ((c.refresh now s).1, (c.refresh now s).2.noting requests) := by
  refine ⟨fun σ p bounds source top s => ?_, fun t w => ?_, c.refresh_requests now⟩
  · exact ⟨Search.run_resolves p bounds source path top s,
      Search.calls_within p bounds source path top s⟩
  · obtain ⟨requests, hrequests, hinfo⟩ := c.targetInfo_requests now path t w
    have hroles : max c.limits.maxDelegations.toNat 1 - 1 = c.limits.maxDelegations.toNat - 1 := by
      omega
    exact ⟨requests, hroles ▸ hrequests, hinfo⟩

end Client

end SecureUpdate
