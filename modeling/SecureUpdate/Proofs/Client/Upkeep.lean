import SecureUpdate.Proofs.Client.Delegators
import SecureUpdate.Proofs.Client.Refresh
import SecureUpdate.Proofs.Trust.Run

/-!
What clients keep. The store may fail here, and may give anything. A property of the store that
loads and saves keep holds of it throughout a refresh or a look-up; the root is apart, since what is
saved as its bytes depends on what is trusted then. Where only the saves for some roles keep it, it
holds through the steps that save no others. A property of what is trusted that acceptances keep
holds throughout as well, and may count the rotations of the root so far.

Main statements: `refresh_keeps`, `lookup_keeps`.
-/

namespace SecureUpdate

variable {ν κ α β : Type}

/-! ### What steps keep -/

namespace Task

/-- Whether what a step came to leaves the store with a property, also if the step failed, and a
value with a property of its own. -/
def Leaves (K : κ → Prop) (P : α → Prop) (done : Except TrustError α × World ν κ) : Prop :=
  K done.2.cache ∧ ∀ x, done.1 = .ok x → P x

/-- Whether a step keeps a property of the store, and every value that it yields has a property of
its own. -/
def Keeps (K : κ → Prop) (a : Task ν κ α) (P : α → Prop) : Prop :=
  ∀ w, K w.cache → Leaves K P (a w)

variable {K : κ → Prop} {a : Task ν κ α} {f : α → Task ν κ β} {P P' : α → Prop} {Q : β → Prop}
  {w : World ν κ}

theorem Leaves.ok {x : α} (hw : K w.cache) (h : P x) : Leaves K P (.ok x, w) := by
  refine ⟨hw, ?_⟩
  rintro _ ⟨⟩
  exact h

theorem Leaves.error {e : TrustError} (hw : K w.cache) : Leaves K P (.error e, w) := by
  refine ⟨hw, ?_⟩
  rintro _ ⟨⟩

theorem Leaves.bind (ha : Leaves K P (a w)) (hf : ∀ x, P x → Keeps K (f x) Q) :
    Leaves K Q ((a >>= f) w) := by
  obtain ⟨hkept, hok⟩ := ha
  cases h : a w with
  | mk r w₁ =>
    rw [h] at hkept hok
    cases r with
    | ok x =>
      rw [bind_of_ok h]
      exact hf x (hok x rfl) w₁ hkept
    | error e =>
      rw [bind_of_error h]
      exact .error hkept

theorem Keeps.pure {x : α} (h : P x) : Keeps K (pure x : Task ν κ α) P := fun _ hw => .ok hw h

theorem Keeps.fail {e : TrustError} : Keeps K (Task.fail e : Task ν κ α) P := fun _ hw => .error hw

theorem Keeps.ofExcept {x : Except TrustError α} (h : ∀ y, x = .ok y → P y) :
    Keeps K (Task.ofExcept x : Task ν κ α) P := by
  cases x with
  | ok x => exact Keeps.pure (h x rfl)
  | error e => exact Keeps.fail

theorem Keeps.bind (ha : Keeps K a P) (hf : ∀ x, P x → Keeps K (f x) Q) : Keeps K (a >>= f) Q :=
  fun w hw => (ha w hw).bind hf

theorem Keeps.mono (h : Keeps K a P) (hP : ∀ x, P x → P' x) : Keeps K a P' := fun w hw =>
  ⟨(h w hw).1, fun x hx => hP x ((h w hw).2 x hx)⟩

theorem Keeps.mapError {g : TrustError → TrustError} (h : Keeps K a P) :
    Keeps K (a.mapError g) P := by
  intro w hw
  obtain ⟨hkept, hok⟩ := h w hw
  unfold Task.mapError
  cases hrun : a w with
  | mk r w₁ =>
    rw [hrun] at hkept hok
    cases r with
    | ok x => exact .ok hkept (hok x rfl)
    | error e => exact .error hkept

theorem Keeps.ite {q : Prop} [Decidable q] {b : Task ν κ α} (ha : Keeps K a P)
    (hb : Keeps K b P) : Keeps K (if q then a else b) P := by
  split
  · exact ha
  · exact hb

/-- To report leaves the store alone. -/
theorem Keeps.report {e : Event} : Keeps K (report e : Task ν κ Unit) fun _ => True :=
  fun _ hw => .ok hw trivial

end Task

/-- Whether everything that is accepted keeps a property of what is trusted, except perhaps a root.
-/
def Trust.KeptBelowRoot (p : Primitives) (I : Trust → Prop) : Prop :=
  ∀ t offer t', ¬ Offer.OfRoot offer → I t → t.attempt p offer = .ok t' → I t'

namespace Client

/-- Whether loads keep a property of the store, and saves do, except perhaps of bytes without the
property `R` as those of the root. -/
structure Guards (c : Client ν κ) (R : Bytes → Prop) (K : κ → Prop) : Prop where
  load : ∀ role k, K k → K (c.store.load role k).2
  save : ∀ role bs k, (role = Role.root.name → R bs) → K k → K (c.store.save role bs k).2

/-- Of any store there is nothing to keep. -/
theorem guards_trivial {c : Client ν κ} {R : Bytes → Prop} : c.Guards R fun _ => True :=
  ⟨fun _ _ _ => trivial, fun _ _ _ _ _ => trivial⟩

/-- Whether loads keep a property of the store, and saves for some roles do, those of the root with
the same exception. -/
structure GuardsOn (c : Client ν κ) (roles : Role → Prop) (R : Bytes → Prop) (K : κ → Prop) :
    Prop where
  load : ∀ role k, K k → K (c.store.load role k).2
  save : ∀ role bs k, roles role → (role = .root → R bs) → K k →
    K (c.store.save role.name bs k).2

theorem Guards.guardsOn {c : Client ν κ} {R : Bytes → Prop} {K : κ → Prop} (h : c.Guards R K) :
    c.GuardsOn (fun _ => True) R K where
  load := h.load
  save role bs k _ hR := h.save role.name bs k fun hname => hR (Role.name_injective hname)

section Steps

variable {c : Client ν κ} {roles : Role → Prop} {R : Bytes → Prop} {K : κ → Prop}
  {I : Trust → Prop} {k : Working} {w : World ν κ}

/-! ### Single steps -/

/-- A retrieval leaves the store alone, and what it gives was accepted. -/
theorem fetchAccepted_keeps {file : String} {maxLength : UInt64}
    {accept : Bytes → Trust → Except TrustError Trust} {t : Trust} :
    Task.Keeps K (c.fetchAccepted file maxLength accept t) fun found =>
      accept found.1 t = .ok found.2 := by
  intro w hw
  cases h : c.fetchAccepted file maxLength accept t w with
  | mk r w' =>
    cases r with
    | ok found =>
      obtain ⟨haccept, net, rfl⟩ := fetchAccepted_ok h
      exact .ok hw haccept
    | error e =>
      obtain ⟨net, rfl⟩ := fetchAccepted_error h
      exact .error hw

theorem fetchPinned_keeps {role : String} {pin : Pin} {cap : UInt64}
    {accept : Bytes → Trust → Except TrustError Trust} {t : Trust} :
    Task.Keeps K (c.fetchPinned role pin cap accept t) fun found =>
      accept found.1 t = .ok found.2 :=
  fetchAccepted_keeps.mapError

variable (hK : c.GuardsOn roles R K)
include hK

theorem loadCached_leaves (role : String) (hw : K w.cache) :
    Task.Leaves K (fun held => ∀ bs, (c.store.load role w.cache).1 = .ok (some bs) ↔
      held = some bs) (c.loadCached role w) := by
  have hload := hK.load role w.cache hw
  unfold loadCached
  split
  · rename_i hresult
    rw [hresult] at hload ⊢
    exact .ok hload fun bs => by simp
  · rename_i hresult
    rw [hresult] at hload ⊢
    exact .ok hload fun bs => by simp

theorem persist_keeps {role : Role} {bs : Bytes} (hrole : roles role) (hR : role = .root → R bs)
    (k : Working) : Task.Keeps K (c.persist role bs k) fun k' => k'.trust = k.trust := by
  refine Task.Keeps.bind (P := fun _ => True) (fun w hw => ?_) fun _ _ => .pure rfl
  obtain ⟨failure, hsave⟩ := c.save_world role.name bs w
  rw [hsave]
  exact .ok (hK.save role bs w.cache hrole hR hw) trivial

/-! ### The steps of a refresh below the root -/

section Below

variable (hI : Trust.KeptBelowRoot c.primitives I)
include hI

/-- To retrieve metadata that is accepted as an offer below the root, and to report and save it. -/
theorem retrieve_keeps (role : Role) (version : Trust → UInt64) (offer : Bytes → Trust.Offer)
    {fetch : Task ν κ (Bytes × Trust)} (hrole : roles role) (hbelow : role ≠ .root)
    (hoffer : ∀ bs, ¬ (offer bs).OfRoot)
    (hfetch : Task.Keeps K fetch fun found =>
      k.trust.attempt c.primitives (offer found.1) = .ok found.2) (h : I k.trust) :
    Task.Keeps K (fetch >>= fun found =>
      c.noteAccepted role (version found.2) found.1 { k with trust := found.2 })
      fun k' => I k'.trust := by
  refine hfetch.bind fun found haccept => ?_
  have htrust : I found.2 := hI _ _ _ (hoffer _) h haccept
  refine Task.Keeps.bind .report fun _ _ => ?_
  refine (persist_keeps hK hrole (absurd · hbelow) _).mono fun k' hk' => ?_
  rw [hk']
  exact htrust

theorem loadFloor_keeps (role : Role) (offer : Bytes → Trust.Offer)
    {accept : Bytes → Trust → Except TrustError Trust} (hoffer : ∀ bs, ¬ (offer bs).OfRoot)
    (haccept : ∀ bs t, t.attempt c.primitives (offer bs) = accept bs t) (h : I k.trust) :
    Task.Keeps K (c.loadFloor role accept k) fun k' => I k'.trust := by
  intro w hw
  refine (loadCached_leaves hK role.name hw).bind fun held _ => ?_
  cases held with
  | none => exact .pure h
  | some bs =>
    simp only
    split
    · rename_i t hok
      exact .pure (hI _ _ _ (hoffer bs) h ((haccept bs _).trans hok))
    · exact .pure h

theorem loadFloors_keeps (h : I k.trust) : Task.Keeps K (c.loadFloors k) fun k' => I k'.trust := by
  refine (loadFloor_keeps hK hI .timestamp (.timestamp · .cache) (fun _ => id) (fun _ _ => rfl)
    h).bind fun k h => ?_
  refine (loadFloor_keeps hK hI .snapshot (.snapshot · .cache) (fun _ => id) (fun _ _ => rfl)
    h).bind fun k h => ?_
  exact loadFloor_keeps hK hI .targets (.targets · .cache) (fun _ => id) (fun _ _ => rfl) h

theorem updateTimestamp_keeps (hrole : roles .timestamp) (h : I k.trust) :
    Task.Keeps K (c.updateTimestamp k) fun k' => I k'.trust :=
  retrieve_keeps hK hI .timestamp (fun t => (t.timestamp.map (·.version)).getD 0)
    (.timestamp · .remote) hrole nofun (fun _ => id) fetchAccepted_keeps h

theorem pass_keeps {pinned : PinnedRole} (hrole : roles pinned.role) (h : I k.trust) :
    Task.Keeps K (c.pass pinned k) fun k' => I k'.trust := by
  have hbelow (bs : Bytes) : ¬ (Trust.Offer.below pinned.role bs .remote).OfRoot :=
    Trust.Offer.not_ofRoot_below pinned.below_root
  refine .ite (.pure h) ?_
  refine Task.Keeps.bind (.ofExcept fun _ _ => trivial) fun pin _ => ?_
  exact retrieve_keeps hK hI pinned.role (fun _ => pin.version) (.below pinned.role · .remote)
    hrole pinned.below_root hbelow fetchPinned_keeps h

/-- What follows the floors ends in a chain that is checked. -/
theorem finish_keeps (hroles : ∀ role, roles role) (h : I k.trust) :
    Task.Keeps K (c.updateTimestamp k >>= fun k => c.updateSnapshot k >>= fun k =>
      c.updateTargets k >>= fun k =>
        Task.ofExcept (k.trust.checkConsistent c.primitives) >>= fun _ => pure k) fun k' =>
      I k'.trust ∧ k'.trust.checkConsistent c.primitives = .ok () := by
  rw [updateSnapshot_eq_pass, updateTargets_eq_pass]
  refine (updateTimestamp_keeps hK hI (hroles _) h).bind fun k h => ?_
  refine (pass_keeps hK hI (hroles _) h).bind fun k h => ?_
  refine (pass_keeps hK hI (hroles _) h).bind fun k h => ?_
  exact Task.Keeps.bind (.ofExcept fun _ hcheck => hcheck) fun _ hcheck => .pure ⟨h, hcheck⟩

end Below

end Steps

/-! ### The chain of roots -/

/-- Whether the store gives no root that could be trusted first. -/
def Unrooted (c : Client ν κ) (now : Instant) (w : World ν κ) : Prop :=
  ∀ bs, (c.store.load Role.root.name w.cache).1 = .ok (some bs) →
    ∀ t, (Trust.initial now).loadRoot c.primitives bs ≠ .ok t

/-- What is known of a refresh from a session: a property `J` of what is trusted, which counts the
rotations of the root so far, and a property `R` of the bytes that are saved as the root's. -/
structure Upholds (c : Client ν κ) (now : Instant) (s : Session ν κ) (R : Bytes → Prop)
    (J : Nat → Trust → Prop) : Prop where
  resumed : ∀ t, s.committed = some t → J 0 { t with now }
  cached : s.committed = none → ∀ bs t,
    (c.store.load Role.root.name s.world.cache).1 = .ok (some bs) →
      (Trust.initial now).loadRoot c.primitives bs = .ok t → J 0 t
  initial : s.committed = none → c.Unrooted now s.world → ∀ t,
    (Trust.initial now).loadRoot c.primitives c.initialRoot = .ok t → J 0 t ∧ R c.initialRoot
  rotated : ∀ n < c.limits.maxRootRotations.toNat, ∀ bs t t', J n t →
    t.updateRoot c.primitives bs = .ok t' → J (n + 1) t' ∧ R bs
  below : ∀ n, Trust.KeptBelowRoot c.primitives (J n)

/-- Of any refresh nothing need be known. -/
theorem upholds_trivial (c : Client ν κ) (now : Instant) (s : Session ν κ) :
    c.Upholds now s (fun _ => True) fun _ _ => True where
  resumed _ _ := trivial
  cached _ _ _ _ _ := trivial
  initial _ _ _ _ := ⟨trivial, trivial⟩
  rotated _ _ _ _ _ _ _ := ⟨trivial, trivial⟩
  below _ _ _ _ _ _ _ := trivial

/-- What is known of a refresh after some rotation is kept by all that may follow them. -/
theorem Upholds.keptBelowRoot {c : Client ν κ} {R : Bytes → Prop} {J : Nat → Trust → Prop}
    {now : Instant} {s : Session ν κ} (hJ : c.Upholds now s R J) :
    Trust.KeptBelowRoot c.primitives fun t =>
      ∃ n ≤ c.limits.maxRootRotations.toNat, J n t := by
  rintro t offer t' hoffer ⟨n, hn, ht⟩ haccept
  exact ⟨n, hn, hJ.below n t offer t' hoffer ht haccept⟩

section Roots

variable {c : Client ν κ} {roles : Role → Prop} {R : Bytes → Prop} {K : κ → Prop}
  {J : Nat → Trust → Prop} {now : Instant} {s : Session ν κ}

section Rotations

variable (hK : c.GuardsOn roles R K) (hroot : roles .root) (hJ : c.Upholds now s R J)
include hK hroot hJ

theorem startFromInitial_keeps (hcold : s.committed = none) (hunrooted : c.Unrooted now s.world) :
    Task.Keeps K (c.startFromInitial now) fun k => J 0 k.trust := by
  refine (Task.Keeps.ofExcept (hJ.initial hcold hunrooted)).bind fun t ht => ?_
  refine (persist_keeps hK hroot (fun _ => ht.2) _).mono fun k hk => ?_
  rw [hk]
  exact ht.1

theorem workingCopy_leaves (hs : K s.world.cache) :
    Task.Leaves K (fun k => J 0 k.trust) (c.workingCopy now s.committed s.world) := by
  cases hcommitted : s.committed with
  | some t => exact .ok hs (hJ.resumed t hcommitted)
  | none =>
    refine (loadCached_leaves hK Role.root.name hs).bind fun held hheld => ?_
    cases held with
    | none =>
      refine startFromInitial_keeps hK hroot hJ hcommitted fun bs hbs => ?_
      cases (hheld bs).1 hbs
    | some bs =>
      simp only
      split
      · rename_i t haccept
        exact .pure (hJ.cached hcommitted bs t ((hheld bs).2 rfl) haccept)
      · rename_i e hrefused
        refine startFromInitial_keeps hK hroot hJ hcommitted fun bs' hbs' t haccept => ?_
        cases (hheld bs').1 hbs'
        cases hrefused.symm.trans haccept

/-- Each rotation is accepted on top of those before it, and its root is saved. -/
theorem rotateRoots_keeps (steps n : Nat) {k : Working} (h : J n k.trust)
    (hsteps : n + steps ≤ c.limits.maxRootRotations.toNat) :
    Task.Keeps K (c.rotateRoots steps k) fun k' =>
      ∃ m ≤ c.limits.maxRootRotations.toNat, J m k'.trust := by
  induction steps generalizing n k with
  | zero => exact .pure ⟨n, hsteps, h⟩
  | succ steps ih =>
    intro w hw
    simp only [rotateRoots]
    split
    · rename_i e w₁ hfetch
      obtain ⟨net, rfl⟩ := fetchAccepted_error hfetch
      split
      · exact .ok hw ⟨n, by omega, h⟩
      · exact .error hw
    · rename_i bs t w₁ hfetch
      obtain ⟨haccept, net, rfl⟩ := fetchAccepted_ok hfetch
      obtain ⟨ht, hbs⟩ := hJ.rotated n (by omega) bs _ t h haccept
      refine Task.Leaves.bind (P := fun k => k.trust = t) ?_ (fun k hk => ?_)
      · refine Task.Keeps.bind .report (fun _ _ => Task.Keeps.bind .report fun _ _ => ?_) _ hw
        exact persist_keeps hK hroot (fun _ => hbs) _
      · exact ih (n + 1) (hk ▸ ht) (by omega)

theorem updateRootChain_keeps {k : Working} (h : J 0 k.trust) :
    Task.Keeps K (c.updateRootChain k) fun k' =>
      ∃ n ≤ c.limits.maxRootRotations.toNat, J n k'.trust := by
  refine (rotateRoots_keeps hK hroot hJ _ 0 h (by omega)).bind fun k h => ?_
  exact Task.Keeps.bind (.ofExcept fun _ _ => trivial) fun _ _ => .pure h

end Rotations

variable (hK : c.Guards R K) (hJ : c.Upholds now s R J)
include hK hJ

/-- What is known of a refresh holds at its end, and the chain of roles is checked. -/
theorem runRefresh_leaves (hs : K s.world.cache) :
    Task.Leaves K (fun k => (∃ n ≤ c.limits.maxRootRotations.toNat, J n k.trust) ∧
      k.trust.checkConsistent c.primitives = .ok ()) (c.runRefresh now s.committed s.world) := by
  have hK := hK.guardsOn
  have hbelow := hJ.keptBelowRoot
  refine (workingCopy_leaves hK trivial hJ hs).bind fun k h => ?_
  refine (updateRootChain_keeps hK trivial hJ h).bind fun k h => ?_
  dsimp only
  -- floors are loaded only when nothing was committed
  split
  · exact (loadFloors_keeps hK hbelow h).bind fun k h =>
      finish_keeps hK hbelow (fun _ => trivial) h
  · exact finish_keeps hK hbelow (fun _ => trivial) h

/-- A refresh leaves what is committed as it was, or commits a checked chain of which all that is
known of the refresh holds; also when it then reports that a save failed. -/
theorem refresh_keeps (hs : K s.world.cache) :
    K (c.refresh now s).2.world.cache ∧
      ((c.refresh now s).2.committed = s.committed ∨
        ∃ t, (c.refresh now s).2.committed = some t ∧
          (∃ n ≤ c.limits.maxRootRotations.toNat, J n t) ∧
            t.checkConsistent c.primitives = .ok ()) := by
  obtain ⟨hkept, hok⟩ := runRefresh_leaves hK hJ hs
  unfold refresh
  split
  · rename_i hrun
    rw [hrun] at hkept
    exact ⟨hkept, .inl rfl⟩
  · rename_i k w hrun
    rw [hrun] at hkept hok
    exact ⟨hkept, .inr ⟨k.trust, rfl, hok k rfl⟩⟩

end Roots

/-! ### Look-ups -/

section Lookup

variable {c : Client ν κ} {R : Bytes → Prop} {K : κ → Prop} {I : Trust → Prop}
  (hK : c.Guards R K) (hR : ∀ bs m, Signed.parseAs c.primitives Targets bs = .ok m → R bs)
  (hI : Trust.KeptBelowRoot c.primitives I)
include hK hR hI

/-- One ask for a delegated role, whose metadata may be saved under any name. -/
theorem delegatedTargets_keeps (delegation : Delegation) (delegator : String)
    {s : LookupState ν κ} (h : I s.1 ∧ K s.2.cache) :
    I (c.delegatedTargets delegation delegator s).2.1 ∧
      K (c.delegatedTargets delegation delegator s).2.2.cache := by
  cases hcurrent : s.1.isDelegatedCurrent c.primitives delegation.name with
  | true =>
    rw [delegatedTargets_of_current hcurrent]
    exact h
  | false =>
    have hload := hK.load delegation.name s.2.cache h.2
    have hasked := delegatedTargets_asked delegation delegator hcurrent
    generalize c.delegatedTargets delegation delegator s = asked at hasked
    cases hasked with
    | @loaded bs t haccept =>
      exact ⟨hI s.1 (.delegated bs delegation.name delegator .cache) t id h.1 haccept, hload⟩
    | @fetched bs t version net haccept =>
      refine ⟨hI s.1 (.delegated bs delegation.name delegator .remote) t id h.1 haccept, ?_⟩
      obtain ⟨snapshot, m, hm, -⟩ := Trust.updateDelegated_eq_ok_iff.1 haccept
      exact hK.save delegation.name bs _ (fun _ => hR bs m hm.read) hload
    | failed e net => exact ⟨h.1, hload⟩

theorem asks_keep (asks : List (Delegation × String)) {s : LookupState ν κ}
    (h : I s.1 ∧ K s.2.cache) :
    I (c.after s (asks.map fun ask => .ask ask.1 ask.2)).1 ∧
      K (c.after s (asks.map fun ask => .ask ask.1 ask.2)).2.cache := by
  induction asks generalizing s with
  | nil => exact h
  | cons ask asks ih => exact ih (delegatedTargets_keeps hK hR hI ask.1 ask.2 h)

theorem lookup_keeps (path : String) {t : Trust} {w : World ν κ} (ht : I t) (hw : K w.cache) :
    I (c.lookup path t w).2.1 ∧ K (c.lookup path t w).2.2.cache := by
  obtain ⟨asks, -, hasks⟩ := c.lookup_asks path (t, w)
  rw [hasks]
  exact asks_keep hK hR hI asks ⟨ht, hw⟩

end Lookup

end Client

end SecureUpdate
