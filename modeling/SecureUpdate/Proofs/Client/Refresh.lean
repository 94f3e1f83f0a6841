import SecureUpdate.Proofs.Client.Moves
import SecureUpdate.Proofs.Client.Retrieval

/-!
The course of a refresh, over a store that never fails. From where it starts it first follows the
chain of roots; a cold one then accepts what the store holds below the root; from there on
everything that is accepted comes from the mirrors and is saved at once. Snapshot and targets are
each pinned by the role above, and are brought up to date in one and the same way. A refresh that
fails stops somewhere on this course, and what it did to the world stays.

Main statement: `refresh_course`.
-/

namespace SecureUpdate.Client

variable {ν κ : Type} {c : Client ν κ} {view : κ → String → Option Bytes} {k k' : Working}
  {w w' : World ν κ} {P : Trust.Offer → Prop}

/-! ### The store -/

theorem loadCached_eq (hstore : c.store.Reliable view) (role : String) (w : World ν κ) : ∃ cache,
    c.loadCached role w = (.ok (view w.cache role), { w with cache }) ∧
      view cache = view w.cache := by
  obtain ⟨cache, hload, hview⟩ := hstore.load role w.cache
  exact ⟨cache, by rw [loadCached, hload], hview⟩

section Store

variable (hstore : c.store.Writable view)
include hstore

theorem persist_eq (role : Role) (bs : Bytes) (k : Working) (w : World ν κ) : ∃ cache,
    c.persist role bs k w = (.ok k, { w with cache }) ∧
      ∀ other, view cache other = if role.name = other then some bs else view w.cache other := by
  obtain ⟨cache, hsave, hview⟩ := hstore.save role.name bs w.cache
  refine ⟨cache, ?_, hview⟩
  have hsaved : c.save role.name bs w = (.ok none, { w with cache }) := by rw [save, hsave]
  rw [persist, Task.bind_of_ok hsaved, Option.or_none]
  rfl

theorem noteAccepted_eq (role : Role) (version : UInt64) (bs : Bytes) (k : Working)
    (w : World ν κ) : ∃ cache,
    c.noteAccepted role version bs k w =
      (.ok k, { w with events := w.events ++ [.accepted role.name version], cache }) ∧
      ∀ other, view cache other = if role.name = other then some bs else view w.cache other := by
  rw [noteAccepted, Task.bind_of_ok (report_eq _ w)]
  exact persist_eq hstore role bs k _

end Store

/-! ### Steps that only move -/

/-- A step from `k` that changes nothing but what is trusted, by moves with the offers `P`. What it
did to the world stays when it fails. -/
def Follows (c : Client ν κ) (view : κ → String → Option Bytes) (P : Trust.Offer → Prop)
    (k : Working) (w : World ν κ) (done : Except TrustError Working × World ν κ) : Prop :=
  ∃ t, Moves c.primitives view P (k.trust, w) (t, done.2) ∧
    ∀ k', done.1 = .ok k' → k' = { k with trust := t }

namespace Follows

theorem stop (k : Working) (w : World ν κ) : Follows c view P k w (.ok k, w) := by
  refine ⟨k.trust, .refl, ?_⟩
  rintro _ ⟨⟩
  rfl

theorem fail (k : Working) {net : ν} {e : TrustError} :
    Follows c view P k w (.error e, { w with net }) := by
  refine ⟨k.trust, .of_move (.idle rfl rfl), ?_⟩
  rintro _ ⟨⟩

/-- A step and then another one. -/
theorem bind {a : Task ν κ Working} {f : Working → Task ν κ Working}
    (ha : Follows c view P k w (a w')) (hf : ∀ k w, Follows c view P k w (f k w)) :
    Follows c view P k w ((a >>= f) w') := by
  obtain ⟨t, hmoves, hok⟩ := ha
  cases h : a w' with
  | mk r w₁ =>
    rw [h] at hmoves hok
    cases r with
    | error e =>
      rw [Task.bind_of_error h]
      refine ⟨t, hmoves, ?_⟩
      rintro _ ⟨⟩
    | ok k₁ =>
      rw [Task.bind_of_ok h, hok k₁ rfl]
      obtain ⟨t', hmoves', hok'⟩ := hf { k with trust := t } w₁
      exact ⟨t', hmoves.trans hmoves', hok'⟩

/-- A check that yields nothing. -/
theorem check {x : Except TrustError Unit} :
    Follows c view P k w ((Task.ofExcept x >>= fun _ => pure k) w) := by
  cases x with
  | ok u =>
    rw [Task.bind_of_ok Task.ofExcept_ok]
    exact stop k w
  | error e =>
    rw [Task.bind_of_error Task.ofExcept_error]
    exact fail k

/-- To retrieve metadata of a role below the root, and to report and save it. In the end what is
held for the role is what the store holds. -/
theorem retrieve (hstore : c.store.Reliable view) (role : Role) (version : Trust → UInt64)
    {fetch : Task ν κ (Bytes × Trust)} (hrole : role ≠ .root)
    (hoffer : ∀ bs, P (.below role bs .remote))
    (hok : ∀ bs t w', fetch w = (.ok (bs, t), w') →
      k.trust.attempt c.primitives (.below role bs .remote) = .ok t ∧ ∃ net, w' = { w with net })
    (herror : ∀ e w', fetch w = (.error e, w') → ∃ net, w' = { w with net }) :
    let done := (fetch >>= fun found =>
      c.noteAccepted role (version found.2) found.1 { k with trust := found.2 }) w
    Follows c view P k w done ∧ ∀ k', done.1 = .ok k' → ∃ bs,
      k'.trust.bytesOf role.name = some bs ∧ view done.2.cache role.name = some bs := by
  intro done
  simp only [done]
  cases hfetch : fetch w with
  | mk r w₁ =>
    cases r with
    | error e =>
      rw [Task.bind_of_error hfetch]
      obtain ⟨net, rfl⟩ := herror e w₁ hfetch
      refine ⟨fail k, ?_⟩
      rintro _ ⟨⟩
    | ok found =>
      obtain ⟨bs, t⟩ := found
      rw [Task.bind_of_ok hfetch]
      obtain ⟨haccept, net, rfl⟩ := hok bs t w₁ hfetch
      obtain ⟨cache, hnote, hview⟩ :=
        noteAccepted_eq hstore.writable role (version t) bs { k with trust := t } { w with net }
      rw [hnote]
      refine ⟨⟨t, .of_move (.saved (Trust.Offer.subject_below role bs _) (hoffer bs) haccept hview
        rfl ?_), ?_⟩, ?_⟩
      · rintro ⟨bs', h⟩
        exact absurd h (Trust.Offer.below_ne_root hrole)
      · rintro _ ⟨⟩
        rfl
      · rintro _ ⟨⟩
        refine ⟨bs, Trust.bytesOf_of_attempt (Trust.Offer.subject_below role bs _) haccept, ?_⟩
        rw [hview, if_pos rfl]

end Follows

/-! ### Pinned roles -/

/-- What a refresh needs to know of a pinned role: whether what is held for it is current, where the
pin stands, and how long the metadata may be if the pin does not say. -/
structure PinnedRole where
  role : Role
  below_root : role ≠ .root
  cap : UInt64
  isCurrent : Trust → Bool
  pin : Trust → Except TrustError Pin

/-- To accept what a mirror sends for a pinned role. -/
def PinnedRole.accept (pinned : PinnedRole) (p : Primitives) (bs : Bytes) (t : Trust) :
    Except TrustError Trust :=
  t.attempt p (.below pinned.role bs .remote)

/-- To bring a pinned role up to date, unless it is current. -/
def pass (c : Client ν κ) (pinned : PinnedRole) (k : Working) : Task ν κ Working :=
  if pinned.isCurrent k.trust then pure k
  else Task.ofExcept (pinned.pin k.trust) >>= fun pin =>
    c.fetchPinned pinned.role.name pin pinned.cap (pinned.accept c.primitives) k.trust >>=
      fun found => c.noteAccepted pinned.role pin.version found.1 { k with trust := found.2 }

def pinnedSnapshot (c : Client ν κ) : PinnedRole where
  role := .snapshot
  below_root := nofun
  cap := c.limits.snapshotSizeCap
  isCurrent t := t.isSnapshotCurrent c.primitives
  pin t :=
    match t.timestamp with
    | none => .error (t.tooEarly Role.snapshot.name)
    | some timestamp => Trust.requireSnapshotPin timestamp.payload

def pinnedTargets (c : Client ν κ) : PinnedRole where
  role := .targets
  below_root := nofun
  cap := c.limits.targetsSizeCap
  isCurrent t := t.isTargetsCurrent c.primitives
  pin t :=
    match t.snapshot with
    | none => .error (t.tooEarly Role.targets.name)
    | some snapshot => requireTargetsPin snapshot.payload Role.targets.name

theorem updateSnapshot_eq_pass (c : Client ν κ) : c.updateSnapshot = c.pass c.pinnedSnapshot := by
  funext k
  unfold updateSnapshot pass
  simp only [pinnedSnapshot]
  cases k.trust.timestamp <;> rfl

theorem updateTargets_eq_pass (c : Client ν κ) : c.updateTargets = c.pass c.pinnedTargets := by
  funext k
  unfold updateTargets pass
  simp only [pinnedTargets]
  cases k.trust.snapshot <;> rfl

theorem pinnedSnapshot_pin_eq_ok_iff {t : Trust} {pin : Pin} :
    c.pinnedSnapshot.pin t = .ok pin ↔ ∃ timestamp, t.timestamp = some timestamp ∧
      Trust.requireSnapshotPin timestamp.payload = .ok pin := by
  simp only [pinnedSnapshot]
  cases t.timestamp <;> simp

theorem pinnedTargets_pin_eq_ok_iff {t : Trust} {pin : Pin} :
    c.pinnedTargets.pin t = .ok pin ↔ ∃ snapshot, t.snapshot = some snapshot ∧
      requireTargetsPin snapshot.payload Role.targets.name = .ok pin := by
  simp only [pinnedTargets]
  cases t.snapshot <;> simp

/-! ### The steps of a refresh -/

/-- Offers along the chain of roots, which starts with the root that the store held or with the
initial one. -/
def Rooting (c : Client ν κ) (held : String → Option Bytes) : Trust.Offer → Prop
  | .firstRoot bs => bs = c.initialRoot ∨ held Role.root.name = some bs
  | .root _ => True
  | _ => False

/-- Offers from the mirrors below the root. -/
def Advancing : Trust.Offer → Prop
  | .timestamp _ origin | .snapshot _ origin | .targets _ origin => origin = .remote
  | _ => False

theorem advancing_below {role : Role} (h : role ≠ .root) (bs : Bytes) :
    Advancing (.below role bs .remote) := by
  cases role with
  | root => exact absurd rfl h
  | _ => rfl

section Steps

variable (hstore : c.store.Reliable view)
include hstore

theorem rotateRoots_follows {held : String → Option Bytes} (steps : Nat) (k : Working)
    (w : World ν κ) : Follows c view (Rooting c held) k w (c.rotateRoots steps k w) := by
  induction steps generalizing k w with
  | zero => exact .stop k w
  | succ steps ih =>
    simp only [rotateRoots]
    split
    · rename_i e w₁ hfetch
      obtain ⟨net, rfl⟩ := fetchAccepted_error hfetch
      split
      · refine ⟨k.trust, .of_move (.idle rfl rfl), ?_⟩
        rintro _ ⟨⟩
        rfl
      · exact .fail k
    · rename_i bs t w₁ hfetch
      obtain ⟨haccept, net, rfl⟩ := fetchAccepted_ok hfetch
      refine Follows.bind (w := w) ?_ ih
      rw [Task.bind_of_ok (report_eq _ _), Task.bind_of_ok (report_eq _ _)]
      obtain ⟨cache, hpersist, hview⟩ := persist_eq hstore.writable .root bs { k with trust := t } {
        w with
        net
        events := w.events ++ [.accepted Role.root.name (nextRootVersion k.trust)] ++
          [.rotated (nextRootVersion k.trust)] }
      rw [hpersist]
      have hsubject : Trust.Offer.subject (.root bs) = some (.root, bs) := rfl
      refine ⟨t, .of_move (.saved hsubject trivial haccept hview (List.append_assoc _ _ _) ?_), ?_⟩
      · exact fun _ => ⟨_, List.mem_append_right _ List.mem_cons_self⟩
      · rintro _ ⟨⟩
        rfl

theorem updateRootChain_follows {held : String → Option Bytes} (k : Working) (w : World ν κ) :
    Follows c view (Rooting c held) k w (c.updateRootChain k w) :=
  .bind (rotateRoots_follows hstore _ k w) fun _ _ => .check

/-- The timestamp is always retrieved, so in the end the store holds the one that is trusted. -/
theorem updateTimestamp_follows (k : Working) (w : World ν κ) :
    Follows c view Advancing k w (c.updateTimestamp k w) ∧
      ∀ k', (c.updateTimestamp k w).1 = .ok k' → ∃ bs,
        k'.trust.bytesOf Role.timestamp.name = some bs ∧
          view (c.updateTimestamp k w).2.cache Role.timestamp.name = some bs := by
  refine Follows.retrieve hstore .timestamp (fun t => (t.timestamp.map (·.version)).getD 0) nofun
    (fun _ => rfl) ?_ ?_
  · exact fun _ _ _ => fetchAccepted_ok
  · exact fun _ _ => fetchAccepted_error

/-- A pinned role moves by what mirrors send for it, if by anything. -/
theorem pass_follows (pinned : PinnedRole) (k : Working) (w : World ν κ) :
    Follows c view Advancing k w (c.pass pinned k w) := by
  unfold pass
  split
  · exact .stop k w
  · cases pinned.pin k.trust with
    | error e =>
      rw [Task.bind_of_error Task.ofExcept_error]
      exact .fail k
    | ok pin =>
      rw [Task.bind_of_ok Task.ofExcept_ok]
      refine (Follows.retrieve hstore pinned.role (fun _ => pin.version) pinned.below_root
        (advancing_below pinned.below_root) ?_ ?_).1
      · exact fun _ _ _ => fetchPinned_ok
      · exact fun _ _ => fetchPinned_error

end Steps

/-! ### Where a refresh starts -/

/-- What a refresh starts from: what is committed, judged at a new time, or nothing. -/
def start (now : Instant) : Option Trust → Working
  | some trust => { trust := { trust with now }, cold := false, saveError := none }
  | none => { trust := .initial now, cold := true, saveError := none }

/-- What the store holds for a role below the root, as an offer. -/
def floor (held : String → Option Bytes) (role : Role) : List Trust.Offer :=
  ((held role.name).map fun bs => .below role bs .cache).toList

/-- What the store holds below the root, as offers in the order of the chain. -/
def floors (held : String → Option Bytes) : List Trust.Offer :=
  floor held .timestamp ++ floor held .snapshot ++ floor held .targets

section Start

variable (hstore : c.store.Reliable view)
include hstore

theorem startFromInitial_follows (now : Instant) (w : World ν κ) {cache : κ}
    (hcache : view cache = view w.cache) :
    Follows c view (Rooting c (view w.cache)) (start now none) w
      (c.startFromInitial now { w with cache }) := by
  rw [startFromInitial]
  cases haccept : (Trust.initial now).loadRoot c.primitives c.initialRoot with
  | error e =>
    rw [Task.bind_of_error Task.ofExcept_error]
    refine ⟨Trust.initial now, .of_move (.idle hcache rfl), ?_⟩
    rintro _ ⟨⟩
  | ok t =>
    rw [Task.bind_of_ok Task.ofExcept_ok]
    obtain ⟨cache', hpersist, hview⟩ := persist_eq hstore.writable .root c.initialRoot
      { trust := t, cold := true, saveError := none } { w with cache }
    rw [hpersist]
    have hsubject : Trust.Offer.subject (.firstRoot c.initialRoot) = some (.root, c.initialRoot) :=
      rfl
    refine ⟨t, .of_move (.saved hsubject (.inl rfl) haccept ?_ (List.append_nil _).symm ?_), ?_⟩
    · intro other
      rw [hview, hcache]
    · rintro ⟨bs, ⟨⟩⟩
    · rintro _ ⟨⟩
      rfl

theorem workingCopy_follows (now : Instant) (committed : Option Trust) (w : World ν κ) :
    Follows c view (Rooting c (view w.cache)) (start now committed) w
      (c.workingCopy now committed w) := by
  cases committed with
  | some trust => exact .stop _ w
  | none =>
    obtain ⟨cache, hload, hcache⟩ := loadCached_eq hstore Role.root.name w
    show Follows c view (Rooting c (view w.cache)) (start now none) w (c.startCold now w)
    rw [startCold, Task.bind_of_ok hload]
    cases hheld : view w.cache Role.root.name with
    | none => exact startFromInitial_follows hstore now w hcache
    | some bs =>
      simp only
      cases haccept : (Trust.initial now).loadRoot c.primitives bs with
      | error e => exact startFromInitial_follows hstore now w hcache
      | ok t =>
        have hidle : Moves c.primitives view (Rooting c (view w.cache)) (Trust.initial now, w)
          (Trust.initial now, { w with cache }) := .of_move (.idle hcache rfl)
        have hsubject : Trust.Offer.subject (.firstRoot bs) = some (.root, bs) := rfl
        refine ⟨t, hidle.trans (.of_move (.cached hsubject (.inr hheld) nofun ?_ haccept)), ?_⟩
        · exact (congrFun hcache _).trans hheld
        · rintro _ ⟨⟩
          rfl

theorem loadFloor_eq {held : String → Option Bytes} (role : Role) (k : Working)
    (hheld : view w.cache = held) : ∃ cache,
    c.loadFloor role (fun bs t => t.attempt c.primitives (.below role bs .cache)) k w =
      (.ok { k with trust := k.trust.run c.primitives (floor held role) }, { w with cache }) ∧
      view cache = held := by
  obtain ⟨cache, hload, hcache⟩ := loadCached_eq hstore role.name w
  refine ⟨cache, ?_, hcache.trans hheld⟩
  rw [loadFloor, Task.bind_of_ok hload, floor, hheld]
  cases held role.name with
  | none => rfl
  | some bs =>
    simp only [Option.map_some, Option.toList_some, Trust.run_cons, Trust.run_nil, Trust.step]
    cases k.trust.attempt c.primitives (.below role bs .cache) <;> rfl

/-- A cold refresh accepts what the store holds below the root, as far as it is acceptable. -/
theorem loadFloors_eq (k : Working) (w : World ν κ) : ∃ cache,
    c.loadFloors k w =
      (.ok { k with trust := k.trust.run c.primitives (floors (view w.cache)) },
        { w with cache }) ∧ view cache = view w.cache := by
  obtain ⟨cache₁, htimestamp, hcache₁⟩ := loadFloor_eq hstore .timestamp k (w := w) rfl
  obtain ⟨cache₂, hsnapshot, hcache₂⟩ := loadFloor_eq hstore .snapshot
    { k with trust := k.trust.run c.primitives (floor (view w.cache) .timestamp) }
    (w := { w with cache := cache₁ }) hcache₁
  obtain ⟨cache₃, htargets, hcache₃⟩ := loadFloor_eq hstore .targets
    { k with
      trust := (k.trust.run c.primitives (floor (view w.cache) .timestamp)).run c.primitives
        (floor (view w.cache) .snapshot) }
    (w := { w with cache := cache₂ }) hcache₂
  refine ⟨cache₃, ?_, hcache₃⟩
  rw [floors, Trust.run_append, Trust.run_append]
  refine (Task.bind_of_ok htimestamp).trans ?_
  exact (Task.bind_of_ok hsnapshot).trans htargets

end Start

/-! ### The whole refresh -/

/-- What a refresh has once the chain of roots is followed, after a cold start with what the store
holds below the root. -/
def floored (c : Client ν κ) (view : κ → String → Option Bytes) (committed : Option Trust)
    (s : Spot ν κ) : Spot ν κ :=
  match committed with
  | some _ => s
  | none => (s.1.run c.primitives (floors (view s.2.cache)), s.2)

/-- The course of a refresh. If it fails early, nothing moves in what would have followed. -/
structure Course (c : Client ν κ) (view : κ → String → Option Bytes) (now : Instant)
    (committed : Option Trust) (w : World ν κ) (rooted stamped ended : Spot ν κ) : Prop where
  /-- The chain of roots is followed. -/
  rooting : Moves c.primitives view (Rooting c (view w.cache))
    ((start now committed).trust, w) rooted
  /-- The timestamp is retrieved. -/
  stamping : Moves c.primitives view Advancing (floored c view committed rooted) stamped
  /-- The snapshot and the targets are retrieved. -/
  ending : Moves c.primitives view Advancing stamped ended

theorem mem_floor {held : String → Option Bytes} {role : Role} {offer : Trust.Offer} :
    offer ∈ floor held role ↔ ∃ bs, held role.name = some bs ∧ offer = .below role bs .cache := by
  rw [floor, Option.mem_toList, Option.map_eq_some_iff]
  simp only [eq_comm]

theorem mem_floors {held : String → Option Bytes} {offer : Trust.Offer} (h : offer ∈ floors held) :
    ∃ role bs, role ≠ .root ∧ held role.name = some bs ∧ offer = .below role bs .cache := by
  simp only [floors, List.mem_append, mem_floor] at h
  rcases h with (⟨bs, hbs, rfl⟩ | ⟨bs, hbs, rfl⟩) | ⟨bs, hbs, rfl⟩
  · exact ⟨.timestamp, bs, nofun, hbs, rfl⟩
  · exact ⟨.snapshot, bs, nofun, hbs, rfl⟩
  · exact ⟨.targets, bs, nofun, hbs, rfl⟩

/-- To load the floors is a number of moves below the root. -/
theorem floored_moves (committed : Option Trust) (s : Spot ν κ) :
    Moves c.primitives view (fun offer => ∃ role bs, role ≠ .root ∧ offer = .below role bs .cache)
      s (floored c view committed s) := by
  cases committed with
  | some trust => exact .refl
  | none =>
    refine .run_cached fun offer hoffer => ?_
    obtain ⟨role, bs, hrole, hbs, rfl⟩ := mem_floors hoffer
    exact ⟨⟨role, bs, hrole, rfl⟩, fun _ => Trust.Offer.below_ne_root hrole, role, bs,
      Trust.Offer.subject_below role bs _, hbs⟩

/-- Whatever a refresh does is a number of moves. -/
theorem Course.moves {now : Instant} {committed : Option Trust} {rooted stamped ended : Spot ν κ}
    (h : Course c view now committed w rooted stamped ended) :
    Moves c.primitives view (fun _ => True) ((start now committed).trust, w) ended := by
  have hall : ∀ {Q : Trust.Offer → Prop} offer, Q offer → True := fun _ _ => trivial
  exact (h.rooting.mono hall).trans (((floored_moves committed rooted).mono hall).trans
    ((h.stamping.mono hall).trans (h.ending.mono hall)))

/-- What a refresh that succeeds comes to. -/
structure Completed (c : Client ν κ) (view : κ → String → Option Bytes) (stamped ended : Spot ν κ)
    (k : Working) : Prop where
  trust_eq : k.trust = ended.1
  saved : k.saveError = none
  consistent : ended.1.checkConsistent c.primitives = .ok ()
  timestamp_saved : ∃ bs, stamped.1.bytesOf Role.timestamp.name = some bs ∧
    view stamped.2.cache Role.timestamp.name = some bs

section Whole

variable (hstore : c.store.Reliable view)
include hstore

/-- What follows the timestamp only moves, and ends in a chain that is checked. -/
theorem finish_follows (k : Working) (w : World ν κ) :
    let finish : Task ν κ Working := c.updateSnapshot k >>= fun k => c.updateTargets k >>= fun k =>
      Task.ofExcept (k.trust.checkConsistent c.primitives) >>= fun _ => pure k
    Follows c view Advancing k w (finish w) ∧
      ∀ k', (finish w).1 = .ok k' → k'.trust.checkConsistent c.primitives = .ok () := by
  rw [updateSnapshot_eq_pass, updateTargets_eq_pass]
  constructor
  · exact .bind (pass_follows hstore _ k w) fun k w =>
      .bind (pass_follows hstore _ k w) fun _ _ => .check
  · intro k' hok
    have hdone : _ = ((.ok k', _) : Except TrustError Working × World ν κ) := Prod.ext hok rfl
    obtain ⟨k₁, w₁, -, hrest⟩ := Task.bind_eq_ok_iff.1 hdone
    obtain ⟨k₂, w₂, -, hrest⟩ := Task.bind_eq_ok_iff.1 hrest
    obtain ⟨u, w₃, hcheck, hrest⟩ := Task.bind_eq_ok_iff.1 hrest
    cases hrest
    exact (Task.ofExcept_eq_ok_iff.1 hcheck).1

/-- Only a cold refresh loads what the store holds below the root. -/
theorem loadFloors_of_cold {committed : Option Trust} (hcold : k.cold = committed.isNone)
    (w : World ν κ) : ∃ cache, view cache = view w.cache ∧
    ∀ next : Working → Task ν κ Working,
      (if k.cold then c.loadFloors k >>= next else pure k >>= next) w =
        next { k with trust := (floored c view committed (k.trust, w)).1 } { w with cache } := by
  cases committed with
  | some trust =>
    have hwarm : ¬ k.cold = true := by simp [hcold]
    refine ⟨w.cache, rfl, fun next => ?_⟩
    rw [if_neg hwarm]
    rfl
  | none =>
    obtain ⟨cache, hload, hcache⟩ := loadFloors_eq hstore k w
    have hcold' : k.cold = true := hcold
    refine ⟨cache, hcache, fun next => ?_⟩
    rw [if_pos hcold']
    exact Task.bind_of_ok hload

omit hstore in
/-- Between the floors and the timestamp the store may move on, but not what it holds. -/
theorem floored_idle {committed : Option Trust} {t : Trust} {cache : κ}
    (hcache : view cache = view w.cache) :
    Moves c.primitives view P (floored c view committed (t, w))
      ((floored c view committed (t, w)).1, { w with cache }) := by
  cases committed <;> exact .of_move (.idle hcache rfl)

theorem runRefresh_course (now : Instant) (committed : Option Trust) (w : World ν κ) :
    ∃ rooted stamped ended, Course c view now committed w rooted stamped ended ∧
      ended.2 = (c.runRefresh now committed w).2 ∧
      ∀ k, (c.runRefresh now committed w).1 = .ok k → Completed c view stamped ended k := by
  have hcold : (start now committed).cold = committed.isNone := by cases committed <;> rfl
  have hsave : (start now committed).saveError = none := by cases committed <;> rfl
  obtain ⟨t₁, hrooting, hk₁⟩ : Follows c view (Rooting c (view w.cache)) (start now committed) w
      ((c.workingCopy now committed >>= c.updateRootChain) w) :=
    .bind (workingCopy_follows hstore now committed w) (updateRootChain_follows hstore)
  rw [runRefresh, ← Task.bind_assoc]
  cases hroot : (c.workingCopy now committed >>= c.updateRootChain) w with
  | mk r w₁ =>
    rw [hroot] at hrooting hk₁
    cases r with
    | error e =>
      rw [Task.bind_of_error hroot]
      refine ⟨(t₁, w₁), _, _, ⟨hrooting, .refl, .refl⟩, ?_, ?_⟩
      · cases committed <;> rfl
      · rintro _ ⟨⟩
    | ok k₁ =>
      rw [Task.bind_of_ok hroot]
      have htrust : k₁.trust = t₁ := by rw [hk₁ k₁ rfl]
      have hcold₁ : k₁.cold = committed.isNone := by rw [hk₁ k₁ rfl, ← hcold]
      have hsave₁ : k₁.saveError = none := by rw [hk₁ k₁ rfl, ← hsave]
      subst htrust
      obtain ⟨cache, hcache, hfloors⟩ := loadFloors_of_cold hstore hcold₁ w₁
      simp only [hfloors]
      obtain ⟨⟨t₂, hstamping, hk₂⟩, hsaved⟩ := updateTimestamp_follows hstore
        { k₁ with trust := (floored c view committed (k₁.trust, w₁)).1 } { w₁ with cache }
      have hstamping := (floored_idle hcache).trans hstamping
      cases hstamp : c.updateTimestamp
          { k₁ with trust := (floored c view committed (k₁.trust, w₁)).1 } { w₁ with cache } with
      | mk r w₂ =>
        rw [hstamp] at hstamping hk₂ hsaved
        cases r with
        | error e =>
          rw [Task.bind_of_error hstamp]
          refine ⟨(k₁.trust, w₁), (t₂, w₂), (t₂, w₂), ⟨hrooting, hstamping, .refl⟩, rfl, ?_⟩
          rintro _ ⟨⟩
        | ok k₂ =>
          rw [Task.bind_of_ok hstamp]
          have hk₂ := hk₂ k₂ rfl
          obtain ⟨⟨t₃, hending, hk₃⟩, hconsistent⟩ := finish_follows hstore k₂ w₂
          rw [hk₂] at hending
          refine ⟨(k₁.trust, w₁), (t₂, w₂), (t₃, _), ⟨hrooting, hstamping, hending⟩, ?_, ?_⟩
          · rw [hk₂]
          · intro k hk
            have htrust := hk₃ k hk
            have hcheck := hconsistent k hk
            rw [htrust] at hcheck
            obtain ⟨bs, hbs, hheld⟩ := hsaved k₂ rfl
            rw [hk₂] at hbs
            refine ⟨by rw [htrust], ?_, hcheck, bs, hbs, hheld⟩
            rw [htrust, hk₂]
            exact hsave₁

/-- A refresh takes its course and then reports. One that fails commits nothing; one that succeeds
commits what it ended with, a chain that was checked as a whole. -/
theorem refresh_course (now : Instant) (s : Session ν κ) : ∃ rooted stamped ended,
    Course c view now s.committed s.world rooted stamped ended ∧
      (c.refresh now s).2.world.cache = ended.2.cache ∧
      ended.2.events <+: (c.refresh now s).2.world.events ∧
      ((∃ e, (c.refresh now s).1 = .error e ∧ (c.refresh now s).2.committed = s.committed) ∨
        ((c.refresh now s).1 = .ok () ∧ (c.refresh now s).2.committed = some ended.1 ∧
          ∃ k, Completed c view stamped ended k)) := by
  obtain ⟨rooted, stamped, ended, hcourse, hworld, hcompleted⟩ :=
    runRefresh_course hstore now s.committed s.world
  refine ⟨rooted, stamped, ended, hcourse, ?_⟩
  rw [hworld]
  cases hrun : c.runRefresh now s.committed s.world with
  | mk r w' =>
    rw [hrun] at hcompleted
    rw [refresh, hrun]
    cases r with
    | error e => exact ⟨rfl, List.prefix_append _ _, .inl ⟨e, rfl, rfl⟩⟩
    | ok k =>
      have hk := hcompleted k rfl
      refine ⟨rfl, List.prefix_append _ _, .inr ⟨?_, congrArg some hk.trust_eq, k, hk⟩⟩
      simp only [hk.saved]

end Whole

end SecureUpdate.Client
