import SecureUpdate.Proofs.Client.Passage
import SecureUpdate.Proofs.Mirror.Failover

/-!
One good mirror among bad ones. A refresh succeeds with a mirror alone; then further mirrors are
asked before and after it, whose replies are failures to move bytes or bodies that are refused. No
such reply leaves a trace, so the refresh goes as it did, with one exception. The chain of roots
ends where the next root cannot be retrieved, and a body that is refused does not count as that: it
is a failure of trust, which a refresh does not pass over. So where the good mirror gives no next
root, the others have to give none either.

Main statement: `refresh_among`.
-/

namespace SecureUpdate

variable {ν ν' κ α β : Type}

/-- The same world with another network. -/
def World.withNet (w : World ν κ) (net : ν') : World ν' κ := ⟨net, w.cache, w.events⟩

/-! ### Steps that go alike -/

namespace Task

/-- Whether whatever one step yields from a world is what another step yields from the same world
with a network of which `own` makes the first one's. -/
def Alike (own : ν' → ν) (a : Task ν κ α) (b : Task ν' κ α) (w : World ν κ) : Prop :=
  ∀ net x w₁, own net = w.net → a w = (.ok x, w₁) →
    ∃ net₁, own net₁ = w₁.net ∧ b (w.withNet net) = (.ok x, w₁.withNet net₁)

variable {own : ν' → ν} {a : Task ν κ α} {b : Task ν' κ α} {f : α → Task ν κ β}
  {g : α → Task ν' κ β} {w : World ν κ}

theorem Alike.bind (h : Alike own a b w)
    (hf : ∀ x w₁, a w = (.ok x, w₁) → Alike own (f x) (g x) w₁) :
    Alike own (a >>= f) (b >>= g) w := by
  intro net y w₂ hnet hy
  obtain ⟨x, w₁, hx, hy⟩ := bind_eq_ok_iff.1 hy
  obtain ⟨net₁, hnet₁, hb⟩ := h net x w₁ hnet hx
  obtain ⟨net₂, hnet₂, hg⟩ := hf x w₁ hx net₁ y w₂ hnet₁ hy
  exact ⟨net₂, hnet₂, (bind_of_ok hb).trans hg⟩

theorem Alike.mapError {e e' : TrustError → TrustError} (h : Alike own a b w) :
    Alike own (a.mapError e) (b.mapError e') w := by
  intro net x w₁ hnet hx
  unfold Task.mapError at hx ⊢
  cases ha : a w with
  | mk r w₂ =>
    rw [ha] at hx
    cases r with
    | error e => cases hx
    | ok y =>
      cases hx
      obtain ⟨net₁, hnet₁, hb⟩ := h net x w₁ hnet ha
      exact ⟨net₁, hnet₁, by rw [hb]⟩

theorem Alike.ite {a' : Task ν κ α} {b' : Task ν' κ α} {q : Prop} [Decidable q]
    (h : q → Alike own a b w) (h' : ¬ q → Alike own a' b' w) :
    Alike own (if q then a else a') (if q then b else b') w := by
  split
  · exact h ‹_›
  · exact h' ‹_›

/-- Whether a step leaves the network alone, and another one does the same with any network. -/
def Local (a : Task ν κ α) (b : Task ν' κ α) : Prop :=
  ∀ w net, (a w).2.net = w.net ∧ b (w.withNet net) = ((a w).1, (a w).2.withNet net)

theorem Local.pure {x : α} : Local (pure x : Task ν κ α) (pure x : Task ν' κ α) :=
  fun _ _ => ⟨rfl, rfl⟩

theorem Local.fail {e : TrustError} :
    Local (Task.fail e : Task ν κ α) (Task.fail e : Task ν' κ α) := fun _ _ => ⟨rfl, rfl⟩

theorem Local.ofExcept {x : Except TrustError α} :
    Local (Task.ofExcept x : Task ν κ α) (Task.ofExcept x : Task ν' κ α) := by
  cases x <;> exact fun _ _ => ⟨rfl, rfl⟩

theorem Local.report {e : Event} :
    Local (SecureUpdate.report e : Task ν κ Unit) (SecureUpdate.report e : Task ν' κ Unit) :=
  fun _ _ => ⟨rfl, rfl⟩

theorem Local.bind (h : Local a b) (hf : ∀ x, Local (f x) (g x)) :
    Local (a >>= f) (b >>= g) := by
  intro w net
  obtain ⟨hnet, hb⟩ := h w net
  cases ha : a w with
  | mk r w₁ =>
    rw [ha] at hnet hb
    cases r with
    | ok x =>
      obtain ⟨hnet₁, hg⟩ := hf x w₁ net
      rw [bind_of_ok ha, bind_of_ok hb]
      exact ⟨hnet₁.trans hnet, hg⟩
    | error e =>
      rw [bind_of_error ha, bind_of_error hb]
      exact ⟨hnet, rfl⟩

/-- Steps that leave the network alone go alike. -/
theorem Local.alike (h : Local a b) : Alike own a b w := by
  intro net x w₁ hown hx
  obtain ⟨hnet, hb⟩ := h w net
  rw [hx] at hnet hb
  exact ⟨net, hown.trans hnet.symm, hb⟩

end Task

namespace Client

/-- The same client with other mirrors, which are reached in another way. -/
def among (c : Client ν κ) (fetcher : Fetcher ν') (mirrors : List Mirror) : Client ν' κ where
  primitives := c.primitives
  fetcher
  store := c.store
  mirrors
  limits := c.limits
  initialRoot := c.initialRoot

variable {c : Client ν κ} {fetcher : Fetcher ν'} {mirrors : List Mirror} {own : ν' → ν}
  {k : Working} {w : World ν κ}

/-! ### Steps that ask no mirror -/

theorem loadCached_local (role : String) :
    Task.Local (c.loadCached role) ((c.among fetcher mirrors).loadCached role) := by
  intro w net
  simp only [loadCached, among, World.withNet]
  cases c.store.load role w.cache with
  | mk r cache => cases r <;> exact ⟨rfl, rfl⟩

theorem save_local (role : String) (bs : Bytes) :
    Task.Local (c.save role bs) ((c.among fetcher mirrors).save role bs) := by
  intro w net
  simp only [save, among, World.withNet]
  cases c.store.save role bs w.cache with
  | mk r cache => cases r <;> exact ⟨rfl, rfl⟩

theorem persist_local (role : Role) (bs : Bytes) (k : Working) :
    Task.Local (c.persist role bs k) ((c.among fetcher mirrors).persist role bs k) :=
  .bind (save_local _ _) fun _ => .pure

theorem noteAccepted_local (role : Role) (version : UInt64) (bs : Bytes) (k : Working) :
    Task.Local (c.noteAccepted role version bs k)
      ((c.among fetcher mirrors).noteAccepted role version bs k) :=
  .bind .report fun _ => persist_local role bs k

theorem startFromInitial_local (now : Instant) :
    Task.Local (c.startFromInitial now) ((c.among fetcher mirrors).startFromInitial now) :=
  .bind .ofExcept fun _ => persist_local _ _ _

theorem workingCopy_local (now : Instant) (committed : Option Trust) :
    Task.Local (c.workingCopy now committed)
      ((c.among fetcher mirrors).workingCopy now committed) := by
  cases committed with
  | some t => exact .pure
  | none =>
    refine Task.Local.bind (loadCached_local _) fun held => ?_
    cases held with
    | none => exact startFromInitial_local now
    | some bs =>
      simp only [among]
      cases (Trust.initial now).loadRoot c.primitives bs with
      | ok t => exact .pure
      | error e => exact startFromInitial_local now

theorem loadFloor_local (role : Role) (accept : Bytes → Trust → Except TrustError Trust)
    (k : Working) : Task.Local (c.loadFloor role accept k)
      ((c.among fetcher mirrors).loadFloor role accept k) := by
  refine Task.Local.bind (loadCached_local _) fun held => ?_
  cases held with
  | none => exact .pure
  | some bs =>
    simp only
    cases accept bs k.trust with
    | ok t => exact .pure
    | error e => exact .pure

theorem loadFloors_local (k : Working) :
    Task.Local (c.loadFloors k) ((c.among fetcher mirrors).loadFloors k) :=
  .bind (loadFloor_local _ _ k) fun k => .bind (loadFloor_local _ _ k) fun k =>
    loadFloor_local _ _ k

/-- What is retrieved alike is reported and saved alike. -/
theorem retrieve_alike (role : Role) (version : Trust → UInt64) {fetch : Task ν κ (Bytes × Trust)}
    {fetch' : Task ν' κ (Bytes × Trust)} (hfetch : Task.Alike own fetch fetch' w) :
    Task.Alike own
      (fetch >>= fun found =>
        c.noteAccepted role (version found.2) found.1 { k with trust := found.2 })
      (fetch' >>= fun found => (c.among fetcher mirrors).noteAccepted role (version found.2) found.1
        { k with trust := found.2 }) w :=
  .bind hfetch fun _ _ _ => (noteAccepted_local _ _ _ _).alike

/-- A pinned role is brought up to date alike where its metadata is retrieved alike. -/
theorem pass_alike {pinned : PinnedRole}
    (hfetch : ∀ pin, ¬ pinned.isCurrent k.trust = true → pinned.pin k.trust = .ok pin →
      Task.Alike own
        (c.fetchPinned pinned.role.name pin pinned.cap (pinned.accept c.primitives) k.trust)
        ((c.among fetcher mirrors).fetchPinned pinned.role.name pin pinned.cap
          (pinned.accept c.primitives) k.trust) w) :
    Task.Alike own (c.pass pinned k) ((c.among fetcher mirrors).pass pinned k) w := by
  refine .ite (fun _ => Task.Local.pure.alike) fun hstale => ?_
  refine Task.Local.ofExcept.alike.bind fun pin w₁ hlisted => ?_
  obtain ⟨hpin, rfl⟩ := Task.ofExcept_eq_ok_iff.1 hlisted
  exact retrieve_alike pinned.role (fun _ => pin.version) (hfetch pin hstale hpin)

/-! ### What a refresh asks for -/

/-- A request for a file of metadata of at most some length, of which `accept` says what comes of it
on top of what is trusted. -/
structure Inquiry where
  file : String
  maxLength : UInt64
  accept : Bytes → Trust → Except TrustError Trust
  trust : Trust

/-- Whether a reply is of no use to an inquiry: a failure to move bytes, or bytes that are refused
on top of what is trusted. -/
def Inquiry.Refuses (q : Inquiry) (r : Reply) : Prop :=
  ∀ bs, r = .body bs → ∃ e, q.accept bs q.trust = .error e

def rootInquiry (c : Client ν κ) (t : Trust) : Inquiry :=
  ⟨nextRootFile t, c.limits.rootSizeCap, fun bs t => t.updateRoot c.primitives bs, t⟩

def timestampInquiry (c : Client ν κ) (t : Trust) : Inquiry :=
  ⟨metadataFile Role.timestamp.name none, c.limits.timestampSizeCap,
    fun bs t => t.updateTimestamp c.primitives bs .remote, t⟩

def snapshotInquiry (c : Client ν κ) (t : Trust) (pin : Pin) : Inquiry :=
  ⟨pinnedFile t Role.snapshot.name pin, pin.cap c.limits.snapshotSizeCap,
    fun bs t => t.updateSnapshot c.primitives bs .remote, t⟩

def targetsInquiry (c : Client ν κ) (t : Trust) (pin : Pin) : Inquiry :=
  ⟨pinnedFile t Role.targets.name pin, pin.cap c.limits.targetsSizeCap,
    fun bs t => t.updateTargets c.primitives bs .remote, t⟩

/-- To take over the next root, report it and save it. -/
def noteRotation (c : Client ν κ) (k : Working) (bs : Bytes) (trust : Trust) :
    Task ν κ Working := do
  report (.accepted Role.root.name (nextRootVersion k.trust))
  report (.rotated (nextRootVersion k.trust))
  c.persist .root bs { k with trust }

theorem rotateRoots_succ (steps : Nat) (k : Working) (w : World ν κ) :
    c.rotateRoots (steps + 1) k w = match c.fetchAccepted (nextRootFile k.trust)
      c.limits.rootSizeCap (fun bs t => t.updateRoot c.primitives bs) k.trust w with
    | (.error e, w) => if e.isTransport then (.ok k, w) else (.error e, w)
    | (.ok (bs, trust), w) => (c.noteRotation k bs trust >>= c.rotateRoots steps) w := rfl

theorem rotateRoots_of_ok {steps : Nat} {w₁ : World ν κ} {found : Bytes × Trust}
    (h : c.fetchAccepted (nextRootFile k.trust) c.limits.rootSizeCap
      (fun bs t => t.updateRoot c.primitives bs) k.trust w = (.ok found, w₁)) :
    c.rotateRoots (steps + 1) k w =
      (c.noteRotation k found.1 found.2 >>= c.rotateRoots steps) w₁ := by
  rw [rotateRoots_succ, h]

theorem rotateRoots_of_error {steps : Nat} {w₁ : World ν κ} {e : TrustError}
    (h : c.fetchAccepted (nextRootFile k.trust) c.limits.rootSizeCap
      (fun bs t => t.updateRoot c.primitives bs) k.trust w = (.error e, w₁)) :
    c.rotateRoots (steps + 1) k w = if e.isTransport then (.ok k, w₁) else (.error e, w₁) := by
  rw [rotateRoots_succ, h]

theorem noteRotation_local (k : Working) (bs : Bytes) (trust : Trust) :
    Task.Local (c.noteRotation k bs trust)
      ((c.among fetcher mirrors).noteRotation k bs trust) :=
  .bind .report fun _ => .bind .report fun _ => persist_local _ _ _

/-- What so many rotations of the root lead to. -/
inductive Rotates (c : Client ν κ) (k₀ : Working) (w₀ : World ν κ) :
    Nat → Working → World ν κ → Prop
  | start : Rotates c k₀ w₀ 0 k₀ w₀
  | rotate {n k w bs trust w₁ k' w'} (before : Rotates c k₀ w₀ n k w)
    (retrieved : c.fetchAccepted (nextRootFile k.trust) c.limits.rootSizeCap
      (fun bs t => t.updateRoot c.primitives bs) k.trust w = (.ok (bs, trust), w₁))
    (noted : c.noteRotation k bs trust w₁ = (.ok k', w')) : Rotates c k₀ w₀ (n + 1) k' w'

/-- What a refresh that succeeds asks for on its way, and in which world. -/
inductive Asks (c : Client ν κ) (now : Instant) (s : Session ν κ) : Inquiry → World ν κ → Prop
  | root {k₀ w₀ n k w} (hstart : c.workingCopy now s.committed s.world = (.ok k₀, w₀))
    (hrotates : Rotates c k₀ w₀ n k w) (hlimit : n < c.limits.maxRootRotations.toNat) :
    Asks c now s (c.rootInquiry k.trust) w
  | timestamp {started rooted floored stamped listed ended}
    (h : Passage c now s.committed s.world started rooted floored stamped listed ended) :
    Asks c now s (c.timestampInquiry floored.1.trust) floored.2
  | snapshot {started rooted floored stamped listed ended timestamp pin}
    (h : Passage c now s.committed s.world started rooted floored stamped listed ended)
    (hstale : ¬ stamped.1.trust.isSnapshotCurrent c.primitives = true)
    (htimestamp : stamped.1.trust.timestamp = some timestamp)
    (hpin : Trust.requireSnapshotPin timestamp.payload = .ok pin) :
    Asks c now s (c.snapshotInquiry stamped.1.trust pin) stamped.2
  | targets {started rooted floored stamped listed ended snapshot pin}
    (h : Passage c now s.committed s.world started rooted floored stamped listed ended)
    (hstale : ¬ listed.1.trust.isTargetsCurrent c.primitives = true)
    (hsnapshot : listed.1.trust.snapshot = some snapshot)
    (hpin : requireTargetsPin snapshot.payload Role.targets.name = .ok pin) :
    Asks c now s (c.targetsInquiry listed.1.trust pin) listed.2

/-! ### One good mirror -/

/-- Whether a mirror, which is the only one of a client, behaves towards others' requests as it does
alone, where `own` reads off the network what concerns it, and requests to the others do not. -/
structure Mingles (c : Client ν κ) (m : Mirror) (others : List Mirror) (fetcher : Fetcher ν')
    (own : ν' → ν) : Prop where
  alone : c.mirrors = [m]
  reply : ∀ file maxLength net, (fetcher (m.metadataUrl file) maxLength net).1 =
    (c.fetcher (m.metadataUrl file) maxLength (own net)).1
  own_reply : ∀ file maxLength net, own (fetcher (m.metadataUrl file) maxLength net).2 =
    (c.fetcher (m.metadataUrl file) maxLength (own net)).2
  own_others : ∀ m' ∈ others, ∀ file maxLength net,
    own (fetcher (m'.metadataUrl file) maxLength net).2 = own net

section Asking

variable {m : Mirror} {before after : List Mirror} {q : Inquiry} {t : Trust}

/-- To ask one mirror alone comes to what its reply does. -/
theorem fetchAccepted_alone (h : c.mirrors = [m]) (file : String) (maxLength : UInt64)
    (accept : Bytes → Trust → Except TrustError Trust) (t : Trust) (w : World ν κ) :
    c.fetchAccepted file maxLength accept t w =
      (MirrorList.judge c.limits.fetchTimeout (m.metadataUrl file) accept t
        (c.fetcher (m.metadataUrl file) maxLength w.net).1,
        { w with net := (c.fetcher (m.metadataUrl file) maxLength w.net).2 }) := by
  rw [fetchAccepted_eq_tryEach, h, MirrorList.tryEach, MirrorList.tryMirror_eq]
  simp only [Resource.urlAt]
  cases MirrorList.judge c.limits.fetchTimeout (m.metadataUrl file) accept t
    (c.fetcher (m.metadataUrl file) maxLength w.net).1 <;> rfl

variable (hmingles : c.Mingles m (before ++ after) fetcher own)
include hmingles

/-- Others whose replies are refused change nothing but their own part of the network. -/
theorem Mingles.tryEach_others (q : Inquiry) {P : TrustError → Prop} {others : List Mirror}
    {net₀ : ν} {net : ν'} (hsub : others ⊆ before ++ after)
    (hrefused : ∀ m' ∈ others, ∀ net, ∃ e, P e ∧
      MirrorList.judge c.limits.fetchTimeout (m'.metadataUrl q.file) q.accept q.trust
        (fetcher (m'.metadataUrl q.file) q.maxLength net).1 = .error e) (hnet : own net = net₀) :
    ∃ es net', MirrorList.tryEach c.limits.fetchTimeout fetcher (Verifier.ofAcceptance q.accept)
      (.metadata q.file) q.maxLength others net q.trust = (.error es, net', q.trust) ∧
        (∀ e ∈ es, P e.2) ∧ own net' = net₀ := by
  refine MirrorList.tryEach_refused (I := fun net => own net = net₀)
    (fun m' hm' net hnet => ?_) hnet
  exact ⟨(hmingles.own_others m' (hsub hm') q.file q.maxLength net).trans hnet, hrefused m' hm' net⟩

/-- What a good mirror gives alone it gives among others whose replies are refused. -/
theorem Mingles.fetchAccepted_alike (q : Inquiry)
    (hrefuses : ∀ m' ∈ before ++ after, ∀ net,
      q.Refuses (fetcher (m'.metadataUrl q.file) q.maxLength net).1) :
    Task.Alike own (c.fetchAccepted q.file q.maxLength q.accept q.trust)
      ((c.among fetcher (before ++ m :: after)).fetchAccepted q.file q.maxLength q.accept q.trust)
      w := by
  intro net found w₁ hnet hfound
  rw [fetchAccepted_alone hmingles.alone] at hfound
  obtain ⟨hjudge, rfl⟩ := Prod.mk.inj hfound
  have hrefused : ∀ m' ∈ before, ∀ net, ∃ e, True ∧
      MirrorList.judge c.limits.fetchTimeout (m'.metadataUrl q.file) q.accept q.trust
        (fetcher (m'.metadataUrl q.file) q.maxLength net).1 = .error e := by
    intro m' hm' net
    obtain ⟨e, he, -⟩ := MirrorList.judge_refused c.limits.fetchTimeout (m'.metadataUrl q.file)
      fun bs hbs => (hrefuses m' (List.mem_append_left _ hm') net bs hbs).imp fun _ he => ⟨he, he⟩
    exact ⟨e, trivial, he⟩
  obtain ⟨es, net₁, hbefore, -, hnet₁⟩ :=
    hmingles.tryEach_others q (List.subset_append_left before after) hrefused hnet
  have htry : MirrorList.tryEach c.limits.fetchTimeout fetcher (Verifier.ofAcceptance q.accept)
      (.metadata q.file) q.maxLength (before ++ m :: after) net q.trust =
        (.ok found.1, (fetcher (m.metadataUrl q.file) q.maxLength net₁).2, found.2) := by
    rw [MirrorList.tryEach_append, hbefore]
    simp only [MirrorList.tryEach, MirrorList.tryMirror_eq, Resource.urlAt]
    rw [hmingles.reply, hnet₁, hjudge]
  refine ⟨(fetcher (m.metadataUrl q.file) q.maxLength net₁).2, ?_, ?_⟩
  · rw [hmingles.own_reply, hnet₁]
  · rw [fetchAccepted_eq_tryEach]
    simp only [among, World.withNet]
    rw [htry]

/-- Where neither the good mirror nor any other one gives a body, the retrieval fails for want of
transport. -/
theorem Mingles.fetchAccepted_in_vain (q : Inquiry) {net : ν'} (hnet : own net = w.net)
    (hm : ¬ (c.fetcher (m.metadataUrl q.file) q.maxLength w.net).1.IsBody)
    (hothers : ∀ m' ∈ before ++ after, ∀ net,
      ¬ (fetcher (m'.metadataUrl q.file) q.maxLength net).1.IsBody) :
    ∃ e net', (c.among fetcher (before ++ m :: after)).fetchAccepted q.file q.maxLength q.accept
        q.trust (w.withNet net) = (.error e, w.withNet net') ∧ e.isTransport = true ∧
      own net' = (c.fetcher (m.metadataUrl q.file) q.maxLength w.net).2 := by
  have hsilent : ∀ m' ∈ before ++ after, ∀ net, ∃ e, e.isTransport = true ∧
      MirrorList.judge c.limits.fetchTimeout (m'.metadataUrl q.file) q.accept q.trust
        (fetcher (m'.metadataUrl q.file) q.maxLength net).1 = .error e := by
    intro m' hm' net
    obtain ⟨e, he, hjudge⟩ := MirrorList.judge_of_not_isBody c.limits.fetchTimeout
      (m'.metadataUrl q.file) q.accept (hothers m' hm' net)
    exact ⟨e, he, hjudge _⟩
  obtain ⟨es₁, net₁, hbefore, hes₁, hnet₁⟩ :=
    hmingles.tryEach_others q (List.subset_append_left before after)
      (fun m' hm' => hsilent m' (List.mem_append_left _ hm')) hnet
  obtain ⟨e, he, hjudge⟩ := MirrorList.judge_of_not_isBody c.limits.fetchTimeout
    (m.metadataUrl q.file) q.accept hm
  have hown : own (fetcher (m.metadataUrl q.file) q.maxLength net₁).2 =
      (c.fetcher (m.metadataUrl q.file) q.maxLength w.net).2 := by
    rw [hmingles.own_reply, hnet₁]
  obtain ⟨es₂, net₂, hafter, hes₂, hnet₂⟩ :=
    hmingles.tryEach_others q (List.subset_append_right before after)
      (fun m' hm' => hsilent m' (List.mem_append_right _ hm')) hown
  have htry : MirrorList.tryEach c.limits.fetchTimeout fetcher (Verifier.ofAcceptance q.accept)
      (.metadata q.file) q.maxLength (before ++ m :: after) net q.trust =
        (.error (es₁ ++ (m.baseUrl, e) :: es₂), net₂, q.trust) := by
    rw [MirrorList.tryEach_append, hbefore]
    simp only [MirrorList.tryEach, MirrorList.tryMirror_eq, Resource.urlAt]
    rw [hmingles.reply, hnet₁, hjudge]
    dsimp only
    rw [hafter]
  refine ⟨MirrorList.failure (.metadata q.file) (es₁ ++ (m.baseUrl, e) :: es₂), net₂, ?_, ?_, hnet₂⟩
  · rw [fetchAccepted_eq_tryEach]
    simp only [among, World.withNet]
    rw [htry]
  · refine MirrorList.isTransport_failure.2 fun error herror => ?_
    rcases List.mem_append.1 herror with hmem | hmem
    · exact hes₁ error hmem
    · rcases List.mem_cons.1 hmem with rfl | hmem
      · exact he
      · exact hes₂ error hmem

/-! ### The stages of a refresh -/

variable {now : Instant} {s : Session ν κ}

/-- Whether the other mirrors are of no use to any inquiry of a refresh that succeeds with the good
mirror alone, and give no next root either where the good one gives none. -/
structure Useless (c : Client ν κ) (now : Instant) (s : Session ν κ) (m : Mirror)
    (others : List Mirror) (fetcher : Fetcher ν') : Prop where
  refused : ∀ q w, c.Asks now s q w → ∀ m' ∈ others, ∀ net,
    q.Refuses (fetcher (m'.metadataUrl q.file) q.maxLength net).1
  silent : ∀ t w, c.Asks now s (c.rootInquiry t) w →
    ¬ (c.fetcher (m.metadataUrl (nextRootFile t)) c.limits.rootSizeCap w.net).1.IsBody →
    ∀ m' ∈ others, ∀ net,
      ¬ (fetcher (m'.metadataUrl (nextRootFile t)) c.limits.rootSizeCap net).1.IsBody

variable (huseless : c.Useless now s m (before ++ after) fetcher)
include huseless

theorem rotateRoots_alike {k₀ : Working} {w₀ : World ν κ} {n : Nat} (steps : Nat)
    (hstart : c.workingCopy now s.committed s.world = (.ok k₀, w₀))
    (hrotates : Rotates c k₀ w₀ n k w) (hlimit : n + steps ≤ c.limits.maxRootRotations.toNat) :
    Task.Alike own (c.rotateRoots steps k)
      ((c.among fetcher (before ++ m :: after)).rotateRoots steps k) w := by
  induction steps generalizing n k w with
  | zero => exact Task.Local.pure.alike
  | succ steps ih =>
    have hasks : c.Asks now s (c.rootInquiry k.trust) w := .root hstart hrotates (by omega)
    intro net k' w' hnet hk'
    rw [rotateRoots_succ] at hk'
    cases hfetch : c.fetchAccepted (nextRootFile k.trust) c.limits.rootSizeCap
        (fun bs t => t.updateRoot c.primitives bs) k.trust w with
    | mk r w₁ =>
      rw [hfetch] at hk'
      cases r with
      | error e =>
        dsimp only at hk'
        split at hk'
        · rename_i htransport
          cases hk'
          -- the chain ends here alone, so it has to end here among the others
          rw [fetchAccepted_alone hmingles.alone] at hfetch
          obtain ⟨hjudge, rfl⟩ := Prod.mk.inj hfetch
          have hm := MirrorList.not_isBody_of_judge (fun _ => Trust.updateRoot_error) hjudge
            htransport
          obtain ⟨e', net', hfetch', htransport', hnet'⟩ := hmingles.fetchAccepted_in_vain
            (c.rootInquiry k.trust) hnet hm (huseless.silent _ w hasks hm)
          exact ⟨net', hnet', rotateRoots_stop (Nat.succ_pos _) hfetch' htransport'⟩
        · cases hk'
      | ok found =>
        obtain ⟨bs, trust⟩ := found
        obtain ⟨net₁, hnet₁, hfetch'⟩ := hmingles.fetchAccepted_alike (c.rootInquiry k.trust)
          (huseless.refused _ w hasks) net _ _ hnet hfetch
        have hrest : Task.Alike own (c.noteRotation k bs trust >>= c.rotateRoots steps)
            ((c.among fetcher (before ++ m :: after)).noteRotation k bs trust >>=
              (c.among fetcher (before ++ m :: after)).rotateRoots steps) w₁ :=
          (noteRotation_local k bs trust).alike.bind fun k₂ w₂ hnoted =>
            ih (.rotate hrotates hfetch hnoted) (by omega)
        obtain ⟨net₂, hnet₂, hdone⟩ := hrest net₁ k' w' hnet₁ hk'
        exact ⟨net₂, hnet₂, (rotateRoots_of_ok hfetch').trans hdone⟩

variable {started rooted floored stamped listed ended : Working × World ν κ}
  (h : Passage c now s.committed s.world started rooted floored stamped listed ended)
include h

theorem updateTimestamp_alike : Task.Alike own (c.updateTimestamp floored.1)
    ((c.among fetcher (before ++ m :: after)).updateTimestamp floored.1) floored.2 :=
  retrieve_alike .timestamp (fun t => (t.timestamp.map Verified.version).getD 0)
    (hmingles.fetchAccepted_alike _ (huseless.refused _ _ (.timestamp h)))

theorem updateSnapshot_alike : Task.Alike own (c.updateSnapshot stamped.1)
    ((c.among fetcher (before ++ m :: after)).updateSnapshot stamped.1) stamped.2 := by
  rw [updateSnapshot_eq_pass, updateSnapshot_eq_pass]
  refine pass_alike fun pin hstale hpin => .mapError ?_
  obtain ⟨timestamp, htimestamp, hpin⟩ := pinnedSnapshot_pin_eq_ok_iff.1 hpin
  exact hmingles.fetchAccepted_alike _
    (huseless.refused _ _ (.snapshot h hstale htimestamp hpin))

theorem updateTargets_alike : Task.Alike own (c.updateTargets listed.1)
    ((c.among fetcher (before ++ m :: after)).updateTargets listed.1) listed.2 := by
  rw [updateTargets_eq_pass, updateTargets_eq_pass]
  refine pass_alike fun pin hstale hpin => .mapError ?_
  obtain ⟨snapshot, hsnapshot, hpin⟩ := pinnedTargets_pin_eq_ok_iff.1 hpin
  exact hmingles.fetchAccepted_alike _ (huseless.refused _ _ (.targets h hstale hsnapshot hpin))

omit h

/-- A refresh that passes every stage with the good mirror alone passes every stage among others
that are of no use. -/
theorem runRefresh_alike {k : Working} {w' : World ν κ}
    (hrun : c.runRefresh now s.committed s.world = (.ok k, w')) :
    Task.Alike own (c.runRefresh now s.committed)
      ((c.among fetcher (before ++ m :: after)).runRefresh now s.committed) s.world := by
  obtain ⟨started, rooted, floored, stamped, listed, h⟩ := runRefresh_eq_ok_iff.1 hrun
  rw [runRefresh_eq, runRefresh_eq]
  refine .bind (workingCopy_local _ _).alike fun k₀ w₀ hstart => ?_
  cases h.start.symm.trans hstart
  refine .bind (rotateRoots_alike hmingles huseless _ h.start .start (by simp))
    fun k₁ w₁ hrooted => ?_
  cases h.rotation.symm.trans hrooted
  refine .bind Task.Local.ofExcept.alike fun _ w₂ hchecked => ?_
  obtain ⟨-, rfl⟩ := Task.ofExcept_eq_ok_iff.1 hchecked
  refine .bind (.ite (fun _ => (loadFloors_local _).alike) fun _ => Task.Local.pure.alike)
    fun k₂ w₂ hfloored => ?_
  cases h.floors.symm.trans hfloored
  refine .bind (updateTimestamp_alike hmingles huseless h) fun k₃ w₃ hstamped => ?_
  cases h.timestamp.symm.trans hstamped
  refine .bind (updateSnapshot_alike hmingles huseless h) fun k₄ w₄ hlisted => ?_
  cases h.snapshot.symm.trans hlisted
  refine .bind (updateTargets_alike hmingles huseless h) fun k₅ w₅ _ => ?_
  exact .bind Task.Local.ofExcept.alike fun _ _ _ => Task.Local.pure.alike

end Asking

/-- A refresh succeeds with a good mirror alone. Then it succeeds among any others, before and after
that mirror, that are of no use to it and are silent where it gives no next root; it starts from the
same trust and store, and commits and stores the same. -/
theorem refresh_among {m : Mirror} {before after : List Mirror} {now : Instant} {s : Session ν κ}
    (hmingles : c.Mingles m (before ++ after) fetcher own)
    (huseless : c.Useless now s m (before ++ after) fetcher) {net : ν'}
    (hnet : own net = s.world.net) (hok : (c.refresh now s).1 = .ok ()) :
    let together := (c.among fetcher (before ++ m :: after)).refresh now
      ⟨s.committed, s.world.withNet net⟩
    together.1 = .ok () ∧ together.2.committed = (c.refresh now s).2.committed ∧
      together.2.world.cache = (c.refresh now s).2.world.cache := by
  intro together
  cases hrun : c.runRefresh now s.committed s.world with
  | mk r w' =>
    cases r with
    | error e =>
      rw [refresh, hrun] at hok
      cases hok
    | ok k =>
      obtain ⟨net', -, htogether⟩ :=
        runRefresh_alike hmingles huseless hrun net k w' hnet hrun
      have hdone : together = ((c.refresh now s).1,
          ⟨(c.refresh now s).2.committed, (c.refresh now s).2.world.withNet net'⟩) := by
        simp only [together, refresh, hrun, htogether]
        rfl
      rw [hdone]
      exact ⟨hok, rfl, rfl⟩

namespace Bystander

/-- A mirror of the small repository. -/
def good : Mirror := .ofUrl "https://mirror.example"

/-- A mirror that is out of order. -/
def broken : Mirror := .ofUrl "file:///srv/broken"

def files : List (String × Bytes) := [(good.metadataUrl "timestamp.json", Sample.timestamp 1 1),
  (good.metadataUrl "snapshot.json", Sample.snapshot 1 1),
  (good.metadataUrl "targets.json", Sample.targets 1)]

/-- The good mirror gives its files. The broken one gives no bytes as an answer to everything, or,
if it is to be silent about roots, no answer where a root is asked for. -/
def network (silent : Bool) : Fetcher Unit := fun url maxLength net =>
  (if url.toList.head? = some 'h' then fileAt files url
    else if silent && maxLength == Limits.standard.rootSizeCap then Sample.missing
    else .body [], net)

/-- A client of some of the mirrors. -/
def client (silent : Bool) (mirrors : List Mirror) : Client Unit (Dict Bytes) :=
  (served [] [] Sample.root).among (network silent) mirrors

/-- Nothing is committed or stored. -/
def untouched : Session Unit (Dict Bytes) := ⟨none, (), .empty, []⟩

theorem network_broken (silent : Bool) (file : String) (maxLength : UInt64) (net : Unit) :
    (network silent (broken.metadataUrl file) maxLength net).1 =
      if silent && maxLength == Limits.standard.rootSizeCap then Sample.missing else .body [] := by
  have hurl : broken.metadataUrl file =
      "file:///srv/broken" ++ "/" ++ "metadata" ++ "/" ++ file := by
    have hbase : broken.baseUrl = "file:///srv/broken" := by decide +kernel
    have hdir : Mirror.trimSlashes broken.metadataDir = "metadata" := by decide +kernel
    rw [Mirror.metadataUrl, Mirror.join, hdir, hbase]
    rfl
  have hhead : (broken.metadataUrl file).toList.head? = some 'f' := by
    simp [hurl]
  have hother : ¬ (broken.metadataUrl file).toList.head? = some 'h' := by
    rw [hhead]
    decide
  exact if_neg hother

/-- No bytes at all are refused, whatever is asked for. -/
theorem refuses_nil {silent : Bool} {mirrors : List Mirror} {q : Inquiry}
    {w : World Unit (Dict Bytes)} (h : (client silent mirrors).Asks Sample.now untouched q w) :
    q.Refuses (.body []) := by
  have hunread : ∀ {α : Type} [RolePayload α] (m : Signed α),
      Signed.parseAs .transparent α [] ≠ .ok m := by
    intro α _ m hm
    obtain ⟨m₀, hparse, -⟩ := Signed.parseAs_eq_ok_iff.1 hm
    cases (Signed.parse_eq_ok_iff.1 hparse).1
  have hrefused : ∀ t', q.accept [] q.trust ≠ .ok t' := by
    intro t' haccept
    cases h with
    | root =>
      obtain ⟨held, m, hm, -⟩ := Trust.updateRoot_eq_ok_iff.1 haccept
      exact hunread m hm.read
    | timestamp =>
      obtain ⟨root, m, hm, -⟩ := Trust.updateTimestamp_eq_ok_iff.1 haccept
      exact hunread m hm.read
    | snapshot =>
      obtain ⟨root, timestamp, m, hm, -⟩ := Trust.updateSnapshot_eq_ok_iff.1 haccept
      exact hunread m hm.read
    | targets =>
      obtain ⟨root, snapshot, m, hm, -⟩ := Trust.updateTargets_eq_ok_iff.1 haccept
      exact hunread m hm.read
  rintro bs ⟨⟩
  cases haccept : q.accept [] q.trust with
  | ok t' => exact absurd haccept (hrefused t')
  | error e => exact ⟨e, rfl⟩

/-- The good mirror alone brings a client up to date. -/
theorem refresh_good (silent : Bool) :
    ((client silent [good]).refresh Sample.now untouched).1 = .ok () := by
  cases silent <;> exact Chain.isOk_iff.1 (by decide +kernel)

end Bystander

open Bystander in
/-- The broken mirror, before and after the good one, is of no use and silent about roots. -/
theorem refresh_among_broken :
    let together := (client true [broken, good, broken]).refresh Sample.now untouched
    together.1 = .ok () ∧
      together.2.committed = ((client true [good]).refresh Sample.now untouched).2.committed ∧
      together.2.world.cache =
        ((client true [good]).refresh Sample.now untouched).2.world.cache := by
  have hmingles : (client true [good]).Mingles good ([broken] ++ [broken]) (network true) id :=
    ⟨rfl, fun _ _ _ => rfl, fun _ _ _ => rfl, fun _ _ _ _ _ => rfl⟩
  have huseless : (client true [good]).Useless Sample.now untouched good ([broken] ++ [broken])
      (network true) := by
    have hothers : ∀ m' ∈ [broken] ++ [broken], m' = broken := by decide
    refine ⟨fun q w hasks m' hm' net => ?_, fun t w _ _ m' hm' net => ?_⟩
    · rw [hothers m' hm', network_broken]
      split
      · exact fun _ hbody => nomatch hbody
      · exact refuses_nil hasks
    · rw [hothers m' hm', network_broken]
      exact id
  have hclient : (client true [good]).among (network true) ([broken] ++ good :: [broken]) =
      client true [broken, good, broken] := rfl
  have hsession : (⟨untouched.committed, untouched.world.withNet ()⟩ : Session Unit (Dict Bytes)) =
      untouched := rfl
  have hown : id () = untouched.world.net := rfl
  have htogether := refresh_among hmingles huseless hown (refresh_good true)
  rw [hclient, hsession] at htogether
  exact htogether

open Bystander in
/-- When the broken mirror is not silent about roots, its bytes are refused there as everywhere, but
the refresh fails. -/
theorem refresh_among_fails : ((client false [good]).refresh Sample.now untouched).1 = .ok () ∧
    (∀ q w, (client false [good]).Asks Sample.now untouched q w → ∀ net,
      q.Refuses (network false (broken.metadataUrl q.file) q.maxLength net).1) ∧
    ((client false [good, broken]).refresh Sample.now untouched).1 ≠ .ok () := by
  refine ⟨refresh_good false, fun q w hasks net => ?_, fun hok => ?_⟩
  · rw [network_broken]
    exact refuses_nil hasks
  · exact absurd (Chain.isOk_iff.2 hok) (by decide +kernel)

end Client

end SecureUpdate
