import Mathlib.Logic.Function.Basic
import SecureUpdate.Proofs.Cache.Reliable
import SecureUpdate.Proofs.Client.Lineage
import SecureUpdate.Proofs.Trust.Monotone

/-!
Clients that share a local store. Each of them may start from whatever root the store holds, on no
more than that root's own word; yet as long as nobody else writes to the store, every root that it
holds, and every root that any of them commits, is on a line that starts at the root they were all
shipped with. Metadata of delegated roles may be saved under the name of the root, but is never
taken for one. Loads and saves may fail, clients may restart at any time, and mirrors may send
anything.

Main statement: `run_descends`.
-/

namespace SecureUpdate

/-- Clients that share a local store and were shipped with the same root. Each has mirrors and
limits of its own. -/
structure Fleet (ι ν κ : Type) where
  primitives : Primitives
  store : LocalStore κ
  initialRoot : Bytes
  fetcher : ι → Fetcher ν
  mirrors : ι → List Mirror
  limits : ι → Limits

namespace Fleet

variable {ι ν κ : Type}

def client (f : Fleet ι ν κ) (i : ι) : Client ν κ where
  primitives := f.primitives
  fetcher := f.fetcher i
  store := f.store
  mirrors := f.mirrors i
  limits := f.limits i
  initialRoot := f.initialRoot

/-- What each client has committed, and the world that they share. -/
structure State (ι ν κ : Type) where
  committed : ι → Option Trust
  world : World ν κ

/-- The state as one client sees it. -/
def State.session (s : State ι ν κ) (i : ι) : Session ν κ := ⟨s.committed i, s.world⟩

/-- What happens to a client. -/
inductive Act (ι ν : Type) where
  | refresh (i : ι) (now : Instant)
  | info (i : ι) (now : Instant) (path : String)
  /-- A client forgets what it has committed. -/
  | restart (i : ι)
  /-- The mirrors send something else from now on. -/
  | turn (net : ν)

variable [DecidableEq ι]

/-- The state once a client has done something. -/
def State.put (s : State ι ν κ) (i : ι) (session : Session ν κ) : State ι ν κ where
  committed := Function.update s.committed i session.committed
  world := session.world

theorem State.committed_put (s : State ι ν κ) (i j : ι) (session : Session ν κ) :
    (s.put i session).committed j = if j = i then session.committed else s.committed j :=
  Function.update_apply s.committed i session.committed j

def act (f : Fleet ι ν κ) (s : State ι ν κ) : Act ι ν → State ι ν κ
  | .refresh i now => s.put i ((f.client i).refresh now (s.session i)).2
  | .info i now path => s.put i ((f.client i).targetInfo now path (s.session i)).2
  | .restart i => s.put i ⟨none, s.world⟩
  | .turn net => { s with world := { s.world with net } }

/-- The state after some acts, which starts with nothing committed. -/
def run (f : Fleet ι ν κ) (w : World ν κ) (acts : List (Act ι ν)) : State ι ν κ :=
  acts.foldl f.act ⟨fun _ => none, w⟩

variable {f : Fleet ι ν κ} {view : κ → String → Option Bytes} {s : State ι ν κ} {i : ι}

/-! ### Every root descends from the initial one -/

/-- Whether a root is on a line that starts at the initial one. -/
def Descends (f : Fleet ι ν κ) (v : Verified Root) : Prop :=
  ∃ n, Root.DescendsFrom f.primitives f.initialRoot n v

/-- Whether every root that a client has committed, and any root that the store holds, is on a line
that starts at the initial one. -/
structure Descended (f : Fleet ι ν κ) (view : κ → String → Option Bytes) (s : State ι ν κ) :
    Prop where
  committed : ∀ i t, s.committed i = some t → ∃ v, t.Rooted f.primitives v ∧ f.Descends v
  stored : ∀ bs, view s.world.cache Role.root.name = some bs →
    ∀ m, Signed.parseAs f.primitives Root bs = .ok m → f.Descends ⟨m, bs⟩

omit [DecidableEq ι] in
theorem Descended.grounded (h : f.Descended view s) (i : ι) :
    (f.client i).Grounded (s.session i) := by
  intro t ht
  obtain ⟨v, hv, -⟩ := h.committed i t ht
  exact ⟨v, hv⟩

omit [DecidableEq ι] in
/-- Wherever a refresh may get to, it is on the line. -/
theorem Descended.reaches (hstore : f.store.Honest view) (h : f.Descended view s)
    {v : Verified Root} (hv : (f.client i).Reaches (s.session i) v) : f.Descends v := by
  obtain ⟨start, hstart, n, -, hline⟩ := hv
  have hfirst : f.Descends start := by
    cases hstart with
    | resumed committed rooted =>
      obtain ⟨v, hv, hdescends⟩ := h.committed i _ committed
      cases rooted.held.symm.trans hv.held
      exact hdescends
    | cached cold loaded selfSigned =>
      exact h.stored _ (hstore.loaded _ _ _ loaded) _ selfSigned.read
    | initial cold unheld bytes_eq selfSigned => exact ⟨0, start, bytes_eq, selfSigned, .refl⟩
  obtain ⟨m, hm⟩ := hfirst
  exact ⟨m + n, hm.lineage hline⟩

/-- Whether what a store holds as the root's bytes is what it held before, or bytes that a client
may save then. -/
def HeldOrSaved (f : Fleet ι ν κ) (view : κ → String → Option Bytes) (i : ι) (s : State ι ν κ)
    (k : κ) : Prop :=
  ∀ bs, view k Role.root.name = some bs → view s.world.cache Role.root.name = some bs ∨
    (f.client i).MaySave (s.session i) bs

omit [DecidableEq ι] in
theorem guards_heldOrSaved (hstore : f.store.Honest view) (i : ι) (s : State ι ν κ) :
    (f.client i).Guards ((f.client i).MaySave (s.session i)) (f.HeldOrSaved view i s) where
  load role k h bs hbs := h bs (hstore.load role k _ bs hbs)
  save role bs k hsave h bs' hbs' := by
    rcases hstore.save role bs k _ bs' hbs' with hheld | ⟨hrole, rfl⟩
    · exact h bs' hheld
    · exact .inr (hsave hrole.symm)

/-! ### One act -/

/-- What a client does leaves all roots on the line. -/
theorem Descended.put (hstore : f.store.Honest view) (h : f.Descended view s)
    {session : Session ν κ} (hkept : f.HeldOrSaved view i s session.world.cache)
    (hcommitted : (f.client i).CommitsReached (s.session i) session) :
    f.Descended view (s.put i session) where
  committed j t ht := by
    rw [State.committed_put] at ht
    split at ht
    · obtain ⟨v, hv, hreaches⟩ := hcommitted t ht
      exact ⟨v, hv, h.reaches hstore hreaches⟩
    · exact h.committed j t ht
  stored bs hbs m hm := by
    rcases hkept bs hbs with hheld | hsaved
    · exact h.stored bs hheld m hm
    · exact h.reaches hstore (hsaved m hm)

theorem Descended.act (hstore : f.store.Honest view) (h : f.Descended view s) (a : Act ι ν) :
    f.Descended view (f.act s a) := by
  have hheld : ∀ i, f.HeldOrSaved view i s s.world.cache := fun _ _ hbs => .inl hbs
  cases a with
  | refresh i now =>
    obtain ⟨hkept, hcommitted⟩ := Client.refresh_reaches (guards_heldOrSaved hstore i s)
      (h.grounded i) now (hheld i)
    exact h.put hstore hkept hcommitted
  | info i now path =>
    obtain ⟨hkept, hcommitted⟩ := Client.targetInfo_reaches (guards_heldOrSaved hstore i s)
      (h.grounded i) now path (hheld i)
    exact h.put hstore hkept hcommitted
  | restart i =>
    refine h.put hstore (hheld i) ?_
    rintro _ ⟨⟩
  | turn net => exact ⟨h.committed, h.stored⟩

/-! ### Whole runs -/

theorem descended_run (hstore : f.store.Honest view) {w : World ν κ}
    (hempty : view w.cache Role.root.name = none) (acts : List (Act ι ν)) :
    f.Descended view (f.run w acts) := by
  have hstart : f.Descended view ⟨fun _ => none, w⟩ := by
    constructor
    · rintro i t ⟨⟩
    · intro bs hbs
      cases hempty.symm.trans hbs
  rw [run]
  generalize (⟨fun _ => none, w⟩ : State ι ν κ) = s at hstart
  induction acts generalizing s with
  | nil => exact hstart
  | cons a acts ih => exact ih _ (hstart.act hstore a)

/-- Whatever clients do that share a store which is empty at first, or holds at least no root, in
any order and with restarts, whatever their mirrors send and however loads and saves fail: every
committed root is on a line that starts at the initial root, in which each root has the version
after the one before it, and enough keys of the one before it and enough of its own signed it. And a
further refresh adds no more links than the limit on rotations to the root that it starts from, be
it for the root that it commits or for the one that it leaves in the store. -/
theorem run_descends (hstore : f.store.Honest view) {w : World ν κ}
    (hempty : view w.cache Role.root.name = none) (acts : List (Act ι ν)) :
    let s := f.run w acts
    (∀ i t, s.committed i = some t → ∃ v, t.root = some v ∧
      ∃ n, Root.DescendsFrom f.primitives f.initialRoot n v) ∧
    ∀ i now, let s' := ((f.client i).refresh now (s.session i)).2
      (∀ t, s'.committed = some t → ∃ v, t.root = some v ∧
        (f.client i).Reaches (s.session i) v) ∧
      ∀ bs m, view s'.world.cache Role.root.name = some bs →
        Signed.parseAs f.primitives Root bs = .ok m →
          view s.world.cache Role.root.name = some bs ∨
            (f.client i).Reaches (s.session i) ⟨m, bs⟩ := by
  intro s
  have h : f.Descended view s := descended_run hstore hempty acts
  constructor
  · intro i t ht
    obtain ⟨v, hv, hdescends⟩ := h.committed i t ht
    exact ⟨v, hv.held, hdescends⟩
  · intro i now s'
    obtain ⟨hkept, hcommitted⟩ := Client.refresh_reaches (guards_heldOrSaved hstore i s)
      (h.grounded i) now fun _ hbs => .inl hbs
    constructor
    · intro t ht
      obtain ⟨v, hv, hreaches⟩ := hcommitted t ht
      exact ⟨v, hv.held, hreaches⟩
    · intro bs m hbs hm
      exact (hkept bs hbs).imp id fun hsaved => hsaved m hm

namespace Pair

/-- Two clients of the small repository over a store that fails when it is told to. -/
def clients : Fleet Bool (List Reply) (Dict Bytes × List Bool) where
  primitives := .transparent
  store := LocalStore.plain.unsteady
  initialRoot := Sample.root
  fetcher _ := (Client.scripted Sample.root).fetcher
  mirrors _ := (Client.scripted Sample.root).mirrors
  limits _ := .standard

/-- An empty store, which is to fail at its third step, and mirrors that send a second root. -/
def world : World (List Reply) (Dict Bytes × List Bool) where
  net := [.body Trust.Rekeyed.nextRoot, Sample.missing, .body (Sample.timestamp 1 1),
    .body (Sample.snapshot 1 1), .body (Trust.Rekeyed.targets 1)]
  cache := (.empty, [true, true, false])
  events := []

/-- The first client does not get to save the second root, so the other one starts from the first
root again; when the first client has restarted it starts from the second root. -/
def acts : List (Act Bool (List Reply)) :=
  [.refresh false Sample.now,
    .turn [.body Trust.Rekeyed.nextRoot, Sample.missing, .body (Sample.timestamp 1 1)],
    .refresh true Sample.now, .restart false, .turn [Sample.missing, .body (Sample.timestamp 1 1)],
    .refresh false Sample.now]

end Pair

open Pair in
/-- Both clients have committed the second root in the end. -/
theorem run_descends_pair :
    clients.store.Honest (fun k => k.1.get?) ∧ world.cache.1.get? Role.root.name = none ∧
      (∀ i, (((clients.run world acts).committed i).bind (·.root)).map (·.version) = some 2) ∧
        ∀ i t, (clients.run world acts).committed i = some t → ∃ v, t.root = some v ∧
          ∃ n, Root.DescendsFrom .transparent Sample.root n v := by
  have hstore : clients.store.Honest fun k => k.1.get? := LocalStore.plain_reliable.honest.unsteady
  have hempty : world.cache.1.get? Role.root.name = none := rfl
  refine ⟨hstore, hempty, ?_, (run_descends hstore hempty acts).1⟩
  decide +kernel

end Fleet

end SecureUpdate
