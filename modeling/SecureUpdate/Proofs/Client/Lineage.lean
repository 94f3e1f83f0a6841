import SecureUpdate.Proofs.Client.Upkeep
import SecureUpdate.Proofs.Trust.Lineage
import SecureUpdate.Proofs.Trust.Monotone

/-!
The line of roots that a client follows. A refresh starts from the committed root, or with nothing
committed from a root that the local store gives or from the initial one, and from there it follows
the line of roots link by link, by no more links than its limit on rotations. Whatever it saves as
the root's is on that line too, whether or not it commits anything. Nothing is asked of the store
for that; where it gives a root that is older than the initial one, the line starts there, and may
end below the initial root when mirrors withhold rotations.

Main statements: `refresh_reaches`, `targetInfo_reaches`, `refresh_root_floor`.
-/

namespace SecureUpdate.Client

variable {ν κ : Type} {c : Client ν κ} {s s' : Session ν κ} {v : Verified Root}
  {K : κ → Prop}

/-- Whether a refresh starts from a root: it is the committed one, or nothing is committed and it is
the one that the local store gives, or the initial one where the store gives none that is valid. -/
inductive Starts (c : Client ν κ) (s : Session ν κ) (v : Verified Root) : Prop where
  | resumed {t : Trust} (committed : s.committed = some t) (rooted : t.Rooted c.primitives v)
  | cached (cold : s.committed = none)
    (loaded : (c.store.load Role.root.name s.world.cache).1 = .ok (some v.bytes))
    (selfSigned : Root.SelfSigned c.primitives v)
  | initial (cold : s.committed = none)
    (unheld : ∀ bs, (c.store.load Role.root.name s.world.cache).1 = .ok (some bs) →
      ¬ Root.Valid c.primitives bs)
    (bytes_eq : v.bytes = c.initialRoot) (selfSigned : Root.SelfSigned c.primitives v)

/-- Whether a refresh may get to a root: a line leads there from where it starts, with no more links
than the limit on rotations. -/
def Reaches (c : Client ν κ) (s : Session ν κ) (v : Verified Root) : Prop :=
  ∃ start, c.Starts s start ∧
    ∃ n ≤ c.limits.maxRootRotations.toNat, Root.Lineage c.primitives start n v

theorem Starts.reaches (h : c.Starts s v) : c.Reaches s v := ⟨v, h, 0, Nat.zero_le _, .refl⟩

/-- Whether bytes may be saved as the root's: if they are a root at all, a refresh may get to it. -/
def MaySave (c : Client ν κ) (s : Session ν κ) (bs : Bytes) : Prop :=
  ∀ m, Signed.parseAs c.primitives Root bs = .ok m → c.Reaches s ⟨m, bs⟩

theorem Reaches.maySave (h : c.Reaches s v) (hself : Root.SelfSigned c.primitives v) :
    c.MaySave s v.bytes := by
  intro m hm
  rwa [← hself.eq_of_read hm]

/-- Metadata of delegated roles may be saved under the name of the root: it is not one. -/
theorem maySave_of_targets {bs : Bytes} {m : Signed Targets}
    (h : Signed.parseAs c.primitives Targets bs = .ok m) : c.MaySave s bs :=
  fun root hroot => absurd hroot (Root.parseAs_ne_ok_of_targets h root)

/-- Whether what is committed, if anything is, has a root with its own ring of keys. -/
def Grounded (c : Client ν κ) (s : Session ν κ) : Prop :=
  ∀ t, s.committed = some t → ∃ v, t.Rooted c.primitives v

/-! ### A refresh -/

/-- So many rotations into a refresh, a line of as many links leads to the trusted root. -/
theorem upholds_line (hs : c.Grounded s) (now : Instant) :
    c.Upholds now s (c.MaySave s) fun n t => ∃ start v, c.Starts s start ∧
      Root.Lineage c.primitives start n v ∧ t.Rooted c.primitives v where
  resumed t ht := by
    obtain ⟨v, hv⟩ := hs t ht
    exact ⟨v, v, .resumed ht hv, .refl, hv.held, hv.ring⟩
  cached hcold bs t hload haccept := by
    obtain ⟨v, rfl, hself, hv⟩ := Trust.rooted_of_loadRoot haccept
    exact ⟨v, v, .cached hcold hload hself, .refl, hv⟩
  initial hcold hunrooted t haccept := by
    obtain ⟨v, hbytes, hself, hv⟩ := Trust.rooted_of_loadRoot haccept
    have hstart : c.Starts s v := by
      refine .initial hcold (fun bs hbs hvalid => ?_) hbytes hself
      obtain ⟨t', ht'⟩ := Trust.loadRoot_of_valid (t := .initial now) hvalid rfl
      exact hunrooted bs hbs t' ht'
    exact ⟨⟨v, v, hstart, .refl, hv⟩, hbytes ▸ hstart.reaches.maySave hself⟩
  rotated n hn bs t t' h haccept := by
    obtain ⟨start, v, hstart, hline, hv⟩ := h
    obtain ⟨v', rfl, hnext, hv'⟩ := hv.succeeds haccept
    have hline' := hline.link hnext
    have hreaches : c.Reaches s v' := ⟨start, hstart, n + 1, hn, hline'⟩
    exact ⟨⟨start, v', hstart, hline', hv'⟩, hreaches.maySave hnext.toSelfSigned⟩
  below n t offer t' hoffer h haccept := by
    obtain ⟨start, v, hstart, hline, hv⟩ := h
    exact ⟨start, v, hstart, hline, hv.attempt hoffer haccept⟩

/-- Whether what is committed, if anything is, has a root that a refresh from `s` may get to. -/
def CommitsReached (c : Client ν κ) (s s' : Session ν κ) : Prop :=
  ∀ t, s'.committed = some t → ∃ v, t.Rooted c.primitives v ∧ c.Reaches s v

theorem Grounded.commitsReached (hs : c.Grounded s) : c.CommitsReached s s := by
  intro t ht
  obtain ⟨v, hv⟩ := hs t ht
  exact ⟨v, hv, (Starts.resumed ht hv).reaches⟩

/-- After a refresh, whether it succeeds or fails, what is committed has a root that the refresh may
get to; and whatever loads and saves keep of the store still holds, if saves of such roots keep it.
-/
theorem refresh_reaches (hK : c.Guards (c.MaySave s) K) (hs : c.Grounded s) (now : Instant)
    (hcache : K s.world.cache) :
    K (c.refresh now s).2.world.cache ∧ c.CommitsReached s (c.refresh now s).2 := by
  obtain ⟨hkept, hcommitted⟩ := refresh_keeps hK (upholds_line hs now) hcache
  refine ⟨hkept, fun t ht => ?_⟩
  rcases hcommitted with hsame | ⟨t', ht', ⟨n, hn, start, v, hstart, hline, hv⟩, -⟩
  · exact hs.commitsReached t (hsame.symm.trans ht)
  · cases ht'.symm.trans ht
    exact ⟨v, hv, start, hstart, n, hn, hline⟩

/-! ### A look-up -/

theorem lookupCommitted_reaches (hK : c.Guards (c.MaySave s) K) (path : String)
    (hcache : K s'.world.cache) (hs' : c.CommitsReached s s') :
    K (c.lookupCommitted path s').2.world.cache ∧
      c.CommitsReached s (c.lookupCommitted path s').2 := by
  unfold lookupCommitted
  split
  · exact ⟨hcache, hs'⟩
  · rename_i t ht
    obtain ⟨v, hv, hreaches⟩ := hs' t ht
    have hbelow : Trust.KeptBelowRoot c.primitives fun t => t.Rooted c.primitives v :=
      fun _ _ _ hoffer h haccept => h.attempt hoffer haccept
    obtain ⟨hv', hkept⟩ :=
      lookup_keeps hK (fun _ _ => maySave_of_targets) hbelow path hv hcache
    refine ⟨hkept, ?_⟩
    rintro _ ⟨⟩
    exact ⟨v, hv', hreaches⟩

/-- The same of a look-up, which refreshes first if nothing is committed. -/
theorem targetInfo_reaches (hK : c.Guards (c.MaySave s) K) (hs : c.Grounded s) (now : Instant)
    (path : String) (hcache : K s.world.cache) :
    K (c.targetInfo now path s).2.world.cache ∧ c.CommitsReached s (c.targetInfo now path s).2 := by
  unfold targetInfo
  split
  · exact lookupCommitted_reaches hK path hcache hs.commitsReached
  · have hrefresh := refresh_reaches hK hs now hcache
    split
    · rename_i hdone
      rwa [hdone] at hrefresh
    · rename_i hdone
      rw [hdone] at hrefresh
      exact lookupCommitted_reaches hK path hrefresh.1 hrefresh.2

/-! ### The initial root as a floor -/

/-- What a first refresh commits has a root that is not below the initial one, or the local store
gives a root that is below it. Such a root is taken on its own word, and a line leads from it to the
committed one. -/
theorem refresh_root_floor (c : Client ν κ) (now : Instant) (w : World ν κ) {initial : Signed Root}
    {t : Trust} (hinitial : Signed.parseAs c.primitives Root c.initialRoot = .ok initial)
    (h : (c.refresh now ⟨none, w⟩).2.committed = some t) : ∃ root, t.root = some root ∧
      (initial.version ≤ root.version ∨ ∃ cached n,
        (c.store.load Role.root.name w.cache).1 = .ok (some cached.bytes) ∧
          Root.SelfSigned c.primitives cached ∧ cached.version < initial.version ∧
            Root.Lineage c.primitives cached n root) := by
  have hgrounded : c.Grounded ⟨none, w⟩ := by
    rintro t ⟨⟩
  obtain ⟨root, hroot, start, hstart, n, -, hline⟩ :=
    (refresh_reaches guards_trivial hgrounded now trivial).2 t h
  have hrises : start.version ≤ root.version := by
    rw [UInt64.le_iff_toNat_le, hline.version]
    omega
  refine ⟨root, hroot.held, ?_⟩
  cases hstart with
  | resumed committed rooted => cases committed
  | cached cold loaded selfSigned =>
    by_cases hbelow : start.version < initial.version
    · exact .inr ⟨start, n, loaded, selfSigned, hbelow, hline⟩
    · exact .inl (UInt64.le_trans (UInt64.not_lt.1 hbelow) hrises)
  | initial cold unheld bytes_eq selfSigned =>
    rw [← bytes_eq] at hinitial
    have hversion : start.version = initial.version := by
      rw [selfSigned.eq_of_read hinitial]
      rfl
    exact .inl (hversion ▸ hrises)

namespace Outdated

/-- A client that was shipped with the second root of the small repository. -/
def client : Client (List Reply) (Dict Bytes) := scripted Trust.Rekeyed.nextRoot

/-- The store of a client that was shipped with the first root, and a mirror that withholds the
second one. -/
def world : World (List Reply) (Dict Bytes) where
  net := [Sample.missing, .body (Sample.timestamp 1 1), .body (Sample.snapshot 1 1),
    .body (Sample.targets 1)]
  cache := .ofList [(Role.root.name, Sample.root)]
  events := []

/-- What is committed after a refresh. -/
def committed : Option Trust := (client.refresh Sample.now ⟨none, world⟩).2.committed

/-- The initial root, which its own key signed, has version 2, and the committed one version 1. -/
theorem committed_root : ∃ initial t root,
    Signed.parseAs .transparent Root client.initialRoot = .ok initial ∧ initial.version = 2 ∧
      initial.verifies .transparent initial.payload.roles.root
        (.ofKeys .transparent initial.payload.keys) = true ∧
      committed = some t ∧ t.root = some root ∧ root.version = 1 := by
  have hfacts : ((Signed.parseAs .transparent Root client.initialRoot).toOption.map fun m =>
        (m.version, m.verifies .transparent m.payload.roles.root
          (.ofKeys .transparent m.payload.keys))) = some (2, true) ∧
      (committed.bind (·.root)).map (·.version) = some 1 := by decide +kernel
  obtain ⟨hinitial, hcommitted⟩ := hfacts
  obtain ⟨root, hroot, hversion⟩ := Option.map_eq_some_iff.1 hcommitted
  obtain ⟨t, ht, hroot⟩ := Option.bind_eq_some_iff.1 hroot
  cases hparse : Signed.parseAs .transparent Root client.initialRoot with
  | error e =>
    rw [hparse] at hinitial
    cases hinitial
  | ok initial =>
    rw [hparse] at hinitial
    obtain ⟨hversion', hsigned⟩ := Prod.mk.inj (Option.some.inj hinitial)
    exact ⟨initial, t, root, rfl, hversion', hsigned, ht, hroot, hversion⟩

end Outdated

open Outdated in
/-- Where the store gives the first root and no mirror the second one, a line leads from the first
root to the committed one. -/
theorem refresh_root_floor_outdated : ∃ initial t,
    Signed.parseAs .transparent Root client.initialRoot = .ok initial ∧ committed = some t ∧
      ∃ root, t.root = some root ∧ (initial.version ≤ root.version ∨ ∃ cached n,
        (client.store.load Role.root.name world.cache).1 = .ok (some cached.bytes) ∧
          Root.SelfSigned .transparent cached ∧ cached.version < initial.version ∧
            Root.Lineage .transparent cached n root) := by
  obtain ⟨initial, t, root, hinitial, -, -, ht, -⟩ := committed_root
  exact ⟨initial, t, hinitial, ht, refresh_root_floor client Sample.now world hinitial ht⟩

open Outdated in
/-- The committed root is then below the initial one, which enough of its own keys signed. -/
theorem refresh_below_initial : ∃ initial t root,
    Signed.parseAs .transparent Root client.initialRoot = .ok initial ∧
      initial.verifies .transparent initial.payload.roles.root
        (.ofKeys .transparent initial.payload.keys) = true ∧
      committed = some t ∧ t.root = some root ∧ root.version < initial.version := by
  obtain ⟨initial, t, root, hinitial, hversion, hsigned, ht, hroot, hversion'⟩ := committed_root
  refine ⟨initial, t, root, hinitial, hsigned, ht, hroot, ?_⟩
  rw [hversion, hversion']
  decide

end SecureUpdate.Client
