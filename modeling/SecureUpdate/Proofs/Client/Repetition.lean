import SecureUpdate.Proofs.Client.Passage
import SecureUpdate.Proofs.Mirror.Failover

/-!
A refresh that is repeated. Where each address has one answer for each length, a second refresh asks
again for the root that the first one could not retrieve, and for the timestamp. A mirror whose
timestamp was refused is refused again, since floors do not fall and time does not turn back, and
the one that counted counts again. Snapshot and targets are current, so nothing else is asked for.

Main statement: `refresh_again`.
-/

namespace SecureUpdate

namespace Instant

variable {expires now later : Instant}

/-- What is over at one time is over at every later one. -/
theorem isOver_of_later (hlater : later.before now = false) (h : expires.isOver now = true) :
    expires.isOver later = true := by
  simp only [isOver, before, Bool.not_eq_true', Bool.or_eq_false_iff, Bool.and_eq_false_iff,
    decide_eq_false_iff_not, beq_eq_false_iff_ne] at hlater h ⊢
  omega

end Instant

namespace Trust

variable {p : Primitives} {t t' : Trust} {bs : Bytes} {origin : Origin} {root : Verified Root}

/-- Whether none of the top-level roles that are held is expired at some time. -/
structure Unexpired (t : Trust) (now : Instant) : Prop where
  root : ∀ v, t.root = some v → v.metadata.isExpired now = false
  timestamp : ∀ v, t.timestamp = some v → v.metadata.isExpired now = false
  snapshot : ∀ v, t.snapshot = some v → v.metadata.isExpired now = false
  targets : ∀ v, t.targets = some v → v.metadata.isExpired now = false

theorem unexpired_iff {now : Instant} : t.Unexpired now ↔
    (∀ v ∈ t.root, v.metadata.isExpired now = false) ∧
      (∀ v ∈ t.timestamp, v.metadata.isExpired now = false) ∧
      (∀ v ∈ t.snapshot, v.metadata.isExpired now = false) ∧
      ∀ v ∈ t.targets, v.metadata.isExpired now = false :=
  ⟨fun h => ⟨h.root, h.timestamp, h.snapshot, h.targets⟩, fun h => ⟨h.1, h.2.1, h.2.2.1, h.2.2.2⟩⟩

instance (now : Instant) : Decidable (t.Unexpired now) := decidable_of_iff _ unexpired_iff.symm

/-- A complete chain is complete at any time at which none of its roles is expired. -/
theorem checkConsistent_of_unexpired {later : Instant} (h : t.checkConsistent p = .ok ())
    (hlater : t.Unexpired later) : ({ t with now := later }).checkConsistent p = .ok () := by
  obtain ⟨root, timestamp, snapshot, targets, hchain⟩ := checkConsistent_eq_ok_iff.1 h
  obtain ⟨pin, hpin, hsnapshot⟩ := hchain.snapshot_current
  obtain ⟨pin', hpin', htargets⟩ := hchain.targets_current
  refine checkConsistent_eq_ok_iff.2 ⟨root, timestamp, snapshot, targets, ?_⟩
  exact {
    root_held := hchain.root_held
    timestamp_held := hchain.timestamp_held
    snapshot_held := hchain.snapshot_held
    targets_held := hchain.targets_held
    root_unexpired := hlater.root root hchain.root_held
    timestamp_unexpired := hlater.timestamp timestamp hchain.timestamp_held
    snapshot_current :=
      ⟨pin, hpin, hsnapshot.described, hlater.snapshot snapshot hchain.snapshot_held⟩
    targets_current :=
      ⟨pin', hpin', htargets.described, hlater.targets targets hchain.targets_held⟩ }

/-! ### The timestamp once more -/

/-- Whether what is trusted came about after a timestamp was accepted: the timestamp is held, the
root is the same, and time has not turned back. -/
structure Stamped (t : Trust) (v : Verified Timestamp) (t' : Trust) : Prop where
  root : t'.root = t.root
  rootKeys : t'.rootKeys = t.rootKeys
  timestamp : t'.timestamp = some v
  later : t'.now.before t.now = false

section Again

variable {m : Signed Timestamp} (hm : NextTimestamp p t bs .remote root m)
  (h : t.Stamped ⟨m, bs⟩ t')
include hm h

/-- What is refused on top of what was trusted before a timestamp is refused on top of it. -/
theorem updateTimestamp_before {bs' : Bytes} {t₂ : Trust}
    (haccept : t'.updateTimestamp p bs' .remote = .ok t₂) :
    ∃ t₃, t.updateTimestamp p bs' .remote = .ok t₃ := by
  obtain ⟨root', m', hm', -⟩ := updateTimestamp_eq_ok_iff.1 haccept
  refine ⟨_, updateTimestamp_eq_ok_iff.2 ⟨root', m', ?_, rfl⟩⟩
  exact {
    root_held := h.root ▸ hm'.root_held
    read := hm'.read
    version_le := fun held hheld =>
      UInt64.le_trans (hm.version_le held hheld) (hm'.version_le _ h.timestamp)
    pin_le := by
      intro held hheld
      obtain ⟨old, middle, hold, hmiddle, hle⟩ := hm.pin_le held hheld
      obtain ⟨middle', new, hmiddle', hnew, hle'⟩ := hm'.pin_le _ h.timestamp
      cases hmiddle.symm.trans hmiddle'
      exact ⟨old, new, hold, hnew, UInt64.le_trans hle hle'⟩
    unexpired := by
      intro _
      have hfresh := hm'.unexpired rfl
      cases hover : m'.isExpired t.now with
      | false => rfl
      | true =>
        exact absurd (Instant.isOver_of_later h.later hover) (by simp_all [Signed.isExpired])
    signed := by
      have hsigned := hm'.signed
      rwa [h.rootKeys] at hsigned }

/-- A timestamp that is held is accepted again while it is unexpired, and changes nothing. -/
theorem updateTimestamp_again (hpin : m.payload.snapshotPin?.isSome = true)
    (hfresh : m.isExpired t'.now = false) : t'.updateTimestamp p bs .remote = .ok t' := by
  obtain ⟨pin, hpin⟩ := Option.isSome_iff_exists.1 hpin
  refine updateTimestamp_eq_ok_iff.2 ⟨root, m, ?_, ?_⟩
  · exact {
      root_held := h.root.trans hm.root_held
      read := hm.read
      version_le := by
        intro held hheld
        cases h.timestamp.symm.trans hheld
        exact UInt64.le_refl _
      pin_le := by
        intro held hheld
        cases h.timestamp.symm.trans hheld
        exact ⟨pin, pin, hpin, hpin, UInt64.le_refl _⟩
      unexpired := fun _ => hfresh
      signed := h.rootKeys ▸ hm.signed }
  · rw [← h.timestamp]

end Again

end Trust

namespace Client

variable {ν κ : Type} {c : Client ν κ} {answer : String → UInt64 → Reply}
  {view : κ → String → Option Bytes} {s : Session ν κ} {now later : Instant} {t : Trust}
  {w : World ν κ} {bs : Bytes}

/-- The file of the timestamp. -/
def timestampFile : String := metadataFile Role.timestamp.name none

/-- Whether `asked` reads off the network which addresses were asked for, and up to which lengths,
in order. -/
def Logs (c : Client ν κ) (asked : ν → List (String × UInt64)) : Prop :=
  ∀ url maxLength net, asked (c.fetcher url maxLength net).2 = asked net ++ [(url, maxLength)]

/-- Whether nothing but some files was asked for between two states of the network. -/
def AskedOnly (c : Client ν κ) (asked : ν → List (String × UInt64)) (files : List String)
    (net₀ net : ν) : Prop :=
  ∃ requests, asked net = asked net₀ ++ requests ∧
    ∀ request ∈ requests, ∃ file ∈ files, ∃ m ∈ c.mirrors, request.1 = m.metadataUrl file

theorem AskedOnly.fetch {asked : ν → List (String × UInt64)} (hasked : c.Logs asked)
    {files : List String} {net₀ net : ν} (h : c.AskedOnly asked files net₀ net) {file : String}
    (hfile : file ∈ files) {m : Mirror} (hm : m ∈ c.mirrors) (maxLength : UInt64) :
    c.AskedOnly asked files net₀ (c.fetcher (m.metadataUrl file) maxLength net).2 := by
  obtain ⟨requests, hlog, hrequests⟩ := h
  refine ⟨requests ++ [(m.metadataUrl file, maxLength)], ?_, ?_⟩
  · rw [hasked, hlog, List.append_assoc]
  · intro request hrequest
    rcases List.mem_append.1 hrequest with hold | hnew
    · exact hrequests request hold
    · rw [List.mem_singleton.1 hnew]
      exact ⟨file, hfile, m, hm, rfl⟩

/-! ### The second refresh -/

/-- Whether the mirrors, asked on top of what is trusted, give no next root, and give the timestamp
that is held. -/
structure Unchanging (c : Client ν κ) (answer : String → UInt64 → Reply) (t : Trust) (bs : Bytes) :
    Prop where
  root : ∃ e, e.isTransport = true ∧ c.settle answer (nextRootFile t) c.limits.rootSizeCap
    (fun bs t => t.updateRoot c.primitives bs) t = .error e
  timestamp : c.settle answer timestampFile c.limits.timestampSizeCap
    (fun bs t => t.updateTimestamp c.primitives bs .remote) t = .ok (bs, t)

/-- Snapshot and targets of a complete chain are not asked for. -/
theorem updates_skip {k : Working} (h : k.trust.checkConsistent c.primitives = .ok ())
    (w : World ν κ) :
    c.updateSnapshot k w = (.ok k, w) ∧ c.updateTargets k w = (.ok k, w) := by
  obtain ⟨root, timestamp, snapshot, targets, hchain⟩ := Trust.checkConsistent_eq_ok_iff.1 h
  obtain ⟨pin, hpin, hsnapshot⟩ := hchain.snapshot_current
  obtain ⟨pin', hpin', htargets⟩ := hchain.targets_current
  have hlisted : k.trust.isSnapshotCurrent c.primitives = true := Trust.isSnapshotCurrent_iff.2
    ⟨timestamp, snapshot, pin, hchain.timestamp_held, hchain.snapshot_held, hpin, hsnapshot⟩
  have hended : k.trust.isTargetsCurrent c.primitives = true := Trust.isPinned_iff.2
    ⟨snapshot, targets, pin', hchain.snapshot_held, hchain.targets_held, hpin', htargets⟩
  rw [updateSnapshot, if_pos hlisted, updateTargets, if_pos hended]
  exact ⟨rfl, rfl⟩

/-- A refresh of a complete chain to which the mirrors have nothing to add asks for the next root
and for the timestamp, and saves the timestamp. -/
theorem refresh_of_unchanging (hanswer : c.AnswersWith answer) (hstore : c.store.Writable view)
    (h : c.Unchanging answer { t with now := later } bs)
    (hcheck : ({ t with now := later }).checkConsistent c.primitives = .ok ())
    (hrotations : 0 < c.limits.maxRootRotations.toNat) (w : World ν κ) :
    ∃ w', c.refresh later ⟨some t, w⟩ = (.ok (), ⟨some { t with now := later }, w'⟩) ∧
      (∀ other, view w'.cache other =
        if Role.timestamp.name = other then some bs else view w.cache other) ∧
      ∀ I : ν → Prop, (∀ file ∈ [nextRootFile t, timestampFile], ∀ m ∈ c.mirrors, ∀ maxLength net,
        I net → I (c.fetcher (m.metadataUrl file) maxLength net).2) → I w.net → I w'.net := by
  obtain ⟨e, htransport, hroot⟩ := h.root
  let k : Working := { trust := { t with now := later }, cold := false, saveError := none }
  obtain ⟨net₁, hfetch₁⟩ := c.fetchAccepted_eq hanswer (nextRootFile k.trust) c.limits.rootSizeCap
    (fun bs t => t.updateRoot c.primitives bs) k.trust w
  rw [hroot] at hfetch₁
  obtain ⟨net₂, hfetch₂⟩ := c.fetchAccepted_eq hanswer timestampFile c.limits.timestampSizeCap
    (fun bs t => t.updateTimestamp c.primitives bs .remote) k.trust { w with net := net₁ }
  rw [h.timestamp] at hfetch₂
  obtain ⟨cache, hnote, hview⟩ := noteAccepted_eq hstore .timestamp
    ((k.trust.timestamp.map Verified.version).getD 0) bs k { w with net := net₂ }
  obtain ⟨root, _, _, _, hchain⟩ := Trust.checkConsistent_eq_ok_iff.1 hcheck
  let stamped : World ν κ := { w with
    net := net₂
    cache
    events := w.events ++ [.accepted Role.timestamp.name
      ((k.trust.timestamp.map Verified.version).getD 0)] }
  have hpassage : Passage c later (some t) w (k, w) (k, { w with net := net₁ })
      (k, { w with net := net₁ }) (k, stamped) (k, stamped) (k, stamped) := {
    start := rfl
    rotation := rotateRoots_stop hrotations hfetch₁ htransport
    root_unexpired := Trust.checkRootExpiry_eq_ok_iff.2
      ⟨root, hchain.root_held, hchain.root_unexpired⟩
    floors := rfl
    timestamp := by
      show (c.fetchAccepted timestampFile c.limits.timestampSizeCap _ k.trust >>= _) _ = _
      rw [Task.bind_of_ok hfetch₂]
      exact hnote
    snapshot := (updates_skip hcheck stamped).1
    targets := (updates_skip hcheck stamped).2
    consistent := hcheck }
  refine ⟨{ stamped with events := stamped.events ++ [.refreshCompleted] },
    refresh_ok_of_passage (s := ⟨some t, w⟩) hpassage rfl, hview, fun I hI hw => ?_⟩
  have hnet₁ : I net₁ := fetchAccepted_net hfetch₁
    (fun m hm => hI (nextRootFile t) List.mem_cons_self m hm c.limits.rootSizeCap) hw
  have hnet₂ : I net₂ := fetchAccepted_net hfetch₂
    (fun m hm => hI timestampFile (by simp) m hm c.limits.timestampSizeCap) hnet₁
  exact hnet₂

/-! ### After the first refresh -/

section Passage

variable {committed : Option Trust}
  {started rooted floored stamped listed ended : Working × World ν κ}
  (h : Passage c now committed w started rooted floored stamped listed ended)
include h

/-- The next root is still out of reach, since no mirror gives a body for it. -/
theorem Passage.nextRoot_again (hanswer : c.AnswersWith answer)
    (hended : rotations ended.2.events <
      rotations w.events + c.limits.maxRootRotations.toNat) (later : Instant) :
    ∃ e, e.isTransport = true ∧ c.settle answer (nextRootFile { ended.1.trust with now := later })
      c.limits.rootSizeCap (fun bs t => t.updateRoot c.primitives bs)
        { ended.1.trust with now := later } = .error e := by
  obtain ⟨-, hfloors, hsame⟩ := h.sameRoot
  rcases h.rotation_ended with hmost | ⟨w₁, w₂, e, hfetch, htransport⟩
  · omega
  · obtain ⟨net, hsettle⟩ := c.fetchAccepted_eq hanswer (nextRootFile rooted.1.trust)
      c.limits.rootSizeCap (fun bs t => t.updateRoot c.primitives bs) rooted.1.trust w₁
    obtain ⟨hfailed, -⟩ := Prod.mk.inj (hsettle.symm.trans hfetch)
    have hfile : nextRootFile rooted.1.trust =
        nextRootFile { ended.1.trust with now := later } := by
      simp only [nextRootFile, nextRootVersion, hsame.root, hfloors.root]
    obtain ⟨e', he', htransport'⟩ := settle_transport (fun _ => Trust.updateRoot_error) hfailed
      htransport { ended.1.trust with now := later }
    exact ⟨e', htransport', hfile ▸ he'⟩

/-- The timestamp is given again, and the store holds it. -/
theorem Passage.timestamp_again (hanswer : c.AnswersWith answer) (hstore : c.store.Writable view)
    (hlater : later.before now = false) (hfresh : ended.1.trust.Unexpired later) : ∃ bs,
      c.settle answer timestampFile c.limits.timestampSizeCap
        (fun bs t => t.updateTimestamp c.primitives bs .remote)
          { ended.1.trust with now := later } = .ok (bs, { ended.1.trust with now := later }) ∧
      view ended.2.cache Role.timestamp.name = some bs := by
  obtain ⟨hnow, hfloors, hsame⟩ := h.sameRoot
  obtain ⟨bs, root, m, w₁, hfetch, hm, htimestamp, hcache⟩ := h.timestamp_ok
  refine ⟨bs, ?_, ?_⟩
  · obtain ⟨net, hsettle⟩ := c.fetchAccepted_eq hanswer timestampFile c.limits.timestampSizeCap
      (fun bs t => t.updateTimestamp c.primitives bs .remote) floored.1.trust floored.2
    obtain ⟨hfound, -⟩ := Prod.mk.inj (hsettle.symm.trans hfetch)
    have hstamped : floored.1.trust.Stamped ⟨m, bs⟩ { ended.1.trust with now := later } := {
      root := hsame.root
      rootKeys := hsame.rootKeys
      timestamp := htimestamp
      later := by rw [hfloors.now, hnow]; exact hlater }
    obtain ⟨pin, hpin⟩ : ∃ pin, m.payload.snapshotPin? = some pin := by
      obtain ⟨_, timestamp, _, _, hchain⟩ := Trust.checkConsistent_eq_ok_iff.1 h.consistent
      cases htimestamp.symm.trans hchain.timestamp_held
      exact hchain.snapshot_current.imp fun _ hpin => hpin.1
    refine settle_again hfound (fun _ _ => Trust.updateTimestamp_before hm hstamped) ?_
    exact Trust.updateTimestamp_again hm hstamped (by rw [hpin]; rfl)
      (hfresh.timestamp _ htimestamp)
  · obtain ⟨cache, hsave, hview⟩ := hstore.save Role.timestamp.name bs floored.2.cache
    -- snapshot and targets are saved under their own names
    calc
      view ended.2.cache Role.timestamp.name = view listed.2.cache Role.timestamp.name :=
        (updateTargets_ok h.targets).stored hstore nofun
      _ = view stamped.2.cache Role.timestamp.name :=
        (updateSnapshot_ok h.snapshot).stored hstore nofun
      _ = some bs := by rw [hcache, hsave, hview, if_pos rfl]

end Passage

/-- After a refresh that succeeded and ended its chain of roots for want of a next root, the mirrors
have nothing to add, and the store holds the timestamp that is committed. -/
theorem unchanging_of_refresh (hanswer : c.AnswersWith answer) (hstore : c.store.Writable view)
    (hok : (c.refresh now s).1 = .ok ())
    (hended : rotations (c.refresh now s).2.world.events <
      rotations s.world.events + c.limits.maxRootRotations.toNat)
    (ht : (c.refresh now s).2.committed = some t) (hlater : later.before now = false)
    (hfresh : t.Unexpired later) :
    t.checkConsistent c.primitives = .ok () ∧ 0 < c.limits.maxRootRotations.toNat ∧ ∃ bs,
      c.Unchanging answer { t with now := later } bs ∧
        view (c.refresh now s).2.world.cache Role.timestamp.name = some bs := by
  obtain ⟨started, rooted, floored, stamped, listed, ended, h, hcommitted, hworld⟩ :=
    passage_of_refresh_ok hok
  cases ht.symm.trans hcommitted
  rw [hworld, rotations_append] at hended
  have hone : rotations [.refreshCompleted] = 0 := rfl
  have hgrown := rotations_le h.grows
  obtain ⟨bs, htimestamp, hstored⟩ := h.timestamp_again hanswer hstore hlater hfresh
  refine ⟨h.consistent, by omega, bs, ⟨?_, htimestamp⟩, ?_⟩
  · exact h.nextRoot_again hanswer (by omega) later
  · rw [hworld]
    exact hstored

/-- Where answers are fixed by address and length and saves succeed: a refresh that succeeds, and
that ended its chain of roots for want of a next root, is repeated at a later time at which none of
the top-level roles is expired. The repeated refresh succeeds and commits what was committed, judged
at its own time; the store holds what it held; and no file is asked for but the next root and the
timestamp. -/
theorem refresh_again (hanswer : c.AnswersWith answer) (hstore : c.store.Writable view)
    {asked : ν → List (String × UInt64)} (hasked : c.Logs asked)
    (hok : (c.refresh now s).1 = .ok ())
    (hended : rotations (c.refresh now s).2.world.events <
      rotations s.world.events + c.limits.maxRootRotations.toNat)
    (ht : (c.refresh now s).2.committed = some t) (hlater : later.before now = false)
    (hfresh : t.Unexpired later) :
    let first := (c.refresh now s).2
    let again := c.refresh later first
    again.1 = .ok () ∧ again.2.committed = some { t with now := later } ∧
      view again.2.world.cache = view first.world.cache ∧
      ∃ requests, asked again.2.world.net = asked first.world.net ++ requests ∧
        ∀ request ∈ requests, ∃ file ∈ [nextRootFile t, timestampFile], ∃ m ∈ c.mirrors,
          request.1 = m.metadataUrl file := by
  intro first again
  obtain ⟨hcheck, hrotations, bs, hunchanging, hstored⟩ :=
    unchanging_of_refresh hanswer hstore hok hended ht hlater hfresh
  obtain ⟨w', hagain, hview, hnet⟩ := refresh_of_unchanging hanswer hstore hunchanging
    (Trust.checkConsistent_of_unexpired hcheck hfresh) hrotations first.world
  have hfirst : first = ⟨some t, first.world⟩ := by
    rw [← ht]
  have hagain' : again = (.ok (), ⟨some { t with now := later }, w'⟩) := by
    show c.refresh later first = _
    rw [hfirst]
    exact hagain
  rw [hagain']
  refine ⟨rfl, rfl, ?_, ?_⟩
  · funext other
    show view w'.cache other = view first.world.cache other
    rw [hview other]
    split
    · rename_i hother
      rw [← hother]
      exact hstored.symm
    · rfl
  · exact hnet (c.AskedOnly asked [nextRootFile t, timestampFile] first.world.net)
      (fun file hfile m hm maxLength net h => h.fetch hasked hfile hm maxLength)
      ⟨[], (List.append_nil _).symm, nofun⟩

namespace TwoMirrors

/-- A mirror that gives a snapshot where it is asked for the timestamp. -/
def stale : Mirror := .ofUrl "https://stale.example"

/-- A mirror of the small repository. -/
def good : Mirror := .ofUrl "https://mirror.example"

def client : Client (List (String × UInt64)) (Dict Bytes) :=
  served [stale, good] [(stale.metadataUrl "timestamp.json", Sample.snapshot 1 1),
    (good.metadataUrl "timestamp.json", Sample.timestamp 1 1),
    (good.metadataUrl "snapshot.json", Sample.snapshot 1 1),
    (good.metadataUrl "targets.json", Sample.targets 1)] Sample.root

/-- Nothing is committed or stored, and nothing has been asked for. -/
def untouched : Session (List (String × UInt64)) (Dict Bytes) := ⟨none, [], .empty, []⟩

/-- A minute after the small repository was asked. -/
def afterwards : Instant := ⟨60, 0, by decide⟩

end TwoMirrors

open TwoMirrors in
/-- The small repository is refreshed from the second of two mirrors, and again a minute later. -/
theorem refresh_again_two_mirrors :
    let first := (client.refresh Sample.now untouched).2
    let again := client.refresh afterwards first
    ∃ t, first.committed = some t ∧ again.1 = .ok () ∧
      again.2.committed = some { t with now := afterwards } ∧
      SortedMap.get? again.2.world.cache = SortedMap.get? first.world.cache ∧
      ∃ requests, again.2.world.net = first.world.net ++ requests ∧
        ∀ request ∈ requests, ∃ file ∈ [nextRootFile t, timestampFile], ∃ m ∈ client.mirrors,
          request.1 = m.metadataUrl file := by
  have hfacts : (client.refresh Sample.now untouched).1.isOk = true ∧
      (client.refresh Sample.now untouched).2.committed.isSome = true ∧
      rotations (client.refresh Sample.now untouched).2.world.events <
        rotations untouched.world.events + client.limits.maxRootRotations.toNat ∧
      ∀ t ∈ (client.refresh Sample.now untouched).2.committed, t.Unexpired afterwards := by
    decide +kernel
  obtain ⟨hok, hsome, hended, hfresh⟩ := hfacts
  obtain ⟨t, ht⟩ := Option.isSome_iff_exists.1 hsome
  have hanswer : client.AnswersWith _ := served_answersWith _ _ _
  have hstore : client.store.Writable SortedMap.get? := LocalStore.plain_reliable.writable
  have hlogs : client.Logs id := fun _ _ _ => rfl
  have hlater : afterwards.before Sample.now = false := by decide
  have hagain := refresh_again hanswer hstore hlogs (Chain.isOk_iff.1 hok) hended ht hlater
    (hfresh t ht)
  exact ⟨t, ht, hagain⟩

end Client

end SecureUpdate
