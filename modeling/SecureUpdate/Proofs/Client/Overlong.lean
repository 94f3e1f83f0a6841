import Mathlib.Data.List.Forall2
import SecureUpdate.Client.Download
import SecureUpdate.Client.Lookup
import SecureUpdate.Files.Tree
import SecureUpdate.Proofs.Client.Company
import SecureUpdate.Proofs.Client.Delegators
import SecureUpdate.Proofs.Failure
import SecureUpdate.Proofs.Mirror.Order
import SecureUpdate.Proofs.Transport.Ceiling

/-!
Bodies that are longer than they should be. One byte past the declared length is asked for, so a
longer body is either delivered, and then refused, or cut off, and then what was cut off is put as a
mismatch of the length. Each mirror that answers with such a body is blamed for it in the report of
a retrieval that fails, the other mirrors stand in it with their own failures, and the whole is not
taken for an outage.

Main statements: `cutsOff_http`, `cutsOff_files`, `overlong_blamed`.
-/

namespace SecureUpdate

variable {ν κ σ : Type}

/-! ### Longer bodies -/

/-- Whether a reply is a body longer than a length, delivered or cut off. -/
def Reply.Overlong (length : UInt64) : Reply → Prop
  | .body bs => length.toNat < bs.length
  | .failure (.lengthExceeded _ received) => length.toNat < received
  | _ => False

/-- Whether a fetcher cuts off only bodies that are longer than it may deliver, and says so much of
their length that this can be seen. -/
def Fetcher.CutsOff (fetcher : Fetcher ν) : Prop :=
  ∀ url maxLength net ceiling received net',
    fetcher url maxLength net = (.failure (.lengthExceeded ceiling received), net') →
      maxLength.toNat < received

/-- Whether the refusals of a verifier are failures of trust, and those of bodies longer than a
length are put in a certain way. -/
structure Verifier.Blames (verify : Verifier σ) (length : UInt64) (Blame : TrustError → Prop) :
    Prop where
  ofTrust : ∀ {bs s e s'}, verify bs s = (.error e, s') → e.ofTrust = true
  overlong : ∀ {bs s e s'}, verify bs s = (.error e, s') → length.toNat < bs.length → Blame e

/-! ### Fetchers that cut off -/

namespace Fetcher

/-- The fetcher that replies with what a transfer comes to. -/
def ofTransfer (transfer : String → UInt64 → ν → Except FetchError Bytes × ν) : Fetcher ν :=
  fun url maxLength net =>
    match transfer url maxLength net with
    | (.ok bs, net) => (.body bs, net)
    | (.error e, net) => (.failure e, net)

theorem cutsOff_ofTransfer {transfer : String → UInt64 → ν → Except FetchError Bytes × ν}
    (h : ∀ url maxLength net, Chain.FailsWith (FetchError.ReportsAbove maxLength)
      (transfer url maxLength net).1) : (ofTransfer transfer).CutsOff := by
  intro url maxLength net ceiling received net' hreply
  have hfails := h url maxLength net
  unfold ofTransfer at hreply
  split at hreply
  · cases hreply
  · rename_i e net₁ htransfer
    cases hreply
    rw [htransfer] at hfails
    exact (hfails _ rfl).2

/-- Transfers over HTTP cut off longer bodies only, whatever the responses and what they depend on.
-/
theorem cutsOff_http (exchange : ν → String → Transport.Response) (next : ν → String → ν)
    (allowPlaintext : Bool) :
    (ofTransfer fun url maxLength net =>
      (Transport.fetchHttp (exchange net) allowPlaintext url maxLength, next net url)).CutsOff :=
  cutsOff_ofTransfer fun url maxLength net =>
    Transport.fetchHttp_reportsAbove (exchange net) allowPlaintext url maxLength

/-- Transfers of local files do so, too. -/
theorem cutsOff_files (fs : FileSystem ν) : (ofTransfer (Transport.fetchFile fs)).CutsOff :=
  cutsOff_ofTransfer fun path maxLength d => Transport.fetchFile_reportsAbove fs path maxLength d

end Fetcher

/-! ### What is made of a transfer that was cut off -/

namespace TrustError

variable {f : Nat → TrustError}

theorem replaceLengthExceeded_of_ofTrust {e : TrustError} (h : e.ofTrust = true) :
    e.replaceLengthExceeded f = e := by
  cases e with
  | fetch | noWorkingMirror | store | io => cases h
  | _ => rfl

theorem replaceLengthExceededEach_eq_map (errors : List (String × TrustError)) :
    replaceLengthExceededEach f errors =
      errors.map fun line => (line.1, line.2.replaceLengthExceeded f) := by
  induction errors with
  | nil => rfl
  | cons line errors ih =>
    rw [replaceLengthExceededEach, ih]
    rfl

end TrustError

namespace MirrorList

variable {timeout : Nat} {fetcher : Fetcher ν} {verify : Verifier σ} {resource : Resource}
  {maxLength length : UInt64} {Blame : TrustError → Prop} {f : Nat → TrustError} {m : Mirror}
  {ms : List Mirror} {a b z : ν × σ} {reply : Reply} {replies : List Reply} {e own : TrustError}
  {errors : List (String × TrustError)}

/-- To replace transfers that were cut off in the failure of all mirrors is to replace them mirror
by mirror. -/
theorem replaceLengthExceeded_failure (resource : Resource) (errors : List (String × TrustError)) :
    (failure resource errors).replaceLengthExceeded f =
      failure resource (errors.map fun line => (line.1, line.2.replaceLengthExceeded f)) := by
  by_cases h : errors.length = 1
  · obtain ⟨line, rfl⟩ := List.length_eq_one_iff.1 h
    rfl
  · rw [failure_of_length_ne_one resource h,
      failure_of_length_ne_one resource (by rwa [List.length_map]),
      TrustError.replaceLengthExceeded, TrustError.replaceLengthExceededEach_eq_map]

/-- How the failure of a mirror, which stands with its reply, is told: one that answered with a body
longer than a length is blamed, and another one keeps its own failure. -/
structure Told (length : UInt64) (Blame : TrustError → Prop) (line : Reply × String × TrustError)
    (told : String × TrustError) : Prop where
  address : told.1 = line.2.1
  overlong : line.1.Overlong length → Blame told.2
  other : ¬ line.1.Overlong length → told.2 = line.2.2

section Telling

variable (hcut : fetcher.CutsOff) (hverify : verify.Blames length Blame)
  (hmax : length.toNat ≤ maxLength.toNat)
  (hf : ∀ received, length.toNat < received → Blame (f received))
include hcut hverify hmax hf

theorem Fails.told (h : Fails timeout fetcher verify resource maxLength m a reply own b) :
    Told length Blame (reply, m.baseUrl, own) (m.baseUrl, own.replaceLengthExceeded f) := by
  cases h with
  | @failure _ _ _ e hreply =>
    cases e with
    | lengthExceeded ceiling received =>
      -- what was received shows that the body is longer than the length, too
      have hover : length.toNat < received :=
        Nat.lt_of_le_of_lt hmax (hcut _ _ _ _ _ _ hreply)
      exact ⟨rfl, fun _ => hf received hover, fun hnot => absurd hover hnot⟩
    | _ => exact ⟨rfl, nofun, fun _ => rfl⟩
  | stalled hreply => exact ⟨rfl, nofun, fun _ => rfl⟩
  | refused hreply hrefused =>
    rw [TrustError.replaceLengthExceeded_of_ofTrust (hverify.ofTrust hrefused)]
    exact ⟨rfl, hverify.overlong hrefused, fun _ => rfl⟩

/-- Each mirror has its line in the report, where it stood. -/
theorem AllFail.told (h : AllFail timeout fetcher verify resource maxLength ms a replies errors z) :
    List.Forall₂ (Told length Blame) (replies.zip errors)
      (errors.map fun line => (line.1, line.2.replaceLengthExceeded f)) := by
  induction h with
  | nil => exact .nil
  | cons hm _ ih => exact .cons (hm.told hcut hverify hmax hf) ih

/-- A mirror that answered with a longer body is blamed somewhere in the report. -/
theorem AllFail.exists_blame
    (h : AllFail timeout fetcher verify resource maxLength ms a replies errors z)
    (hover : ∃ reply ∈ replies, reply.Overlong length) :
    ∃ line ∈ errors, Blame (line.2.replaceLengthExceeded f) := by
  induction h with
  | nil => simp at hover
  | cons hm _ ih =>
    obtain ⟨reply, hreply, hover⟩ := hover
    rcases List.mem_cons.1 hreply with rfl | hreply
    · exact ⟨_, List.mem_cons_self, (hm.told hcut hverify hmax hf).overlong hover⟩
    · obtain ⟨line, hline, hblame⟩ := ih ⟨reply, hreply, hover⟩
      exact ⟨line, List.mem_cons_of_mem _ hline, hblame⟩

end Telling

/-- What a retrieval that fails says, if bodies longer than a length are of interest. Every mirror
that may be asked has failed, and has its line in the report in the place where it was asked. If one
of them answered with a longer body, the whole counts neither as a failure of transport nor as
saying that the resource does not exist. -/
def Reports (list : MirrorList) (fetcher : Fetcher ν) (verify : Verifier σ) (resource : Resource)
    (maxLength length : UInt64) (Blame : TrustError → Prop) (a : ν × σ) (e : TrustError) : Prop :=
  ∃ replies own told z,
    AllFail list.timeout fetcher verify resource maxLength (list.eligible resource) a replies own
      z ∧ List.Forall₂ (Told length Blame) (replies.zip own) told ∧ e = failure resource told ∧
        ((∃ reply ∈ replies, reply.Overlong length) →
          e.isTransport = false ∧ e.isNotFound = false)

/-- A retrieval reports what its failure comes to when transfers that were cut off are replaced. -/
theorem reports_of_fetchVerified {list : MirrorList} (hcut : fetcher.CutsOff)
    (hverify : verify.Blames length Blame) (hmax : length.toNat ≤ maxLength.toNat)
    (hf : ∀ received, length.toNat < received → Blame (f received))
    (hblame : ∀ e, Blame e → e.ofTrust = true)
    (h : list.fetchVerified fetcher verify resource maxLength a.1 a.2 = (.error e, z)) :
    list.Reports fetcher verify resource maxLength length Blame a (e.replaceLengthExceeded f) := by
  obtain ⟨replies, errors, hall, rfl⟩ := fetchVerified_error h
  refine ⟨replies, errors, _, z, hall, hall.told hcut hverify hmax hf,
    replaceLengthExceeded_failure resource errors, fun hover => ?_⟩
  obtain ⟨line, hline, hlongest⟩ := hall.exists_blame hcut hverify hmax hf hover
  have htransport : ((failure resource errors).replaceLengthExceeded f).isTransport = false := by
    rw [replaceLengthExceeded_failure, Bool.eq_false_iff]
    intro htransport
    have hmem := List.mem_map_of_mem (f := fun line : String × TrustError =>
      (line.1, line.2.replaceLengthExceeded f)) hline
    have hline := isTransport_failure.1 htransport _ hmem
    cases (TrustError.isTransport_of_ofTrust (hblame _ hlongest)).symm.trans hline
  exact ⟨htransport, TrustError.isNotFound_of_isTransport htransport⟩

end MirrorList

/-! ### Retrievals of a client -/

/-- A step that does not succeed fails in some way. -/
theorem Task.exists_error {α : Type} {a : Task ν κ α} {w : World ν κ} (h : (a w).1.isOk = false) :
    ∃ e w', a w = (.error e, w') := by
  cases ha : a w with
  | mk r w' =>
    cases r with
    | ok x =>
      rw [ha] at h
      cases h
    | error e => exact ⟨e, w', rfl⟩

namespace Client

variable {c : Client ν κ} {k : Working} {t : Trust} {w w' : World ν κ} {e : TrustError}
  {pin : Pin} {length : UInt64} {role delegator : String}

def delegatedInquiry (c : Client ν κ) (t : Trust) (role delegator : String) (pin : Pin) : Inquiry :=
  ⟨pinnedFile t role pin, pin.cap c.limits.targetsSizeCap,
    fun bs t => t.updateDelegated c.primitives bs role delegator .remote, t⟩

/-- What the retrieval of pinned metadata says when it fails: a mirror that answered with a body
longer than the pinned length is blamed with a failure of trust. -/
def ReportsPinned (c : Client ν κ) (q : Inquiry) (length : UInt64) (w : World ν κ)
    (e : TrustError) : Prop :=
  c.mirrorList.Reports c.fetcher (Verifier.ofAcceptance q.accept) (.metadata q.file) q.maxLength
    length (fun e => e.ofTrust = true) (w.net, q.trust) e

/-- What the download of a target says when it fails: a mirror that answered with a body longer than
the declared length is blamed with it, and with a length that is too great. -/
def ReportsTarget (c : Client ν κ) (committed : Option Trust) (target : Target) (w : World ν κ)
    (e : TrustError) : Prop :=
  c.mirrorList.Reports c.fetcher (Verifier.ofCheck (σ := Unit) (target.check c.primitives))
    (.target target.path (c.storedName committed target)) (onePast target.length) target.length
    (fun e => ∃ actual, e = .downloadLengthMismatch target.path target.length.toNat actual ∧
      target.length.toNat < actual) (w.net, ()) e

/-! ### Downloads -/

/-- A body of another length than the declared one is blamed with its length, before anything else
is looked at. -/
theorem check_blames (p : Primitives) (target : Target) :
    (Verifier.ofCheck (σ := σ) (target.check p)).Blames target.length fun e =>
      ∃ actual, e = .downloadLengthMismatch target.path target.length.toNat actual ∧
        target.length.toNat < actual where
  ofTrust := by
    intro bs s e s' h
    obtain ⟨hcheck, -⟩ := Prod.mk.inj h
    unfold Target.check at hcheck
    split at hcheck
    · cases hcheck
      rfl
    · split at hcheck
      · cases hcheck
        rfl
      · split at hcheck
        · cases hcheck
          rfl
        · cases hcheck
  overlong := by
    intro bs s e s' h hlong
    obtain ⟨hcheck, -⟩ := Prod.mk.inj h
    rw [Target.check, if_pos (Nat.ne_of_gt hlong)] at hcheck
    cases hcheck
    exact ⟨bs.length, rfl, hlong⟩

theorem fetchTarget_reports {committed : Option Trust} {target : Target} (hcut : c.fetcher.CutsOff)
    (h : c.fetchTarget committed target w = (.error e, w')) :
    c.ReportsTarget committed target w e := by
  unfold fetchTarget at h
  cases hfetch : c.mirrorList.fetchVerified c.fetcher
      (Verifier.ofCheck (target.check c.primitives))
      (.target target.path (c.storedName committed target)) (onePast target.length) w.net () with
  | mk r rest =>
    simp only [hfetch] at h
    cases r with
    | ok bs => cases h
    | error own =>
      cases h
      refine MirrorList.reports_of_fetchVerified (a := (w.net, ())) hcut
        (check_blames c.primitives target) (le_onePast _) (fun received hlong => ?_) ?_ hfetch
      · exact ⟨received, rfl, hlong⟩
      · rintro _ ⟨actual, rfl, -⟩
        rfl

/-! ### Pinned metadata -/

/-- What is offered from the mirrors is refused with failures of trust only. -/
theorem acceptance_blames (p : Primitives) (offer : Bytes → Trust.Offer) (length : UInt64) :
    (Verifier.ofAcceptance fun bs (t : Trust) => t.attempt p (offer bs)).Blames length
      fun e => e.ofTrust = true := by
  have hrefused : ∀ {bs e t'} {t : Trust},
      Verifier.ofAcceptance (fun bs (t : Trust) => t.attempt p (offer bs)) bs t = (.error e, t') →
        e.ofTrust = true := by
    intro bs e t' t h
    unfold Verifier.ofAcceptance at h
    cases hattempt : t.attempt p (offer bs) with
    | ok _ =>
      simp only [hattempt] at h
      cases h
    | error _ =>
      simp only [hattempt] at h
      cases h
      exact Trust.attempt_error _ _ hattempt
  exact ⟨hrefused, fun h _ => hrefused h⟩

theorem fetchPinned_reports {cap : UInt64} (offer : Bytes → Trust.Offer)
    (hcut : c.fetcher.CutsOff) (hlength : pin.length = some length)
    (h : c.fetchPinned role pin cap (fun bs t => t.attempt c.primitives (offer bs)) t w =
      (.error e, w')) :
    c.ReportsPinned ⟨pinnedFile t role pin, pin.cap cap,
      fun bs t => t.attempt c.primitives (offer bs), t⟩ length w e := by
  have hmax : length.toNat ≤ (pin.cap cap).toNat := by
    rw [Pin.cap, hlength]
    exact le_onePast length
  unfold fetchPinned Task.mapError fetchAccepted at h
  cases hfetch : c.mirrorList.fetchVerified c.fetcher
      (Verifier.ofAcceptance fun bs t => t.attempt c.primitives (offer bs))
      (.metadata (pinnedFile t role pin)) (pin.cap cap) w.net t with
  | mk r rest =>
    simp only [hfetch] at h
    cases r with
    | ok bs => cases h
    | error own =>
      cases h
      rw [Pin.explain, hlength]
      exact MirrorList.reports_of_fetchVerified (a := (w.net, t)) hcut
        (acceptance_blames c.primitives offer length) hmax (fun _ _ => rfl) (fun _ => id) hfetch

/-- A pinned role whose pin has a length. -/
theorem pass_reports {pinned : PinnedRole} (hcut : c.fetcher.CutsOff)
    (hpin : pinned.pin k.trust = .ok pin) (hlength : pin.length = some length)
    (h : c.pass pinned k w = (.error e, w')) :
    c.ReportsPinned ⟨pinnedFile k.trust pinned.role.name pin, pin.cap pinned.cap,
      pinned.accept c.primitives, k.trust⟩ length w e := by
  unfold pass at h
  split at h
  · cases h
  · rw [hpin, Task.bind_of_ok Task.ofExcept_ok] at h
    exact fetchPinned_reports (.below pinned.role · .remote) hcut hlength
      (retrieve_error (fun _ => pin.version) h)

theorem updateSnapshot_reports {timestamp : Verified Timestamp} (hcut : c.fetcher.CutsOff)
    (htimestamp : k.trust.timestamp = some timestamp)
    (hpin : timestamp.payload.snapshotPin? = some pin) (hlength : pin.length = some length)
    (h : c.updateSnapshot k w = (.error e, w')) :
    c.ReportsPinned (c.snapshotInquiry k.trust pin) length w e := by
  have hrequired : Trust.requireSnapshotPin timestamp.payload = .ok pin := by
    rw [Trust.requireSnapshotPin, hpin]
  have hstage : c.pinnedSnapshot.pin k.trust = .ok pin :=
    pinnedSnapshot_pin_eq_ok_iff.2 ⟨timestamp, htimestamp, hrequired⟩
  rw [updateSnapshot_eq_pass] at h
  exact (pass_reports hcut hstage hlength h :)

theorem updateTargets_reports {snapshot : Verified Snapshot} (hcut : c.fetcher.CutsOff)
    (hsnapshot : k.trust.snapshot = some snapshot)
    (hpin : snapshot.payload.pin? Role.targets.name = some pin) (hlength : pin.length = some length)
    (h : c.updateTargets k w = (.error e, w')) :
    c.ReportsPinned (c.targetsInquiry k.trust pin) length w e := by
  have hrequired : requireTargetsPin snapshot.payload Role.targets.name = .ok pin := by
    rw [requireTargetsPin, hpin]
  have hstage : c.pinnedTargets.pin k.trust = .ok pin :=
    pinnedTargets_pin_eq_ok_iff.2 ⟨snapshot, hsnapshot, hrequired⟩
  rw [updateTargets_eq_pass] at h
  exact (pass_reports hcut hstage hlength h :)

theorem fetchDelegated_reports {snapshot : Verified Snapshot} (hcut : c.fetcher.CutsOff)
    (hsnapshot : t.snapshot = some snapshot) (hpin : snapshot.payload.pin? role = some pin)
    (hlength : pin.length = some length)
    (h : c.fetchDelegated role delegator t w = (.error e, w')) :
    c.ReportsPinned (c.delegatedInquiry t role delegator pin) length w e := by
  have hlisted : (t.snapshot.bind fun s => s.payload.pin? role) = some pin := by
    rw [hsnapshot, Option.bind_some, hpin]
  unfold fetchDelegated at h
  simp only [hlisted] at h
  cases hfetch : c.fetchPinned role pin c.limits.targetsSizeCap
      (fun bs t => t.updateDelegated c.primitives bs role delegator .remote) t w with
  | mk r w₁ =>
    cases r with
    | ok found =>
      rw [Task.bind_of_ok hfetch, Task.bind_of_ok (report_eq _ w₁)] at h
      obtain ⟨failure, hsave⟩ := c.save_world role found.1
        { w₁ with events := w₁.events ++ [.accepted role pin.version] }
      rw [Task.bind_of_ok hsave] at h
      cases h
    | error _ =>
      rw [Task.bind_of_error hfetch] at h
      cases h
      exact fetchPinned_reports (fun bs => .delegated bs role delegator .remote) hcut hlength hfetch

/-- A download within the ceiling fails as its retrieval does. -/
theorem download_of_fetchTarget {φ : Type} (fs : FileSystem φ) (destination : String) (d : φ)
    {target : Target} {s : Session ν κ} (hceiling : target.length ≤ c.limits.targetSizeCap)
    (h : c.fetchTarget s.committed target s.world = (.error e, w')) :
    (c.download fs target destination s d).1 = .error e := by
  rw [download, if_neg (UInt64.not_lt.2 hceiling), h]

/-- A body that is longer than its declared length is never taken for an outage. Wherever the
retrieval of a snapshot, of top-level or delegated targets whose pin has a length, or of a target
within the ceiling fails, each mirror that answered with a longer body is blamed for it in the
failure, each other one keeps its own failure and its place, and the whole is neither a failure of
transport nor says that nothing was found. -/
theorem overlong_blamed (c : Client ν κ) (hcut : c.fetcher.CutsOff) (w w' : World ν κ)
    (e : TrustError) :
    (∀ (k : Working) timestamp pin length, k.trust.timestamp = some timestamp →
      timestamp.payload.snapshotPin? = some pin → pin.length = some length →
      c.updateSnapshot k w = (.error e, w') →
      c.ReportsPinned (c.snapshotInquiry k.trust pin) length w e) ∧
    (∀ (k : Working) snapshot pin length, k.trust.snapshot = some snapshot →
      snapshot.payload.pin? Role.targets.name = some pin → pin.length = some length →
      c.updateTargets k w = (.error e, w') →
      c.ReportsPinned (c.targetsInquiry k.trust pin) length w e) ∧
    (∀ (t : Trust) role delegator snapshot pin length, t.snapshot = some snapshot →
      snapshot.payload.pin? role = some pin → pin.length = some length →
      c.fetchDelegated role delegator t w = (.error e, w') →
      c.ReportsPinned (c.delegatedInquiry t role delegator pin) length w e) ∧
    (∀ (φ : Type) (fs : FileSystem φ) (target : Target) destination committed d,
      target.length ≤ c.limits.targetSizeCap → c.fetchTarget committed target w = (.error e, w') →
      (c.download fs target destination ⟨committed, w⟩ d).1 = .error e ∧
        c.ReportsTarget committed target w e) := by
  refine ⟨?_, ?_, ?_, ?_⟩
  · intro k timestamp pin length htimestamp hpin hlength h
    exact updateSnapshot_reports hcut htimestamp hpin hlength h
  · intro k snapshot pin length hsnapshot hpin hlength h
    exact updateTargets_reports hcut hsnapshot hpin hlength h
  · intro t role delegator snapshot pin length hsnapshot hpin hlength h
    exact fetchDelegated_reports hcut hsnapshot hpin hlength h
  · intro φ fs target destination committed d hceiling h
    exact ⟨download_of_fetchTarget fs destination d (s := ⟨committed, w⟩) hceiling h,
      fetchTarget_reports hcut h⟩

namespace Trimmed

open Sample

/-- What mirrors serve, where a body that is longer than it may be is cut off. -/
def cutting (files : List (String × Bytes)) : Fetcher Unit := fun url maxLength net =>
  match files.lookup url with
  | some bs =>
    (if maxLength.toNat < bs.length then .failure (.lengthExceeded maxLength.toNat bs.length)
      else .body bs, net)
  | none => (.failure (.notFound url), net)

theorem cutting_cutsOff (files : List (String × Bytes)) : (cutting files).CutsOff := by
  intro url maxLength net ceiling received net' h
  unfold cutting at h
  split at h
  · split at h
    · rename_i hlong
      cases h
      exact hlong
    · cases h
  · cases h

/-- A mirror with nothing, and two with a body: too long by one byte, and by two more. -/
def mirrors : List Mirror :=
  [.ofUrl "https://a.example", .ofUrl "https://b.example", .ofUrl "https://c.example"]

def served (file : String) (bs : Bytes) : List (String × Bytes) :=
  [("https://b.example/" ++ file, bs), ("https://c.example/" ++ file, bs ++ [0, 0])]

def files : List (String × Bytes) :=
  served "metadata/snapshot.json" (snapshot 1 1) ++ served "metadata/targets.json" (targets 1) ++
    served "metadata/x.json" (targets 1) ++ served "targets/a" [1, 2, 3]

def client : Client Unit (Dict Bytes) := (Client.served [] [] root).among (cutting files) mirrors

/-- A length that is one byte short, and a pin with it. -/
def short (bs : Bytes) : UInt64 := .ofNat (bs.length - 1)

def shortPin (bs : Bytes) : Pin := ⟨1, some (short bs), none⟩

theorem valid_first : Instant.Valid 1 0 := by decide

def timestamp : Verified Timestamp where
  metadata := {
    payload := {
      specVersion := "1", version := 1, expires := ⟨1, 0, valid_first⟩
      pins := .ofList [("snapshot.json", shortPin (snapshot 1 1))] }
    signatures := [], raw := .null, canonical := [] }
  bytes := []

def listing : Verified Snapshot where
  metadata := {
    payload := {
      specVersion := "1", version := 1, expires := ⟨1, 0, valid_first⟩
      pins := .ofList [("targets.json", shortPin (targets 1)),
        ("x.json", shortPin (targets 1))] }
    signatures := [], raw := .null, canonical := [] }
  bytes := []

/-- The root of the small repository is trusted, with metadata that pins lengths. -/
def pinning : Trust :=
  { (Trust.initial now).step .transparent (.firstRoot root) with
    timestamp := some timestamp
    snapshot := some listing
    targets := some (Twice.delegating '1') }

def working : Working := ⟨pinning, false, none⟩

def world : World Unit (Dict Bytes) := ⟨(), .empty, []⟩

def target : Target := { path := "a", length := 2, hashes := .empty, custom := none }

end Trimmed

open Trimmed in
/-- One mirror has nothing, the next one a body that is one byte too long, and the last one a body
that is cut off. -/
theorem overlong_blamed_trimmed :
    (∃ e w', client.updateSnapshot working world = (.error e, w') ∧
      client.ReportsPinned (client.snapshotInquiry pinning (shortPin (Sample.snapshot 1 1)))
        (short (Sample.snapshot 1 1)) world e) ∧
    (∃ e w', client.updateTargets working world = (.error e, w') ∧
      client.ReportsPinned (client.targetsInquiry pinning (shortPin (Sample.targets 1)))
        (short (Sample.targets 1)) world e) ∧
    (∃ e w', client.fetchDelegated "x" Role.targets.name pinning world = (.error e, w') ∧
      client.ReportsPinned
        (client.delegatedInquiry pinning "x" Role.targets.name (shortPin (Sample.targets 1)))
        (short (Sample.targets 1)) world e) ∧
    ∃ e w', client.fetchTarget none target world = (.error e, w') ∧
      (client.download FileTree.system target "a" ⟨none, world⟩ .empty).1 = .error e ∧
        client.ReportsTarget none target world e := by
  have hcut : client.fetcher.CutsOff := cutting_cutsOff files
  have hfails : (client.updateSnapshot working world).1.isOk = false ∧
      (client.updateTargets working world).1.isOk = false ∧
      (client.fetchDelegated "x" Role.targets.name pinning world).1.isOk = false ∧
      (client.fetchTarget none target world).1.isOk = false := by
    decide +kernel
  obtain ⟨hsnapshot, htargets, hdelegated, htarget⟩ := hfails
  refine ⟨?_, ?_, ?_, ?_⟩
  · obtain ⟨e, w', h⟩ := Task.exists_error hsnapshot
    exact ⟨e, w', h,
      (overlong_blamed client hcut world w' e).1 working timestamp _ _ rfl rfl rfl h⟩
  · obtain ⟨e, w', h⟩ := Task.exists_error htargets
    exact ⟨e, w', h,
      (overlong_blamed client hcut world w' e).2.1 working listing _ _ rfl rfl rfl h⟩
  · obtain ⟨e, w', h⟩ := Task.exists_error hdelegated
    exact ⟨e, w', h, (overlong_blamed client hcut world w' e).2.2.1 pinning "x" Role.targets.name
      listing _ _ rfl rfl rfl h⟩
  · obtain ⟨e, w', h⟩ := Task.exists_error htarget
    exact ⟨e, w', h, (overlong_blamed client hcut world w' e).2.2.2 FileTree FileTree.system target
      "a" none .empty (by decide) h⟩

end Client

end SecureUpdate
