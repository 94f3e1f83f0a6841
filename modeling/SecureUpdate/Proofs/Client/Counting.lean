import SecureUpdate.Proofs.Client.Stops

/-!
How rollbacks are counted. A refresh reports progress on its way and in the end that it is complete
or that it has failed, and only the last of these moves the two counters of failures. The counter of
rollbacks looks at the failure as a whole. With one mirror that is the failure of the mirror; the
failure that several mirrors with rollbacks come to is none itself.

Main statement: `refresh_counts_rollbacks`.
-/

namespace SecureUpdate

variable {ν κ α β : Type}

/-! ### Progress -/

/-- Whether an event is anything but a refresh that failed. -/
def Event.IsProgress : Event → Prop
  | .refreshFailed _ => False
  | _ => True

/-- Progress moves neither counter of failures. -/
theorem Counters.record_progress {e : Event} (h : e.IsProgress) (n : Counters) :
    (n.record e).refreshError = n.refreshError ∧
      (n.record e).rollbackRejected = n.rollbackRejected := by
  cases e with
  | refreshFailed => exact h.elim
  | _ => exact ⟨rfl, rfl⟩

theorem Counters.foldl_progress {events : List Event} (h : ∀ e ∈ events, e.IsProgress)
    (n : Counters) : (events.foldl record n).refreshError = n.refreshError ∧
      (events.foldl record n).rollbackRejected = n.rollbackRejected := by
  induction events generalizing n with
  | nil => exact ⟨rfl, rfl⟩
  | cons e events ih =>
    obtain ⟨he, hevents⟩ := List.forall_mem_cons.1 h
    obtain ⟨hfailures, hrollbacks⟩ := ih hevents (n.record e)
    obtain ⟨hfailure, hrollback⟩ := record_progress he n
    exact ⟨hfailures.trans hfailure, hrollbacks.trans hrollback⟩

namespace Task

/-- Whether a step reports progress only, whether or not it succeeds. -/
def Progresses (a : Task ν κ α) : Prop :=
  ∀ w, ∃ new, (a w).2.events = w.events ++ new ∧ ∀ e ∈ new, e.IsProgress

variable {a b : Task ν κ α} {f : α → Task ν κ β}

theorem Progresses.of_events (h : ∀ w, (a w).2.events = w.events) : Progresses a :=
  fun w => ⟨[], by rw [h, List.append_nil], List.forall_mem_nil _⟩

theorem Progresses.pure {x : α} : Progresses (pure x : Task ν κ α) := .of_events fun _ => rfl

theorem Progresses.fail {e : TrustError} : Progresses (Task.fail e : Task ν κ α) :=
  .of_events fun _ => rfl

theorem Progresses.ofExcept {x : Except TrustError α} :
    Progresses (Task.ofExcept x : Task ν κ α) := by
  cases x with
  | ok _ => exact .pure
  | error _ => exact .fail

theorem Progresses.report {e : Event} (h : e.IsProgress) :
    Progresses (SecureUpdate.report e : Task ν κ Unit) :=
  fun _ => ⟨[e], rfl, List.forall_mem_singleton.2 h⟩

theorem Progresses.bind (ha : Progresses a) (hf : ∀ x, Progresses (f x)) :
    Progresses (a >>= f) := by
  intro w
  obtain ⟨new, hnew, hprogress⟩ := ha w
  cases hrun : a w with
  | mk r w₁ =>
    rw [hrun] at hnew
    cases r with
    | ok x =>
      obtain ⟨more, hmore, hprogress'⟩ := hf x w₁
      refine ⟨new ++ more, ?_, List.forall_mem_append.2 ⟨hprogress, hprogress'⟩⟩
      rw [bind_of_ok hrun, hmore, hnew, List.append_assoc]
    | error e =>
      rw [bind_of_error hrun]
      exact ⟨new, hnew, hprogress⟩

theorem Progresses.ite {q : Prop} [Decidable q] (ha : Progresses a) (hb : Progresses b) :
    Progresses (if q then a else b) := by
  split
  · exact ha
  · exact hb

theorem Progresses.mapError {g : TrustError → TrustError} (ha : Progresses a) :
    Progresses (a.mapError g) := by
  intro w
  obtain ⟨new, hnew, hprogress⟩ := ha w
  refine ⟨new, ?_, hprogress⟩
  rw [← hnew, Task.mapError]
  cases a w with
  | mk r w' => cases r <;> rfl

end Task

namespace Client

variable {c : Client ν κ} {k : Working} {now : Instant} {role : Role} {bs : Bytes}
  {accept : Bytes → Trust → Except TrustError Trust} {t : Trust} {file : String} {cap : UInt64}

/-! ### The steps of a refresh -/

theorem fetchAccepted_progresses : (c.fetchAccepted file cap accept t).Progresses := by
  refine .of_events fun w => ?_
  unfold fetchAccepted
  split <;> rfl

theorem loadCached_progresses {name : String} : (c.loadCached name).Progresses := by
  refine .of_events fun w => ?_
  unfold loadCached
  split <;> rfl

theorem persist_progresses : (c.persist role bs k).Progresses := by
  refine .bind (.of_events fun w => ?_) fun _ => .pure
  unfold save
  split <;> rfl

theorem noteAccepted_progresses {version : UInt64} :
    (c.noteAccepted role version bs k).Progresses :=
  .bind (.report trivial) fun _ => persist_progresses

theorem startFromInitial_progresses : (c.startFromInitial now).Progresses :=
  .bind .ofExcept fun _ => persist_progresses

theorem workingCopy_progresses {committed : Option Trust} :
    (c.workingCopy now committed).Progresses := by
  cases committed with
  | some trust => exact .pure
  | none =>
    refine Task.Progresses.bind loadCached_progresses fun held => ?_
    cases held with
    | none => exact startFromInitial_progresses
    | some bs =>
      simp only
      cases (Trust.initial now).loadRoot c.primitives bs with
      | ok trust => exact .pure
      | error e => exact startFromInitial_progresses

theorem noteRotation_progresses {trust : Trust} : (c.noteRotation k bs trust).Progresses :=
  .bind (.report trivial) fun _ => .bind (.report trivial) fun _ => persist_progresses

theorem rotateRoots_progresses (steps : Nat) : (c.rotateRoots steps k).Progresses := by
  induction steps generalizing k with
  | zero => exact .pure
  | succ steps ih =>
    intro w
    cases hfetch : c.fetchAccepted (nextRootFile k.trust) c.limits.rootSizeCap
        (fun bs t => t.updateRoot c.primitives bs) k.trust w with
    | mk r w₁ =>
      cases r with
      | ok found =>
        obtain ⟨-, net, rfl⟩ := fetchAccepted_ok hfetch
        rw [rotateRoots_of_ok hfetch]
        exact Task.Progresses.bind noteRotation_progresses (fun _ => ih) { w with net }
      | error e =>
        obtain ⟨net, rfl⟩ := fetchAccepted_error hfetch
        rw [rotateRoots_of_error hfetch]
        refine ⟨[], ?_, List.forall_mem_nil _⟩
        split <;> exact (List.append_nil _).symm

theorem updateRootChain_progresses : (c.updateRootChain k).Progresses :=
  .bind (rotateRoots_progresses _) fun _ => .bind .ofExcept fun _ => .pure

theorem loadFloor_progresses : (c.loadFloor role accept k).Progresses := by
  refine .bind loadCached_progresses fun held => ?_
  cases held with
  | none => exact .pure
  | some bs =>
    simp only
    cases accept bs k.trust with
    | ok trust => exact .pure
    | error e => exact .pure

theorem loadFloors_progresses : (c.loadFloors k).Progresses :=
  .bind loadFloor_progresses fun _ => .bind loadFloor_progresses fun _ => loadFloor_progresses

theorem updateTimestamp_progresses : (c.updateTimestamp k).Progresses :=
  .bind fetchAccepted_progresses fun _ => noteAccepted_progresses

theorem pass_progresses {pinned : PinnedRole} : (c.pass pinned k).Progresses :=
  .ite .pure <| .bind .ofExcept fun _ =>
    .bind (.mapError fetchAccepted_progresses) fun _ => noteAccepted_progresses

theorem untilTimestamp_progresses {committed : Option Trust} :
    (c.untilTimestamp now committed).Progresses :=
  .bind workingCopy_progresses fun _ => .bind updateRootChain_progresses fun _ =>
    .ite loadFloors_progresses .pure

/-- Until it is known how a refresh ends, it reports progress only. -/
theorem runRefresh_progresses (c : Client ν κ) (now : Instant) (committed : Option Trust) :
    (c.runRefresh now committed).Progresses := by
  rw [runRefresh_eq_untilTargets, untilTargets, untilSnapshot, updateSnapshot_eq_pass,
    updateTargets_eq_pass]
  have hsnapshot : (c.untilTimestamp now committed >>= c.updateTimestamp).Progresses :=
    .bind untilTimestamp_progresses fun _ => updateTimestamp_progresses
  exact .bind (.bind hsnapshot fun _ => pass_progresses) fun _ => .bind pass_progresses fun _ =>
    .bind .ofExcept fun _ => .pure

/-! ### The counters after a refresh -/

variable {s : Session ν κ} {w w' : World ν κ} {q : Inquiry} {own : List (String × TrustError)}
  {e : TrustError}

theorem AllRefuse.length_eq (h : c.AllRefuse q w own) : own.length = c.mirrors.length := by
  obtain ⟨replies, z, hall⟩ := h
  exact hall.length_eq

/-- The counters of failures after a refresh that failed, for whoever had counted `n` before. -/
theorem refresh_counts_failed (h : c.runRefresh now s.committed s.world = (.error e, w')) :
    ∃ new, (c.refresh now s).2.world.events = s.world.events ++ new ∧ ∀ n : Counters,
      (new.foldl Counters.record n).refreshError = n.refreshError + 1 ∧
        (new.foldl Counters.record n).rollbackRejected =
          if Counters.isRollback e then n.rollbackRejected + 1 else n.rollbackRejected := by
  obtain ⟨new, hnew, hprogress⟩ := runRefresh_progresses c now s.committed s.world
  rw [h] at hnew
  refine ⟨new ++ [.refreshFailed e], ?_, fun n => ?_⟩
  · rw [refresh, h, ← List.append_assoc, ← hnew]
  · obtain ⟨hfailures, hrollbacks⟩ := Counters.foldl_progress hprogress n
    rw [List.foldl_append, ← hfailures, ← hrollbacks]
    exact ⟨rfl, rfl⟩

/-- A refresh that did not fail counts no rollback. -/
theorem refresh_counts_completed {k : Working}
    (h : c.runRefresh now s.committed s.world = (.ok k, w')) :
    ∃ new, (c.refresh now s).2.world.events = s.world.events ++ new ∧ ∀ n : Counters,
      (new.foldl Counters.record n).rollbackRejected = n.rollbackRejected := by
  obtain ⟨new, hnew, hprogress⟩ := runRefresh_progresses c now s.committed s.world
  rw [h] at hnew
  refine ⟨new ++ [.refreshCompleted], ?_, fun n => ?_⟩
  · rw [refresh, h, ← List.append_assoc, ← hnew]
  · rw [List.foldl_append, ← (Counters.foldl_progress hprogress n).2]
    rfl

/-- Where all mirrors fail with rollbacks, that comes to a rollback only if there is one mirror. -/
theorem isRollback_failure_of_all {resource : Resource}
    (h : ∀ line ∈ own, Counters.isRollback line.2 = true) :
    Counters.isRollback (MirrorList.failure resource own) = true ↔ own.length = 1 := by
  rw [isRollback_failure, List.length_eq_one_iff]
  refine exists_congr fun line => and_iff_left_of_imp ?_
  rintro rfl
  exact h line (List.mem_singleton_self line)

/-- How rollbacks are counted, whatever was counted before. Where a refresh stops at a role because
every mirror fails there with a rollback, it counts as one more refresh that failed. It counts as
one more rollback if there is one mirror; with several, their rollbacks are put together into a
failure that is not taken for one. A refresh that does not stop where some mirror fails with a
rollback counts no rollback. -/
theorem refresh_counts_rollbacks (c : Client ν κ) (now : Instant) (s : Session ν κ) : ∃ new,
    (c.refresh now s).2.world.events = s.world.events ++ new ∧ ∀ n : Counters,
      let counted := new.foldl Counters.record n
      (∀ role q w own, c.StopsAt now s role q w own →
        (∀ line ∈ own, Counters.isRollback line.2 = true) →
          own.length = c.mirrors.length ∧ (∃ e, (c.refresh now s).1 = .error e) ∧
            counted.refreshError = n.refreshError + 1 ∧
              counted.rollbackRejected = if c.mirrors.length = 1 then n.rollbackRejected + 1
                else n.rollbackRejected) ∧
      ((∀ role q w own, c.StopsAt now s role q w own →
        ∀ line ∈ own, Counters.isRollback line.2 = false) →
          counted.rollbackRejected = n.rollbackRejected) := by
  cases hrun : c.runRefresh now s.committed s.world with
  | mk r w' =>
    cases r with
    | ok k =>
      obtain ⟨new, hnew, hcounts⟩ := refresh_counts_completed hrun
      refine ⟨new, hnew, fun n => ⟨?_, fun _ => hcounts n⟩⟩
      intro role q w own hstops
      obtain ⟨e, w₁, hfails, -⟩ := hstops.runRefresh
      cases hrun.symm.trans hfails
    | error e =>
      obtain ⟨new, hnew, hcounts⟩ := refresh_counts_failed hrun
      refine ⟨new, hnew, fun n => ⟨?_, ?_⟩⟩
      · intro role q w own hstops hall
        obtain ⟨e', w₁, hfails, hrollback⟩ := hstops.runRefresh
        cases hrun.symm.trans hfails
        have hlength := hstops.refused.length_eq
        obtain ⟨hfailures, hrollbacks⟩ := hcounts n
        refine ⟨hlength, ⟨e, by rw [refresh, hrun]⟩, hfailures, hrollbacks.trans ?_⟩
        simp only [hrollback, isRollback_failure_of_all hall, hlength]
      · intro hnone
        rw [(hcounts n).2, if_neg]
        intro hrollback
        obtain ⟨role, q, w, own, hstops, line, hline, hrolled⟩ := exists_stopsAt hrollback hrun
        cases hrolled.symm.trans (hnone role q w own hstops line hline)

namespace Relapse

open Sample

/-- A client of one mirror or of two. -/
def client (n : Nat) : Client (List Reply) (Dict Bytes) :=
  { scripted root with
    mirrors := [.ofUrl "https://a.example", .ofUrl "https://b.example"].take n }

/-- A release for a first refresh, and then an older timestamp from every mirror. -/
def replies (n : Nat) : List Reply :=
  List.replicate n missing ++
    [.body (timestamp 2 1), .body (snapshot 1 1), .body (targets 1)] ++
    List.replicate n missing ++ List.replicate n (.body (timestamp 1 1))

/-- What the first refresh leaves. -/
def session (n : Nat) : Session (List Reply) (Dict Bytes) :=
  ((client n).refresh Sample.now ⟨none, world (replies n)⟩).2

/-- A client that has refreshed nothing yet, and mirrors that have nothing. -/
def idle : Session (List Reply) (Dict Bytes) := ⟨none, Sample.world []⟩

/-- Whether the second refresh gets to the timestamp, and the older one is a rollback then. -/
def relapses (n : Nat) : Bool :=
  match (client n).untilTimestamp Sample.now (session n).committed (session n).world with
  | (.error _, _) => false
  | (.ok k, w) =>
    match k.trust.updateTimestamp .transparent (timestamp 1 1) .remote with
    | .error e => Counters.isRollback e &&
      decide (w.net = (client n).mirrors.map fun _ => .body (timestamp 1 1))
    | .ok _ => false

/-- Every mirror sends the same body, which is refused each time. -/
theorem allFail_refused (timeout : Nat) (resource : Resource) (cap : UInt64) (ms : List Mirror)
    (accept : Bytes → Trust → Except TrustError Trust) {bs : Bytes} {t : Trust} {e : TrustError}
    (he : accept bs t = .error e) : ∃ replies,
      MirrorList.AllFail timeout (scripted root).fetcher (Verifier.ofAcceptance accept) resource cap
        ms (ms.map fun _ => .body bs, t) replies (ms.map fun m => (m.baseUrl, e)) ([], t) := by
  induction ms with
  | nil => exact ⟨[], .nil⟩
  | cons m ms ih =>
    obtain ⟨replies, hms⟩ := ih
    exact ⟨_, .cons (.refused rfl (by rw [Verifier.ofAcceptance, he])) hms⟩

theorem stopsAt {n : Nat} (h : relapses n = true) : ∃ q w own,
    (client n).StopsAt Sample.now (session n) .timestamp q w own ∧
      ∀ line ∈ own, Counters.isRollback line.2 = true := by
  unfold relapses at h
  split at h
  · cases h
  rename_i k w hbefore
  split at h
  · rename_i e he
    obtain ⟨hrollback, hnet⟩ := Bool.and_eq_true_iff.1 h
    let q := (client n).timestampInquiry k.trust
    obtain ⟨replies, hall⟩ := allFail_refused (client n).limits.fetchTimeout (.metadata q.file)
      q.maxLength (client n).mirrors q.accept he
    rw [← of_decide_eq_true hnet] at hall
    refine ⟨q, w, _, ⟨.timestamp hbefore, ⟨replies, _, hall⟩, nofun⟩, ?_⟩
    intro line hline
    obtain ⟨m, -, rfl⟩ := List.mem_map.1 hline
    exact hrollback
  · cases h

/-- Where there is nothing, no mirror fails with a rollback. -/
theorem stopsAt_idle {role : Role} {q : Inquiry} {w : World (List Reply) (Dict Bytes)}
    {own : List (String × TrustError)} (h : (client 1).StopsAt Sample.now idle role q w own) :
    ∀ line ∈ own, Counters.isRollback line.2 = false := by
  have hplain : (match (client 1).runRefresh Sample.now idle.committed idle.world with
      | (.error e, _) => Counters.isRollback e
      | (.ok _, _) => false) = false := by
    decide +kernel
  obtain ⟨e, w', hfails, hrollback⟩ := h.runRefresh
  rw [hfails] at hplain
  obtain ⟨line, rfl⟩ := List.length_eq_one_iff.1 h.refused.length_eq
  exact List.forall_mem_singleton.2 (hrollback.symm.trans hplain)

end Relapse

open Relapse in
/-- One mirror that falls back counts as a rollback, and one that has nothing does not. -/
theorem refresh_counts_rollbacks_relapse :
    (∃ q w own new, (client 1).StopsAt Sample.now (session 1) .timestamp q w own ∧
      (∀ line ∈ own, Counters.isRollback line.2 = true) ∧
        ((client 1).refresh Sample.now (session 1)).2.world.events =
          (session 1).world.events ++ new ∧
            (new.foldl Counters.record {}).refreshError = 1 ∧
              (new.foldl Counters.record {}).rollbackRejected = 1) ∧
    ∃ new, ((client 1).refresh Sample.now idle).2.world.events = new ∧
      (new.foldl Counters.record {}).rollbackRejected = 0 := by
  constructor
  · obtain ⟨q, w, own, hstops, hall⟩ := stopsAt (n := 1) (by decide +kernel)
    obtain ⟨new, hnew, hcounts⟩ := refresh_counts_rollbacks (client 1) Sample.now (session 1)
    obtain ⟨-, -, hfailures, hrollbacks⟩ := (hcounts {}).1 _ q w own hstops hall
    exact ⟨q, w, own, new, hstops, hall, hnew, hfailures, hrollbacks⟩
  · obtain ⟨new, hnew, hcounts⟩ := refresh_counts_rollbacks (client 1) Sample.now idle
    refine ⟨new, hnew, (hcounts {}).2 ?_⟩
    exact fun _ _ _ _ => stopsAt_idle

open Relapse in
/-- Two mirrors that both fall back do not count as a rollback. -/
theorem refresh_counts_rollbacks_missed :
    (∃ q w own, (client 2).StopsAt Sample.now (session 2) .timestamp q w own ∧
      own.length = (client 2).mirrors.length ∧
        ∀ line ∈ own, Counters.isRollback line.2 = true) ∧
    let before := Counters.ofEvents (session 2).world.events
    let after := Counters.ofEvents ((client 2).refresh Sample.now (session 2)).2.world.events
    after.refreshError = before.refreshError + 1 ∧
      after.rollbackRejected = before.rollbackRejected := by
  constructor
  · obtain ⟨q, w, own, hstops, hall⟩ := stopsAt (n := 2) (by decide +kernel)
    exact ⟨q, w, own, hstops, hstops.refused.length_eq, hall⟩
  · decide +kernel

end Client

end SecureUpdate
