import SecureUpdate.Proofs.Mirror.Failover

/-!
The order in which mirrors are asked. Those that may serve a resource are asked one after another
until a body passes; the others are never asked. Each fails or passes on its own, so the course of a
retrieval is a list of failures, which one body that passes may end. Requests and checks can be
noted down on the way without any effect on it.

Main statements: `fetchVerified_first_accepted`, `fetchVerified_error`.
-/

namespace SecureUpdate

variable {ν σ : Type}

/-! ### Noting what is done -/

/-- A request to a mirror. -/
structure Request where
  url : String
  maxLength : UInt64

/-- The fetcher that gives the same replies and keeps a list of the requests made to it. -/
def Fetcher.recorded (fetcher : Fetcher ν) : Fetcher (ν × List Request) :=
  fun url maxLength net =>
    let (reply, net₁) := fetcher url maxLength net.1
    (reply, net₁, net.2 ++ [⟨url, maxLength⟩])

/-- The verifier that comes to the same verdicts and keeps a list of the bodies it was given. -/
def Verifier.recorded (verify : Verifier σ) : Verifier (σ × List Bytes) :=
  fun bs s =>
    let (verdict, s₁) := verify bs s.1
    (verdict, s₁, s.2 ++ [bs])

/-- The body that a reply delivers, if it does. -/
def Reply.body? : Reply → Option Bytes
  | .body bs => some bs
  | _ => none

namespace MirrorList

/-- The mirrors that may be asked for a resource, in order. -/
def eligible (list : MirrorList) (resource : Resource) : List Mirror :=
  list.mirrors.filter fun m => resource.servedBy m

/-! ### The course of a retrieval -/

section Course

variable (timeout : Nat) (fetcher : Fetcher ν) (verify : Verifier σ) (resource : Resource)
  (maxLength : UInt64)

/-- A mirror fails: it is asked in one state of the network and of the checks, its reply is no
answer for some reason, and it leaves the next state. -/
inductive Fails (m : Mirror) : ν × σ → Reply → TrustError → ν × σ → Prop
  | failure {net net' s e}
    (hreply : fetcher (resource.urlAt m) maxLength net = (.failure e, net')) :
    Fails m (net, s) (.failure e) (.fetch (resource.urlAt m) e) (net', s)
  | stalled {net net' s} (hreply : fetcher (resource.urlAt m) maxLength net = (.stalled, net')) :
    Fails m (net, s) .stalled (.fetch (resource.urlAt m) (.timeout timeout)) (net', s)
  | refused {net net' s s' bs e}
    (hreply : fetcher (resource.urlAt m) maxLength net = (.body bs, net'))
    (hrefused : verify bs s = (.error e, s')) : Fails m (net, s) (.body bs) e (net', s')

/-- A mirror delivers a body that passes. -/
structure Passes (m : Mirror) (a : ν × σ) (bs : Bytes) (b : ν × σ) : Prop where
  reply : fetcher (resource.urlAt m) maxLength a.1 = (.body bs, b.1)
  passed : verify bs a.2 = (.ok (), b.2)

/-- Mirrors fail one after another, each from the state that the one before it leaves. The failures
stand with the addresses of their mirrors. -/
inductive AllFail : List Mirror → ν × σ → List Reply → List (String × TrustError) → ν × σ → Prop
  | nil {a} : AllFail [] a [] [] a
  | cons {m ms a b z reply e replies errors}
    (hm : Fails timeout fetcher verify resource maxLength m a reply e b)
    (hms : AllFail ms b replies errors z) :
    AllFail (m :: ms) a (reply :: replies) ((m.baseUrl, e) :: errors) z

/-- What a retrieval comes to, with the requests that it makes and the bodies that it checks. A body
is given when it passes after all mirrors before its own have failed, and no later one is asked.
Otherwise each mirror that may be asked is asked once; if there is but one, its failure stands for
itself, and else all of them are reported. -/
inductive Settles (list : MirrorList) (fetcher : Fetcher ν) (verify : Verifier σ)
    (resource : Resource) (maxLength : UInt64) (a : ν × σ) :
    Except TrustError Bytes → List Request → List Bytes → ν × σ → Prop
  | accepted {before m after replies errors b bs z}
    (hlist : list.eligible resource = before ++ m :: after)
    (hbefore : AllFail list.timeout fetcher verify resource maxLength before a replies errors b)
    (hm : Passes fetcher verify resource maxLength m b bs z) :
    Settles list fetcher verify resource maxLength a (.ok bs)
      ((before ++ [m]).map fun m => ⟨resource.urlAt m, maxLength⟩)
      (replies.filterMap Reply.body? ++ [bs]) z
  | sole {m reply e z} (hlist : list.eligible resource = [m])
    (hm : Fails list.timeout fetcher verify resource maxLength m a reply e z) :
    Settles list fetcher verify resource maxLength a (.error e)
      [⟨resource.urlAt m, maxLength⟩] reply.body?.toList z
  | failed {replies errors z} (hlist : (list.eligible resource).length ≠ 1)
    (hall : AllFail list.timeout fetcher verify resource maxLength (list.eligible resource) a
      replies errors z) :
    Settles list fetcher verify resource maxLength a
      (.error (.noWorkingMirror resource.name errors))
      ((list.eligible resource).map fun m => ⟨resource.urlAt m, maxLength⟩)
      (replies.filterMap Reply.body?) z

end Course

variable {list : MirrorList} {timeout : Nat} {fetcher : Fetcher ν} {verify : Verifier σ}
  {resource : Resource} {maxLength : UInt64} {m : Mirror} {ms : List Mirror} {a b z : ν × σ}
  {reply : Reply} {replies : List Reply} {e : TrustError} {errors : List (String × TrustError)}
  {bs : Bytes} {r : Except TrustError Bytes} {requests : List Request} {checked : List Bytes}

/-! ### What mirrors do is what is asked of them -/

theorem Fails.tryMirror (h : Fails timeout fetcher verify resource maxLength m a reply e b) :
    tryMirror timeout fetcher verify resource maxLength m a.1 a.2 = (.error e, b) := by
  cases h with
  | failure hreply => simp only [MirrorList.tryMirror, fetchOne, hreply]
  | stalled hreply => simp only [MirrorList.tryMirror, fetchOne, hreply]
  | refused hreply hrefused => simp only [MirrorList.tryMirror, fetchOne, hreply, hrefused]

theorem Passes.tryMirror (h : Passes fetcher verify resource maxLength m a bs b) :
    tryMirror timeout fetcher verify resource maxLength m a.1 a.2 = (.ok bs, b) := by
  simp only [MirrorList.tryMirror, fetchOne, h.reply, h.passed]

/-- A mirror fails or delivers a body that passes. -/
theorem fails_or_passes (timeout : Nat) (m : Mirror) (a : ν × σ) :
    (∃ reply e b, Fails timeout fetcher verify resource maxLength m a reply e b) ∨
      ∃ bs b, Passes fetcher verify resource maxLength m a bs b := by
  obtain ⟨net, s⟩ := a
  cases hreply : fetcher (resource.urlAt m) maxLength net with
  | mk reply net' =>
    cases reply with
    | failure e => exact .inl ⟨_, _, _, .failure hreply⟩
    | stalled => exact .inl ⟨_, _, _, .stalled hreply⟩
    | body bs =>
      cases hverdict : verify bs s with
      | mk verdict s' =>
        cases verdict with
        | ok _ => exact .inr ⟨bs, (net', s'), hreply, hverdict⟩
        | error e => exact .inl ⟨_, _, _, .refused hreply hverdict⟩

theorem AllFail.tryEach
    (h : AllFail timeout fetcher verify resource maxLength ms a replies errors b) :
    tryEach timeout fetcher verify resource maxLength ms a.1 a.2 = (.error errors, b) := by
  induction h with
  | nil => rfl
  | cons hm _ ih => simp only [MirrorList.tryEach, hm.tryMirror, ih]

/-- The failures of several mirrors are as many as there are mirrors. -/
theorem AllFail.length_eq
    (h : AllFail timeout fetcher verify resource maxLength ms a replies errors b) :
    errors.length = ms.length := by
  induction h with
  | nil => rfl
  | cons _ _ ih => simp only [List.length_cons, ih]

/-- Of some mirrors all fail, or one delivers a body that passes after those before it failed. -/
theorem allFail_or_accepted (timeout : Nat) (ms : List Mirror) (a : ν × σ) :
    (∃ replies errors z,
      AllFail timeout fetcher verify resource maxLength ms a replies errors z) ∨
    ∃ before m after replies errors b bs z, ms = before ++ m :: after ∧
      AllFail timeout fetcher verify resource maxLength before a replies errors b ∧
        Passes fetcher verify resource maxLength m b bs z := by
  induction ms generalizing a with
  | nil => exact .inl ⟨[], [], a, .nil⟩
  | cons m ms ih =>
    rcases fails_or_passes timeout m a with ⟨reply, e, b, hm⟩ | ⟨bs, b, hm⟩
    · rcases ih b with ⟨replies, errors, z, hms⟩ |
        ⟨before, m', after, replies, errors, b', bs, z, rfl, hbefore, hm'⟩
      · exact .inl ⟨_, _, z, .cons hm hms⟩
      · exact .inr ⟨m :: before, m', after, _, _, b', bs, z, rfl, .cons hm hbefore, hm'⟩
    · exact .inr ⟨[], m, ms, [], [], a, bs, b, rfl, .nil, hm⟩

/-! ### The whole retrieval -/

/-- A retrieval settles in some way. -/
theorem exists_settles (list : MirrorList) (fetcher : Fetcher ν) (verify : Verifier σ)
    (resource : Resource) (maxLength : UInt64) (a : ν × σ) :
    ∃ r requests checked z,
      Settles list fetcher verify resource maxLength a r requests checked z := by
  rcases allFail_or_accepted list.timeout (list.eligible resource) a with
    ⟨replies, errors, z, hall⟩ | ⟨before, m, after, replies, errors, b, bs, z, hlist, hbefore, hm⟩
  · by_cases hone : (list.eligible resource).length = 1
    · obtain ⟨m, hlist⟩ := List.length_eq_one_iff.1 hone
      rw [hlist] at hall
      cases hall with
      | cons hm hms => exact ⟨_, _, _, _, .sole hlist hm⟩
    · exact ⟨_, _, _, z, .failed hone hall⟩
  · exact ⟨_, _, _, z, .accepted hlist hbefore hm⟩

/-- The failures of several mirrors, or of none, are reported together. -/
theorem failure_of_length_ne_one (resource : Resource) (h : errors.length ≠ 1) :
    failure resource errors = .noWorkingMirror resource.name errors := by
  unfold failure
  split
  · exact absurd rfl h
  · rfl

/-- The way in which a retrieval settles is what it comes to. -/
theorem Settles.fetchVerified
    (h : Settles list fetcher verify resource maxLength a r requests checked z) :
    list.fetchVerified fetcher verify resource maxLength a.1 a.2 = (r, z) := by
  have heligible : (list.mirrors.filter fun m => resource.servedBy m) = list.eligible resource :=
    rfl
  unfold MirrorList.fetchVerified
  dsimp only
  rw [heligible]
  cases h with
  | accepted hlist hbefore hm =>
    rw [hlist, tryEach_append, hbefore.tryEach]
    simp only [tryEach, hm.tryMirror]
  | sole hlist hm =>
    rw [hlist]
    simp only [tryEach, hm.tryMirror, failure]
  | failed hlist hall =>
    rw [hall.tryEach]
    simp only [failure_of_length_ne_one resource (hall.length_eq ▸ hlist)]

/-- What a retrieval gives has passed in some state of the checks. -/
theorem fetchVerified_ok
    (h : list.fetchVerified fetcher verify resource maxLength a.1 a.2 = (.ok bs, z)) :
    ∃ s, verify bs s = (.ok (), z.2) := by
  obtain ⟨r, requests, checked, z', hsettles⟩ :=
    exists_settles list fetcher verify resource maxLength a
  cases hsettles.fetchVerified.symm.trans h
  cases hsettles with
  | accepted _ _ hm => exact ⟨_, hm.passed⟩

/-- In a retrieval that fails every mirror that may be asked has failed. -/
theorem fetchVerified_error
    (h : list.fetchVerified fetcher verify resource maxLength a.1 a.2 = (.error e, z)) :
    ∃ replies errors, AllFail list.timeout fetcher verify resource maxLength
      (list.eligible resource) a replies errors z ∧ e = failure resource errors := by
  obtain ⟨r, requests, checked, z', hsettles⟩ :=
    exists_settles list fetcher verify resource maxLength a
  cases hsettles.fetchVerified.symm.trans h
  cases hsettles with
  | sole hlist hm =>
    rw [hlist]
    exact ⟨_, _, .cons hm .nil, rfl⟩
  | failed hlist hall =>
    exact ⟨_, _, hall, (failure_of_length_ne_one resource (hall.length_eq ▸ hlist)).symm⟩

/-! ### The same with notes -/

section Notes

/-- A state of the network and of the checks, with what was noted before and what is new. -/
def noted (a : ν × σ) (requests : List Request) (bodies : List Bytes) :
    (ν × List Request) × σ × List Bytes :=
  ((a.1, requests), a.2, bodies)

theorem Fails.noted (h : Fails timeout fetcher verify resource maxLength m a reply e b)
    (requests : List Request) (bodies : List Bytes) :
    Fails timeout fetcher.recorded verify.recorded resource maxLength m
      (MirrorList.noted a requests bodies) reply e
      (MirrorList.noted b (requests ++ [⟨resource.urlAt m, maxLength⟩])
        (bodies ++ reply.body?.toList)) := by
  cases h with
  | failure hreply =>
    simp only [MirrorList.noted, Reply.body?, Option.toList_none, List.append_nil]
    exact .failure (by simp only [Fetcher.recorded, hreply])
  | stalled hreply =>
    simp only [MirrorList.noted, Reply.body?, Option.toList_none, List.append_nil]
    exact .stalled (by simp only [Fetcher.recorded, hreply])
  | refused hreply hrefused =>
    exact .refused (by simp only [Fetcher.recorded, hreply])
      (by simp only [Verifier.recorded, hrefused]; rfl)

theorem Passes.noted (h : Passes fetcher verify resource maxLength m a bs b)
    (requests : List Request) (bodies : List Bytes) :
    Passes fetcher.recorded verify.recorded resource maxLength m
      (MirrorList.noted a requests bodies) bs
      (MirrorList.noted b (requests ++ [⟨resource.urlAt m, maxLength⟩]) (bodies ++ [bs])) where
  reply := by simp only [Fetcher.recorded, MirrorList.noted, h.reply]
  passed := by simp only [Verifier.recorded, MirrorList.noted, h.passed]

theorem AllFail.noted (h : AllFail timeout fetcher verify resource maxLength ms a replies errors b)
    (requests : List Request) (bodies : List Bytes) :
    AllFail timeout fetcher.recorded verify.recorded resource maxLength ms
      (MirrorList.noted a requests bodies) replies errors
      (MirrorList.noted b (requests ++ ms.map fun m => ⟨resource.urlAt m, maxLength⟩)
        (bodies ++ replies.filterMap Reply.body?)) := by
  induction h generalizing requests bodies with
  | nil =>
    simp only [List.map_nil, List.filterMap_nil, List.append_nil]
    exact .nil
  | @cons m ms a b z reply e replies errors hm _ ih =>
    have hbodies : bodies ++ (reply :: replies).filterMap Reply.body? =
        (bodies ++ reply.body?.toList) ++ replies.filterMap Reply.body? := by
      cases h : reply.body? <;> simp [h]
    rw [List.map_cons, List.append_cons, hbodies]
    exact .cons (hm.noted requests bodies) (ih _ _)

theorem Settles.noted (h : Settles list fetcher verify resource maxLength a r requests checked z) :
    Settles list fetcher.recorded verify.recorded resource maxLength (MirrorList.noted a [] []) r
      requests checked (MirrorList.noted z requests checked) := by
  cases h with
  | accepted hlist hbefore hm =>
    have hnoted := hbefore.noted [] []
    rw [List.nil_append, List.nil_append] at hnoted
    refine .accepted hlist hnoted ?_
    rw [List.map_append]
    exact hm.noted _ _
  | sole hlist hm => exact .sole hlist (hm.noted [] [])
  | failed hlist hall => exact .failed hlist (hall.noted [] [])

end Notes

/-- **The first body that passes, in the order of the mirrors.** A retrieval whose requests and
checks are noted comes to a result with some notes exactly when it settles so, and without the notes
it comes to the same. -/
theorem fetchVerified_first_accepted (list : MirrorList) (fetcher : Fetcher ν)
    (verify : Verifier σ) (resource : Resource) (maxLength : UInt64) (net net' : ν) (s s' : σ)
    (r : Except TrustError Bytes) (requests : List Request) (checked : List Bytes) :
    (list.fetchVerified fetcher.recorded verify.recorded resource maxLength (net, []) (s, []) =
        (r, (net', requests), s', checked) ↔
      Settles list fetcher verify resource maxLength (net, s) r requests checked (net', s')) ∧
    (list.fetchVerified fetcher verify resource maxLength net s = (r, net', s') ↔
      ∃ requests checked,
        Settles list fetcher verify resource maxLength (net, s) r requests checked (net', s')) := by
  obtain ⟨r₁, requests₁, checked₁, z, hsettles⟩ :=
    exists_settles list fetcher verify resource maxLength (net, s)
  have hrun := hsettles.fetchVerified
  have hnoted := hsettles.noted.fetchVerified
  dsimp only [noted] at hrun hnoted
  constructor
  · rw [hnoted]
    constructor
    · rintro ⟨⟩
      exact hsettles
    · intro h
      exact hnoted.symm.trans h.noted.fetchVerified
  · rw [hrun]
    constructor
    · rintro ⟨⟩
      exact ⟨_, _, hsettles⟩
    · rintro ⟨_, _, h⟩
      exact hrun.symm.trans h.fetchVerified

end MirrorList

end SecureUpdate
