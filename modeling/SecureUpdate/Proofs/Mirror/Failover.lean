import SecureUpdate.Proofs.Client.Retrieval

/-!
What comes of asking several mirrors. A reply is judged on its own, so what the list comes to is
settled mirror by mirror: mirrors whose replies are refused leave a line in the report and nothing
else, and where replies are fixed by address and length, so is the outcome. The failure of all
mirrors counts as one of transport only when every single failure does.

Main statements: `tryEach_refused`, `fetchAccepted_eq`, `settle_again`.
-/

namespace SecureUpdate

variable {ν ν' κ σ τ α : Type}

namespace TrustError

theorem allTransport_iff {errors : List (String × TrustError)} :
    allTransport errors = true ↔ ∀ error ∈ errors, error.2.isTransport = true := by
  induction errors with
  | nil => simp [allTransport]
  | cons error errors ih => simp [allTransport, ih]

end TrustError

/-- Whether an answer is a body. -/
def Reply.IsBody : Reply → Prop
  | .body _ => True
  | _ => False

instance (r : Reply) : Decidable r.IsBody := by
  cases r <;> unfold Reply.IsBody <;> infer_instance

namespace MirrorList

/-! ### One reply -/

/-- What a reply from an address comes to, where `accept` judges bodies on top of `t`. -/
def judge (timeout : Nat) (url : String) (accept : Bytes → τ → Except TrustError τ) (t : τ) :
    Reply → Except TrustError (Bytes × τ)
  | .body bs => (accept bs t).map fun t' => (bs, t')
  | .failure e => .error (.fetch url e)
  | .stalled => .error (.fetch url (.timeout timeout))

variable {accept : Bytes → τ → Except TrustError τ} {fetcher : Fetcher ν} {timeout : Nat}
  {resource : Resource} {maxLength : UInt64} {m : Mirror} {ms ms' : List Mirror} {net net' : ν}
  {t t' : τ} {url : String} {r : Reply} {bs : Bytes} {e : TrustError}

theorem judge_eq_ok_iff {found : Bytes × τ} : judge timeout url accept t r = .ok found ↔
    r = .body found.1 ∧ accept found.1 t = .ok found.2 := by
  obtain ⟨bs, t'⟩ := found
  cases r with
  | body bs' =>
    simp only [judge, Reply.body.injEq]
    cases h : accept bs' t with
    | ok t₁ =>
      simp only [Except.map, Except.ok.injEq, Prod.mk.injEq]
      constructor
      · rintro ⟨rfl, rfl⟩
        exact ⟨rfl, h⟩
      · rintro ⟨rfl, haccept⟩
        cases h.symm.trans haccept
        exact ⟨rfl, rfl⟩
    | error e =>
      simp only [Except.map, reduceCtorEq, false_iff, not_and]
      rintro rfl haccept
      cases h.symm.trans haccept
  | failure e => simp [judge]
  | stalled => simp [judge]

/-- A failure to move bytes is all that a reply without a body comes to. -/
theorem judge_of_not_isBody (timeout : Nat) (url : String)
    (accept : Bytes → τ → Except TrustError τ) (h : ¬ r.IsBody) :
    ∃ e, e.isTransport = true ∧ ∀ t, judge timeout url accept t r = .error e := by
  cases r with
  | body bs => exact absurd trivial h
  | failure e => exact ⟨.fetch url e, rfl, fun _ => rfl⟩
  | stalled => exact ⟨.fetch url (.timeout timeout), rfl, fun _ => rfl⟩

/-- A reply that comes to a failure of transport is no body, as long as no failure to accept a body
counts as one. -/
theorem not_isBody_of_judge (haccept : ∀ bs e, accept bs t = .error e → e.isTransport = false)
    (h : judge timeout url accept t r = .error e) (he : e.isTransport = true) : ¬ r.IsBody := by
  cases r with
  | body bs =>
    rw [judge] at h
    cases hbs : accept bs t with
    | ok t' =>
      rw [hbs] at h
      cases h
    | error e' =>
      rw [hbs] at h
      cases h
      rw [haccept bs e hbs] at he
      cases he
  | failure e => exact id
  | stalled => exact id

/-- A reply that is a body comes to nothing but what `accept` makes of it. -/
theorem judge_refused (timeout : Nat) (url : String)
    (h : ∀ bs, r = .body bs → ∃ e, accept bs t = .error e ∧ accept bs t' = .error e) :
    ∃ e, judge timeout url accept t r = .error e ∧ judge timeout url accept t' r = .error e := by
  cases r with
  | body bs =>
    obtain ⟨e, he, he'⟩ := h bs rfl
    exact ⟨e, by rw [judge, he]; rfl, by rw [judge, he']; rfl⟩
  | failure e => exact ⟨_, rfl, rfl⟩
  | stalled => exact ⟨_, rfl, rfl⟩

/-- Asking a mirror comes to what its reply does, and what is trusted changes accordingly. -/
theorem tryMirror_eq :
    tryMirror timeout fetcher (Verifier.ofAcceptance accept) resource maxLength m net t =
      match judge timeout (resource.urlAt m) accept t
        (fetcher (resource.urlAt m) maxLength net).1 with
      | .ok found => (.ok found.1, (fetcher (resource.urlAt m) maxLength net).2, found.2)
      | .error e => (.error e, (fetcher (resource.urlAt m) maxLength net).2, t) := by
  unfold tryMirror fetchOne
  cases fetcher (resource.urlAt m) maxLength net with
  | mk r net' =>
    cases r with
    | body bs =>
      simp only [judge, Verifier.ofAcceptance]
      cases accept bs t <;> rfl
    | failure e => rfl
    | stalled => rfl

/-! ### Mirrors in turn -/

/-- To ask mirrors and then further ones is to ask all of them. -/
theorem tryEach_append {verify : Verifier σ} {s : σ} :
    tryEach timeout fetcher verify resource maxLength (ms ++ ms') net s =
      match tryEach timeout fetcher verify resource maxLength ms net s with
      | (.ok bs, net, s) => (.ok bs, net, s)
      | (.error es, net, s) =>
        match tryEach timeout fetcher verify resource maxLength ms' net s with
        | (.ok bs, net, s) => (.ok bs, net, s)
        | (.error es', net, s) => (.error (es ++ es'), net, s) := by
  induction ms generalizing net s with
  | nil =>
    simp only [List.nil_append, tryEach]
    split <;> simp_all
  | cons m ms ih =>
    simp only [List.cons_append, tryEach, ih]
    split
    · rfl
    · rename_i e net₁ s₁ _
      cases tryEach timeout fetcher verify resource maxLength ms net₁ s₁ with
      | mk r rest =>
        obtain ⟨net₂, s₂⟩ := rest
        cases r with
        | ok bs => rfl
        | error es =>
          dsimp only
          cases tryEach timeout fetcher verify resource maxLength ms' net₂ s₂ with
          | mk r rest => cases r <;> rfl

/-- What every request keeps of the network holds after all mirrors have been asked. -/
theorem tryEach_net {verify : Verifier σ} {s : σ} {I : ν → Prop}
    (h : ∀ m ∈ ms, ∀ net, I net → I (fetcher (resource.urlAt m) maxLength net).2) (hnet : I net) :
    I (tryEach timeout fetcher verify resource maxLength ms net s).2.1 := by
  induction ms generalizing net s with
  | nil => exact hnet
  | cons m ms ih =>
    have hasked : I (tryMirror timeout fetcher verify resource maxLength m net s).2.1 := by
      have hreply := h m List.mem_cons_self net hnet
      unfold tryMirror fetchOne
      cases hfetch : fetcher (resource.urlAt m) maxLength net with
      | mk r net₁ =>
        rw [hfetch] at hreply
        cases r with
        | body bs =>
          dsimp only
          cases verify bs s with
          | mk verdict s₁ => cases verdict <;> exact hreply
        | failure e => exact hreply
        | stalled => exact hreply
    have hrest : ∀ m ∈ ms, ∀ net, I net → I (fetcher (resource.urlAt m) maxLength net).2 :=
      fun m hm => h m (List.mem_cons_of_mem _ hm)
    rw [tryEach]
    cases hm : tryMirror timeout fetcher verify resource maxLength m net s with
    | mk r rest =>
      obtain ⟨net₁, s₁⟩ := rest
      rw [hm] at hasked
      cases r with
      | ok bs => exact hasked
      | error e =>
        have hlater : I (tryEach timeout fetcher verify resource maxLength ms net₁ s₁).2.1 :=
          ih hrest hasked
        dsimp only
        split
        · rename_i hms
          rw [hms] at hlater
          exact hlater
        · rename_i hms
          rw [hms] at hlater
          exact hlater

/-- Mirrors whose replies are all refused leave what is trusted alone, and each is reported. -/
theorem tryEach_refused {P : TrustError → Prop} {I : ν → Prop}
    (h : ∀ m ∈ ms, ∀ net, I net → I (fetcher (resource.urlAt m) maxLength net).2 ∧
      ∃ e, P e ∧ judge timeout (resource.urlAt m) accept t
        (fetcher (resource.urlAt m) maxLength net).1 = .error e) (hnet : I net) :
    ∃ es net', tryEach timeout fetcher (Verifier.ofAcceptance accept) resource maxLength ms net t =
      (.error es, net', t) ∧ (∀ e ∈ es, P e.2) ∧ I net' := by
  induction ms generalizing net with
  | nil => exact ⟨[], net, rfl, nofun, hnet⟩
  | cons m ms ih =>
    obtain ⟨hnet₁, e, he, hjudge⟩ := h m List.mem_cons_self net hnet
    obtain ⟨es, net', hms, hes, hnet'⟩ := ih (fun m hm => h m (List.mem_cons_of_mem _ hm)) hnet₁
    refine ⟨(m.baseUrl, e) :: es, net', ?_, List.forall_mem_cons.2 ⟨he, hes⟩, hnet'⟩
    rw [tryEach, tryMirror_eq, hjudge]
    dsimp only
    rw [hms]

/-! ### Fixed answers -/

/-- What asking mirrors in turn comes to where each address has one answer for each length. -/
def settleEach (timeout : Nat) (answer : String → UInt64 → Reply)
    (accept : Bytes → τ → Except TrustError τ) (resource : Resource) (maxLength : UInt64) (t : τ) :
    List Mirror → Except (List (String × TrustError)) (Bytes × τ)
  | [] => .error []
  | m :: ms =>
    match judge timeout (resource.urlAt m) accept t (answer (resource.urlAt m) maxLength) with
    | .ok found => .ok found
    | .error e =>
      match settleEach timeout answer accept resource maxLength t ms with
      | .ok found => .ok found
      | .error es => .error ((m.baseUrl, e) :: es)

variable {answer : String → UInt64 → Reply}

theorem tryEach_eq (hanswer : ∀ url cap net, (fetcher url cap net).1 = answer url cap)
    (timeout : Nat) (accept : Bytes → τ → Except TrustError τ) (resource : Resource)
    (maxLength : UInt64) (ms : List Mirror) (net : ν) (t : τ) : ∃ net',
    tryEach timeout fetcher (Verifier.ofAcceptance accept) resource maxLength ms net t =
      match settleEach timeout answer accept resource maxLength t ms with
      | .ok found => (.ok found.1, net', found.2)
      | .error es => (.error es, net', t) := by
  induction ms generalizing net with
  | nil => exact ⟨net, rfl⟩
  | cons m ms ih =>
    obtain ⟨net', hms⟩ := ih (fetcher (resource.urlAt m) maxLength net).2
    rw [tryEach, tryMirror_eq, hanswer, settleEach]
    cases judge timeout (resource.urlAt m) accept t (answer (resource.urlAt m) maxLength) with
    | ok found => exact ⟨_, rfl⟩
    | error e =>
      refine ⟨net', ?_⟩
      dsimp only
      rw [hms]
      cases settleEach timeout answer accept resource maxLength t ms <;> rfl

/-- Where all that is accepted now would have been accepted before, the mirror whose body was
accepted before is the one that counts again, if its body still passes. -/
theorem settleEach_again {t₁ t₁' : τ}
    (h : settleEach timeout answer accept resource maxLength t ms = .ok (bs, t₁))
    (hrefused : ∀ bs' t₂, accept bs' t' = .ok t₂ → ∃ t₃, accept bs' t = .ok t₃)
    (haccept : accept bs t' = .ok t₁') :
    settleEach timeout answer accept resource maxLength t' ms = .ok (bs, t₁') := by
  induction ms with
  | nil => cases h
  | cons m ms ih =>
    rw [settleEach] at h ⊢
    cases hm : judge timeout (resource.urlAt m) accept t (answer (resource.urlAt m) maxLength) with
    | ok found =>
      rw [hm] at h
      cases h
      have hm' : judge timeout (resource.urlAt m) accept t' (answer (resource.urlAt m) maxLength) =
          .ok (bs, t₁') := judge_eq_ok_iff.2 ⟨(judge_eq_ok_iff.1 hm).1, haccept⟩
      rw [hm']
    | error e =>
      -- a mirror that was refused before is refused again
      have hrefused' : ∃ e', judge timeout (resource.urlAt m) accept t'
          (answer (resource.urlAt m) maxLength) = .error e' := by
        cases hm' : judge timeout (resource.urlAt m) accept t'
            (answer (resource.urlAt m) maxLength) with
        | error e' => exact ⟨e', rfl⟩
        | ok found =>
          obtain ⟨hbody, hfound⟩ := judge_eq_ok_iff.1 hm'
          obtain ⟨t₃, ht₃⟩ := hrefused _ _ hfound
          have hjudge : judge timeout (resource.urlAt m) accept t
              (answer (resource.urlAt m) maxLength) = .ok (found.1, t₃) :=
            judge_eq_ok_iff.2 ⟨hbody, ht₃⟩
          cases hm.symm.trans hjudge
      obtain ⟨e', hm'⟩ := hrefused'
      rw [hm] at h
      rw [hm']
      dsimp only at h ⊢
      cases hms : settleEach timeout answer accept resource maxLength t ms with
      | ok found =>
        rw [hms] at h
        cases h
        rw [ih hms]
      | error es =>
        rw [hms] at h
        cases h

/-- Where every mirror fails in the same way on top of either of two things, so do all of them. -/
theorem settleEach_refused {P : TrustError → Prop}
    (h : ∀ m ∈ ms, ∃ e, P e ∧
      judge timeout (resource.urlAt m) accept t (answer (resource.urlAt m) maxLength) = .error e ∧
      judge timeout (resource.urlAt m) accept t' (answer (resource.urlAt m) maxLength) = .error e) :
    ∃ es : List (String × TrustError), (∀ e ∈ es, P e.2) ∧
      settleEach timeout answer accept resource maxLength t ms = .error es ∧
      settleEach timeout answer accept resource maxLength t' ms = .error es := by
  induction ms with
  | nil => exact ⟨[], nofun, rfl, rfl⟩
  | cons m ms ih =>
    obtain ⟨e, he, hm, hm'⟩ := h m List.mem_cons_self
    obtain ⟨es, hes, hms, hms'⟩ := ih fun m hm => h m (List.mem_cons_of_mem _ hm)
    refine ⟨(m.baseUrl, e) :: es, List.forall_mem_cons.2 ⟨he, hes⟩, ?_, ?_⟩
    · rw [settleEach, hm, hms]
    · rw [settleEach, hm', hms']

/-- When every failure is one of transport, no mirror gives a body. -/
theorem settleEach_transport (haccept : ∀ bs e, accept bs t = .error e → e.isTransport = false)
    {es : List (String × TrustError)}
    (h : settleEach timeout answer accept resource maxLength t ms = .error es)
    (hes : ∀ e ∈ es, e.2.isTransport = true) :
    ∀ m ∈ ms, ¬ (answer (resource.urlAt m) maxLength).IsBody := by
  induction ms generalizing es with
  | nil => exact nofun
  | cons m ms ih =>
    rw [settleEach] at h
    cases hm : judge timeout (resource.urlAt m) accept t (answer (resource.urlAt m) maxLength) with
    | ok found =>
      rw [hm] at h
      cases h
    | error e =>
      rw [hm] at h
      cases hms : settleEach timeout answer accept resource maxLength t ms with
      | ok found =>
        rw [hms] at h
        cases h
      | error es' =>
        rw [hms] at h
        cases h
        obtain ⟨he, hes'⟩ := List.forall_mem_cons.1 hes
        exact List.forall_mem_cons.2 ⟨not_isBody_of_judge haccept hm he, ih hms hes'⟩

theorem isTransport_failure {es : List (String × TrustError)} :
    (failure resource es).isTransport = true ↔ ∀ e ∈ es, e.2.isTransport = true := by
  unfold failure
  split
  · simp
  · rw [TrustError.isTransport, TrustError.allTransport_iff]

end MirrorList

/-! ### Retrieval -/

namespace Client

variable {c : Client ν κ} {answer : String → UInt64 → Reply} {file : String} {maxLength : UInt64}
  {accept : Bytes → Trust → Except TrustError Trust} {t t' : Trust} {bs : Bytes} {e : TrustError}

/-- Whether each address has one answer for each length, whatever was asked before. -/
def AnswersWith (c : Client ν κ) (answer : String → UInt64 → Reply) : Prop :=
  ∀ url maxLength net, (c.fetcher url maxLength net).1 = answer url maxLength

/-- What a retrieval comes to where answers are fixed. -/
def settle (c : Client ν κ) (answer : String → UInt64 → Reply) (file : String) (maxLength : UInt64)
    (accept : Bytes → Trust → Except TrustError Trust) (t : Trust) :
    Except TrustError (Bytes × Trust) :=
  (MirrorList.settleEach c.limits.fetchTimeout answer accept (.metadata file) maxLength t
    c.mirrors).mapError (MirrorList.failure (.metadata file))

/-- Every mirror serves metadata, so all of them are asked in turn. -/
theorem fetchAccepted_eq_tryEach {w : World ν κ} : c.fetchAccepted file maxLength accept t w =
    match MirrorList.tryEach c.limits.fetchTimeout c.fetcher (Verifier.ofAcceptance accept)
      (.metadata file) maxLength c.mirrors w.net t with
    | (.ok bs, net, t) => (.ok (bs, t), { w with net })
    | (.error es, net, _) => (.error (MirrorList.failure (.metadata file) es), { w with net }) := by
  have hall : c.mirrors.filter (fun m => (Resource.metadata file).servedBy m) = c.mirrors :=
    List.filter_eq_self.2 fun _ _ => rfl
  simp only [fetchAccepted, MirrorList.fetchVerified, mirrorList, hall]
  cases MirrorList.tryEach c.limits.fetchTimeout c.fetcher (Verifier.ofAcceptance accept)
    (.metadata file) maxLength c.mirrors w.net t with
  | mk r rest => cases r <;> rfl

theorem fetchAccepted_eq (hanswer : c.AnswersWith answer) (file : String) (maxLength : UInt64)
    (accept : Bytes → Trust → Except TrustError Trust) (t : Trust) (w : World ν κ) : ∃ net,
    c.fetchAccepted file maxLength accept t w =
      (c.settle answer file maxLength accept t, { w with net }) := by
  obtain ⟨net, hms⟩ := MirrorList.tryEach_eq hanswer c.limits.fetchTimeout accept (.metadata file)
    maxLength c.mirrors w.net t
  refine ⟨net, ?_⟩
  rw [fetchAccepted_eq_tryEach, hms, settle]
  cases MirrorList.settleEach c.limits.fetchTimeout answer accept (.metadata file) maxLength t
    c.mirrors <;> rfl

theorem settle_again {t₁ t₁' : Trust} (h : c.settle answer file maxLength accept t = .ok (bs, t₁))
    (hrefused : ∀ bs' t₂, accept bs' t' = .ok t₂ → ∃ t₃, accept bs' t = .ok t₃)
    (haccept : accept bs t' = .ok t₁') :
    c.settle answer file maxLength accept t' = .ok (bs, t₁') := by
  unfold settle at h ⊢
  cases hms : MirrorList.settleEach c.limits.fetchTimeout answer accept (.metadata file) maxLength t
      c.mirrors with
  | ok found =>
    rw [hms] at h
    cases h
    rw [MirrorList.settleEach_again hms hrefused haccept]
    rfl
  | error es =>
    rw [hms] at h
    cases h

/-- A retrieval whose failure is one of transport fails for want of transport whatever is trusted.
-/
theorem settle_transport (haccept : ∀ bs e, accept bs t = .error e → e.isTransport = false)
    (h : c.settle answer file maxLength accept t = .error e) (he : e.isTransport = true)
    (t' : Trust) :
    ∃ e', c.settle answer file maxLength accept t' = .error e' ∧ e'.isTransport = true := by
  unfold settle at h ⊢
  cases hms : MirrorList.settleEach c.limits.fetchTimeout answer accept (.metadata file) maxLength t
      c.mirrors with
  | ok found =>
    rw [hms] at h
    cases h
  | error es =>
    rw [hms] at h
    cases h
    have hnone := MirrorList.settleEach_transport haccept hms (MirrorList.isTransport_failure.1 he)
    have hfail : ∀ m ∈ c.mirrors, ∃ e, e.isTransport = true ∧
        MirrorList.judge c.limits.fetchTimeout ((Resource.metadata file).urlAt m) accept t'
          (answer ((Resource.metadata file).urlAt m) maxLength) = .error e := by
      intro m hm
      obtain ⟨e, he, hjudge⟩ := MirrorList.judge_of_not_isBody c.limits.fetchTimeout
        ((Resource.metadata file).urlAt m) accept (hnone m hm)
      exact ⟨e, he, hjudge t'⟩
    obtain ⟨es', hes', hms', -⟩ := MirrorList.settleEach_refused
      fun m hm => (hfail m hm).imp fun _ h => ⟨h.1, h.2, h.2⟩
    exact ⟨_, by rw [hms']; rfl, MirrorList.isTransport_failure.2 hes'⟩

/-- Bodies that are refused in the same way on top of either of two things fail in the same way. -/
theorem settle_refused
    (h : ∀ m ∈ c.mirrors, ∀ bs, answer (m.metadataUrl file) maxLength = .body bs →
      ∃ e, accept bs t = .error e ∧ accept bs t' = .error e) :
    ∃ e, c.settle answer file maxLength accept t = .error e ∧
      c.settle answer file maxLength accept t' = .error e := by
  obtain ⟨es, -, hms, hms'⟩ := MirrorList.settleEach_refused (P := fun _ => True) fun m hm =>
    (MirrorList.judge_refused c.limits.fetchTimeout ((Resource.metadata file).urlAt m)
      (h m hm)).imp fun _ he => ⟨trivial, he.1, he.2⟩
  exact ⟨_, by rw [settle, hms]; rfl, by rw [settle, hms']; rfl⟩

/-- What every request for the file keeps of the network holds after the retrieval. -/
theorem fetchAccepted_net {w w' : World ν κ} {r : Except TrustError (Bytes × Trust)} {I : ν → Prop}
    (hfetch : c.fetchAccepted file maxLength accept t w = (r, w'))
    (h : ∀ m ∈ c.mirrors, ∀ net, I net → I (c.fetcher (m.metadataUrl file) maxLength net).2)
    (hw : I w.net) : I w'.net := by
  have hms : I (MirrorList.tryEach c.limits.fetchTimeout c.fetcher (Verifier.ofAcceptance accept)
      (.metadata file) maxLength c.mirrors w.net t).2.1 := MirrorList.tryEach_net h hw
  rw [fetchAccepted_eq_tryEach] at hfetch
  cases htry : MirrorList.tryEach c.limits.fetchTimeout c.fetcher (Verifier.ofAcceptance accept)
    (.metadata file) maxLength c.mirrors w.net t with
  | mk found rest =>
    rw [htry] at hfetch hms
    cases found <;>
    · cases hfetch
      exact hms

/-! ### Mirrors with files -/

/-- What is found under an address. -/
def fileAt (files : List (String × Bytes)) (url : String) : Reply :=
  match files.lookup url with
  | some bs => .body bs
  | none => .failure (.notFound url)

/-- A client of mirrors that serve files, and where all that is asked for is noted. -/
def served (mirrors : List Mirror) (files : List (String × Bytes)) (initialRoot : Bytes) :
    Client (List (String × UInt64)) (Dict Bytes) where
  primitives := .transparent
  fetcher url maxLength net := (fileAt files url, net ++ [(url, maxLength)])
  store := .plain
  mirrors
  limits := .standard
  initialRoot

theorem served_answersWith (mirrors : List Mirror) (files : List (String × Bytes))
    (initialRoot : Bytes) :
    (served mirrors files initialRoot).AnswersWith fun url _ => fileAt files url :=
  fun _ _ _ => rfl

end Client

end SecureUpdate
