import Mathlib.Data.List.Induction
import SecureUpdate.Client.Lookup
import SecureUpdate.Proofs.Client.Retrieval
import SecureUpdate.Proofs.Dict
import SecureUpdate.Proofs.Trust.Accepted

/-!
Which delegator vouches for the metadata that a search is given. Several roles may delegate to one
role name, each with keys of its own, and what an earlier search loaded stays in memory for the
later ones. A search asks for metadata role by role and delegator by delegator, so every sequence of
look-ups is a sequence of asks, between which the mirrors and the local store may come to hold
anything. Metadata that is loaded when it is asked for has the signatures that this delegator wants;
metadata that memory holds as current is given as it is, whoever it was loaded for.

Main statement: `delegatedTargets_authorized`.
-/

namespace SecureUpdate

variable {ν κ : Type}

/-- All that a search does to the state it does by asking its source, for roles that it has not
visited. -/
theorem Search.follow_asks {σ : Type} (p : Primitives) (bounds : SearchBounds)
    (source : DelegationSource σ) (path : String) (visited : List String)
    (pending : List Search.Pending) (s : σ) : ∃ asks : List (Delegation × String),
      (∀ ask ∈ asks, ask.1.name ∉ visited) ∧
        (Search.follow p bounds source path visited pending s).2 =
          asks.foldl (fun s ask => (source ask.1 ask.2 s).2) s := by
  fun_induction Search.follow p bounds source path visited pending s with
  | case1 visited s => exact ⟨[], List.forall_mem_nil _, rfl⟩
  | case2 visited s next rest name hvisited ih => exact ih
  | case3 visited s next rest name hvisited hbound => exact ⟨[], List.forall_mem_nil _, rfl⟩
  | case4 visited s next rest name hunvisited _ e s' hsource
  | case5 visited s next rest name hunvisited _ e s' hsource
  | case6 visited s next rest name hunvisited _ found s' hsource =>
    refine ⟨[(next.delegation, next.delegator)], ?_, ?_⟩
    · simpa using hunvisited
    · simp [hsource]
  | case7 visited s next rest name hunvisited _ found s' hsource hfound ih =>
    obtain ⟨asks, hnames, hasks⟩ := ih
    refine ⟨(next.delegation, next.delegator) :: asks, ?_, ?_⟩
    · refine List.forall_mem_cons.2 ⟨by simpa using hunvisited, fun ask hask hmem => ?_⟩
      exact hnames ask hask (List.mem_cons_of_mem _ hmem)
    · rw [hasks, List.foldl_cons, hsource]

/-- A search never asks for the top-level targets. -/
theorem Search.run_asks {σ : Type} (p : Primitives) (bounds : SearchBounds)
    (source : DelegationSource σ) (path : String) (top : Targets) (s : σ) :
    ∃ asks : List (Delegation × String), (∀ ask ∈ asks, ask.1.name ≠ Role.targets.name) ∧
      (Search.run p bounds source path top s).2 =
        asks.foldl (fun s ask => (source ask.1 ask.2 s).2) s := by
  unfold Search.run
  split
  · exact ⟨[], List.forall_mem_nil _, rfl⟩
  · obtain ⟨asks, hnames, hasks⟩ := Search.follow_asks p bounds source path
      [Role.targets.name] (Search.push p path Role.targets.name top 1 []) s
    exact ⟨asks, fun ask hask => List.ne_of_not_mem_cons (hnames ask hask), hasks⟩

namespace Trust

variable {p : Primitives} {t : Trust} {role delegator : String} {m : Signed Targets}

theorem authorizes_iff : t.Authorizes p role delegator m ↔
    (match t.delegationOf role delegator with
      | .ok (delegation, keys) => m.verifies p delegation.authority (.ofKeys p keys)
      | .error _ => false) = true := by
  unfold Authorizes
  split
  · rename_i delegation keys h
    constructor
    · rintro ⟨delegation', keys', h', hm⟩
      cases h.symm.trans h'
      exact hm
    · intro hm
      exact ⟨delegation, keys, h, hm⟩
  · rename_i h
    constructor
    · rintro ⟨delegation, keys, h', -⟩
      cases h.symm.trans h'
    · intro hm
      cases hm

instance : Decidable (t.Authorizes p role delegator m) := decidable_of_iff' _ authorizes_iff

end Trust

namespace Client

/-- Something that happens while targets are looked up. -/
inductive Act (ν κ : Type) where
  /-- A search asks for the metadata of a delegated role on behalf of a delegator. -/
  | ask (delegation : Delegation) (delegator : String)
  /-- The mirrors and the local store hold something else from now on. -/
  | turn (w : World ν κ)

/-- What is trusted, and the world, once something has happened. -/
def act (c : Client ν κ) (s : LookupState ν κ) : Act ν κ → LookupState ν κ
  | .ask delegation delegator => (c.delegatedTargets delegation delegator s).2
  | .turn w => (s.1, w)

/-- What is trusted, and the world, once some things have happened. -/
def after (c : Client ν κ) (s : LookupState ν κ) (acts : List (Act ν κ)) : LookupState ν κ :=
  acts.foldl c.act s

variable {c : Client ν κ} {s s' : LookupState ν κ} {delegation : Delegation}
  {delegator role : String} {v : Verified Targets} {acts : List (Act ν κ)} {a : Act ν κ}

theorem after_append_singleton : c.after s (acts ++ [a]) = c.act (c.after s acts) a := by
  rw [after, List.foldl_append]
  rfl

/-- A look-up is a sequence of asks, none of them for the top-level targets. -/
theorem lookup_asks (c : Client ν κ) (path : String) (s : LookupState ν κ) :
    ∃ asks : List (Delegation × String), (∀ ask ∈ asks, ask.1.name ≠ Role.targets.name) ∧
      (c.lookup path s.1 s.2).2 = c.after s (asks.map fun ask => .ask ask.1 ask.2) := by
  obtain ⟨t, w⟩ := s
  cases htop : t.targets with
  | none =>
    refine ⟨[], List.forall_mem_nil _, ?_⟩
    rw [lookup, htop]
    rfl
  | some top =>
    obtain ⟨asks, hnames, hasks⟩ :=
      Search.run_asks c.primitives c.searchBounds c.delegatedTargets path top.payload (t, w)
    refine ⟨asks, hnames, ?_⟩
    rw [after, List.foldl_map]
    refine Eq.trans ?_ hasks
    rw [lookup, htop]
    cases hrun : Search.run c.primitives c.searchBounds c.delegatedTargets path top.payload (t, w)
      with
    | mk r s => cases r <;> simp only [hrun]

/-! ### One ask -/

/-- What memory holds as current is given as it is. -/
theorem delegatedTargets_of_current
    (h : s.1.isDelegatedCurrent c.primitives delegation.name = true) :
    c.delegatedTargets delegation delegator s = (heldDelegated s.1 delegation.name, s) := by
  rw [delegatedTargets, if_pos h]

/-- The world once the store has been asked for a role. -/
def afterLoad (c : Client ν κ) (role : String) (w : World ν κ) : World ν κ :=
  { w with cache := (c.store.load role w.cache).2 }

/-- What comes of an ask that memory does not answer: metadata that is accepted on behalf of the
delegator, either from the store or from the mirrors, and in the latter case reported and saved; or
else a failure. -/
inductive Asked (c : Client ν κ) (role delegator : String) (s : LookupState ν κ) :
    Except TrustError (Verified Targets) × LookupState ν κ → Prop where
  | loaded {bs : Bytes} {t : Trust}
    (accepted : s.1.updateDelegated c.primitives bs role delegator .cache = .ok t) :
    Asked c role delegator s (heldDelegated t role, t, c.afterLoad role s.2)
  | fetched {bs : Bytes} {t : Trust} (version : UInt64) (net : ν)
    (accepted : s.1.updateDelegated c.primitives bs role delegator .remote = .ok t) :
    Asked c role delegator s (heldDelegated t role, t, {
      net, cache := (c.store.save role bs (c.afterLoad role s.2).cache).2,
      events := s.2.events ++ [.accepted role version] })
  | failed (e : TrustError) (net : ν) :
    Asked c role delegator s (.error e, s.1, { c.afterLoad role s.2 with net })

/-- What the local store gives is accepted on behalf of the delegator, or nothing is. -/
theorem loadDelegated_cases {loaded : Bool} (h : c.loadDelegated role delegator s = (loaded, s')) :
    s'.2 = c.afterLoad role s.2 ∧
      ((loaded = true ∧
        ∃ bs, s.1.updateDelegated c.primitives bs role delegator .cache = .ok s'.1) ∨
      (loaded = false ∧ s'.1 = s.1)) := by
  unfold loadDelegated at h
  unfold afterLoad
  split at h
  · rename_i bs cache hload
    rw [hload]
    simp only at h
    cases haccept : s.1.updateDelegated c.primitives bs role delegator .cache with
    | error e =>
      rw [haccept] at h
      cases h
      exact ⟨rfl, .inr ⟨rfl, rfl⟩⟩
    | ok t =>
      rw [haccept] at h
      simp only at h
      split at h
      · cases h
        exact ⟨rfl, .inl ⟨rfl, bs, haccept⟩⟩
      · cases h
        exact ⟨rfl, .inr ⟨rfl, rfl⟩⟩
  · rename_i cache hload
    cases h
    exact ⟨by rw [hload], .inr ⟨rfl, rfl⟩⟩

/-- What the mirrors give is accepted on behalf of the delegator, reported and saved; a failure
moves the network only. -/
theorem fetchDelegated_cases {t : Trust} {w w' : World ν κ} {r : Except TrustError Trust}
    (h : c.fetchDelegated role delegator t w = (r, w')) :
    (∃ e net, r = .error e ∧ w' = { w with net }) ∨
      ∃ t' bs version net, r = .ok t' ∧
        t.updateDelegated c.primitives bs role delegator .remote = .ok t' ∧
          w' = ⟨net, (c.store.save role bs w.cache).2, w.events ++ [.accepted role version]⟩ := by
  cases hpin : t.snapshot.bind fun s => s.payload.pin? role with
  | none =>
    simp only [fetchDelegated, hpin] at h
    cases h
    exact .inl ⟨_, w.net, rfl, rfl⟩
  | some pin =>
    simp only [fetchDelegated, hpin] at h
    cases hfetch : c.fetchPinned role pin c.limits.targetsSizeCap
        (fun bs t => t.updateDelegated c.primitives bs role delegator .remote) t w with
    | mk fetched w₁ =>
      cases fetched with
      | error e =>
        rw [Task.bind_of_error hfetch] at h
        cases h
        obtain ⟨net, rfl⟩ := fetchPinned_error hfetch
        exact .inl ⟨e, net, rfl, rfl⟩
      | ok found =>
        obtain ⟨bs, t'⟩ := found
        obtain ⟨haccept, net, rfl⟩ := fetchPinned_ok hfetch
        obtain ⟨failure, hsave⟩ := c.save_world role bs
          { w with net, events := w.events ++ [.accepted role pin.version] }
        rw [Task.bind_of_ok hfetch, Task.bind_of_ok (report_eq _ _), Task.bind_of_ok hsave] at h
        cases h
        exact .inr ⟨t', bs, pin.version, net, rfl, haccept, rfl⟩

theorem delegatedTargets_asked (delegation : Delegation) (delegator : String)
    (h : s.1.isDelegatedCurrent c.primitives delegation.name = false) :
    Asked c delegation.name delegator s (c.delegatedTargets delegation delegator s) := by
  have hmiss : ¬ s.1.isDelegatedCurrent c.primitives delegation.name = true := by simp [h]
  cases hload : c.loadDelegated delegation.name delegator s with
  | mk loaded s₁ =>
    obtain ⟨t₁, w₁⟩ := s₁
    obtain ⟨rfl, hloaded⟩ := loadDelegated_cases hload
    rcases hloaded with ⟨rfl, bs, haccept⟩ | ⟨rfl, rfl⟩
    · simp only [delegatedTargets, if_neg hmiss, hload]
      exact .loaded haccept
    · cases hfetch : c.fetchDelegated delegation.name delegator s.1
        (c.afterLoad delegation.name s.2) with
      | mk r w =>
        simp only [delegatedTargets, if_neg hmiss, hload, hfetch]
        rcases fetchDelegated_cases hfetch with
          ⟨e, net, rfl, rfl⟩ | ⟨t, bs, version, net, rfl, haccept, rfl⟩
        · exact .failed e net
        · exact .fetched version net haccept

/-- What is trusted after an ask: what was trusted before, or metadata that is accepted on behalf of
the delegator on top of it. -/
theorem delegatedTargets_trust (delegation : Delegation) (delegator : String)
    (s : LookupState ν κ) : (c.delegatedTargets delegation delegator s).2.1 = s.1 ∨
      ∃ bs origin, s.1.updateDelegated c.primitives bs delegation.name delegator origin =
        .ok (c.delegatedTargets delegation delegator s).2.1 := by
  cases hcurrent : s.1.isDelegatedCurrent c.primitives delegation.name with
  | true =>
    rw [delegatedTargets_of_current hcurrent]
    exact .inl rfl
  | false =>
    have hasked := delegatedTargets_asked delegation delegator hcurrent
    generalize c.delegatedTargets delegation delegator s = asked at hasked
    cases hasked with
    | loaded haccept => exact .inr ⟨_, .cache, haccept⟩
    | fetched version net haccept => exact .inr ⟨_, .remote, haccept⟩
    | failed e net => exact .inl rfl

/-- Metadata that was loaded for an ask, since memory did not hold it as current. -/
structure Loads (c : Client ν κ) (s : LookupState ν κ) (delegation : Delegation)
    (delegator : String) (v : Verified Targets) : Prop where
  absent : s.1.isDelegatedCurrent c.primitives delegation.name = false
  authorized : s.1.Authorizes c.primitives delegation.name delegator v.metadata
  answer : (c.delegatedTargets delegation delegator s).1 = .ok v
  held : (c.delegatedTargets delegation delegator s).2.1 =
    { s.1 with delegated := s.1.delegated.insert delegation.name v }

/-- Metadata that becomes trusted for an ask is the answer. -/
theorem heldDelegated_insert {t : Trust} :
    heldDelegated { t with delegated := t.delegated.insert role v } role = .ok v := by
  simp [heldDelegated, SortedMap.get?_insert]

/-- An ask that memory does not answer loads metadata, or fails and leaves what is trusted alone. -/
theorem delegatedTargets_of_absent (delegation : Delegation) (delegator : String)
    (h : s.1.isDelegatedCurrent c.primitives delegation.name = false) :
    (∃ v, c.Loads s delegation delegator v) ∨
      ∃ e, (c.delegatedTargets delegation delegator s).1 = .error e ∧
        (c.delegatedTargets delegation delegator s).2.1 = s.1 := by
  -- both ways to load metadata end in an acceptance on behalf of the delegator
  have hloads : ∀ {bs origin t w},
      s.1.updateDelegated c.primitives bs delegation.name delegator origin = .ok t →
      c.delegatedTargets delegation delegator s = (heldDelegated t delegation.name, t, w) →
        ∃ v, c.Loads s delegation delegator v := by
    intro bs origin t w haccept hask
    obtain ⟨snapshot, m, hm, rfl⟩ := Trust.updateDelegated_eq_ok_iff.1 haccept
    exact ⟨⟨m, bs⟩, h, hm.authorized, (congrArg Prod.fst hask).trans heldDelegated_insert,
      congrArg (·.2.1) hask⟩
  generalize hask : c.delegatedTargets delegation delegator s = asked at hloads
  have hasked := delegatedTargets_asked delegation delegator h
  rw [hask] at hasked
  cases hasked with
  | loaded haccept => exact .inl (hloads haccept rfl)
  | fetched version net haccept => exact .inl (hloads haccept rfl)
  | failed e net => exact .inr ⟨e, rfl, rfl⟩

/-! ### Runs of asks -/

/-- Whether, while some things happened, metadata was loaded for a role on behalf of a delegator
that authorized it then. -/
def LoadedDuring (c : Client ν κ) (s : LookupState ν κ) (acts : List (Act ν κ)) (role : String)
    (v : Verified Targets) : Prop :=
  ∃ before delegation delegator rest, acts = before ++ .ask delegation delegator :: rest ∧
    delegation.name = role ∧ c.Loads (c.after s before) delegation delegator v

theorem LoadedDuring.append_singleton (h : c.LoadedDuring s acts role v) :
    c.LoadedDuring s (acts ++ [a]) role v := by
  obtain ⟨before, delegation, delegator, rest, rfl, hname, hloads⟩ := h
  exact ⟨before, delegation, delegator, rest ++ [a], by simp, hname, hloads⟩

/-- Whatever is held for a role was held from the beginning, or was loaded for the role since. -/
theorem held_after (acts : List (Act ν κ)) (h : (c.after s acts).1.delegated.get? role = some v) :
    s.1.delegated.get? role = some v ∨ c.LoadedDuring s acts role v := by
  induction acts using List.reverseRecOn with
  | nil => exact .inl h
  | append_singleton acts a ih =>
    rw [after_append_singleton] at h
    -- what was held before this act is accounted for already
    have hkept (hheld : (c.after s acts).1.delegated.get? role = some v) :
        s.1.delegated.get? role = some v ∨ c.LoadedDuring s (acts ++ [a]) role v :=
      (ih hheld).imp_right LoadedDuring.append_singleton
    cases a with
    | turn w => exact hkept h
    | ask delegation delegator =>
      cases hcurrent : (c.after s acts).1.isDelegatedCurrent c.primitives delegation.name with
      | true =>
        rw [act, delegatedTargets_of_current hcurrent] at h
        exact hkept h
      | false =>
        rcases delegatedTargets_of_absent delegation delegator hcurrent with
          ⟨v', hloads⟩ | ⟨e, -, he⟩
        · rw [act, hloads.held, SortedMap.get?_insert] at h
          split at h
          · rename_i hname
            cases h
            exact .inr ⟨acts, delegation, delegator, [], rfl, hname, hloads⟩
          · exact hkept h
        · rw [act, he] at h
          exact hkept h

/-- From whatever is trusted, after any look-ups and whatever the mirrors and the local store held
on the way: metadata that an ask gives has enough signatures by the present delegations of the
delegator it is asked for, unless memory held metadata of that role as current. Then that metadata
is given as it is, and nothing changes; it was held from the beginning, or loaded since on behalf of
a delegator that authorized it then, which need not be this one. -/
theorem delegatedTargets_authorized {s₀ : LookupState ν κ}
    (h : c.delegatedTargets delegation delegator (c.after s₀ acts) = (.ok v, s')) :
    let s := c.after s₀ acts
    (s.1.isDelegatedCurrent c.primitives delegation.name = false →
      s.1.Authorizes c.primitives delegation.name delegator v.metadata) ∧
    (s.1.isDelegatedCurrent c.primitives delegation.name = true →
      s' = s ∧ s.1.delegated.get? delegation.name = some v ∧
      (s₀.1.delegated.get? delegation.name = some v ∨
        c.LoadedDuring s₀ acts delegation.name v)) := by
  intro s
  constructor
  · intro habsent
    rcases delegatedTargets_of_absent delegation delegator habsent with ⟨v', hloads⟩ | ⟨e, he, -⟩
    · have hanswer := hloads.answer
      rw [h] at hanswer
      cases hanswer
      exact hloads.authorized
    · rw [h] at he
      cases he
  · intro hcurrent
    have hgiven : (heldDelegated s.1 delegation.name, s) = (.ok v, s') :=
      (delegatedTargets_of_current hcurrent).symm.trans h
    have hheld : s.1.delegated.get? delegation.name = some v := by
      have := congrArg Prod.fst hgiven
      unfold heldDelegated at this
      split at this
      · rename_i held hget
        cases this
        exact hget
      · cases this
    exact ⟨(congrArg Prod.snd hgiven).symm, hheld, held_after acts hheld⟩

/-! ### One role name under two delegators -/

namespace Twice

/-- A delegation of the role `x` to the key of a digit. -/
def toX (digit : Char) : Delegation where
  name := "x"
  authority := ⟨[digit.toString], 1, by decide⟩
  paths := .patterns ["*"]
  terminating := false

/-- Targets metadata that delegates `x` to the key of a digit. -/
def delegating (digit : Char) : Verified Targets where
  metadata := {
    payload := {
      specVersion := "1", version := 1, expires := ⟨1, 0, by decide⟩, targets := .empty
      delegations := some ⟨.ofList [(digit.toString, .ofDigit digit)], [toX digit]⟩ }
    signatures := [], raw := .null, canonical := [] }
  bytes := []

/-- The top-level role delegates `x` to key 1, and the role `b` delegates `x` to key 2. -/
def trust : Trust where
  now := default
  root := none
  rootKeys := .empty
  timestamp := none
  snapshot := some {
    metadata := {
      payload := {
        specVersion := "1", version := 1, expires := ⟨1, 0, by decide⟩
        pins := .ofList [("x.json", ⟨1, none, none⟩)] }
      signatures := [], raw := .null, canonical := [] }
    bytes := [] }
  targets := some (delegating '1')
  delegated := .ofList [("b", delegating '2')]

/-- Metadata of `x` that key 1 signed. -/
def world : World (List Reply) (Dict Bytes) where
  net := [.body (publish ['1'] "[\"targets\",\"1\",1,\"2999-01-01T00:00:00Z\"]")]
  cache := .empty
  events := []

/-- What is trusted once `x` has been asked for on behalf of the top-level role. -/
def askedOnce : LookupState (List Reply) (Dict Bytes) :=
  (scripted []).after (trust, world) [.ask (toX '1') Role.targets.name]

end Twice

open Twice in
/-- On behalf of `b` memory then gives what was loaded for the top-level role. -/
theorem delegatedTargets_authorized_twice : ∃ v,
    ((scripted []).delegatedTargets (toX '2') "b" askedOnce).1 = .ok v ∧
      (scripted []).LoadedDuring (trust, world) [.ask (toX '1') Role.targets.name] "x" v := by
  have hunheld : trust.delegated.get? "x" = none := by rfl
  have hcurrent : askedOnce.1.isDelegatedCurrent .transparent "x" = true := by decide +kernel
  have hgiven : ((scripted []).delegatedTargets (toX '2') "b" askedOnce).1.isOk = true := by
    decide +kernel
  cases hask : (scripted []).delegatedTargets (toX '2') "b" askedOnce with
  | mk r s' =>
    rw [hask] at hgiven
    cases r with
    | error e => cases hgiven
    | ok v =>
      obtain ⟨-, -, hstart | hloaded⟩ := (delegatedTargets_authorized hask).2 hcurrent
      · cases hunheld.symm.trans hstart
      · exact ⟨v, rfl, hloaded⟩

open Twice in
/-- This is what key 1 signed, although `b` delegates to key 2. -/
theorem delegatedTargets_unauthorized : ∃ v,
    ((scripted []).delegatedTargets (toX '2') "b" askedOnce).1 = .ok v ∧
      ¬ askedOnce.1.Authorizes .transparent "x" "b" v.metadata := by
  have hgiven : (match ((scripted []).delegatedTargets (toX '2') "b" askedOnce).1 with
      | .ok v => decide (¬ askedOnce.1.Authorizes .transparent "x" "b" v.metadata)
      | .error _ => false) = true := by decide +kernel
  split at hgiven
  · rename_i v hask
    exact ⟨v, hask, of_decide_eq_true hgiven⟩
  · cases hgiven

end Client

end SecureUpdate
