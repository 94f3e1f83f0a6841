import Mathlib.Logic.Relation
import SecureUpdate.Client.Refresh
import SecureUpdate.Proofs.Cache.Reliable
import SecureUpdate.Proofs.Trust.Run

/-!
What a refresh does to its copy of trust and to the world, move by move. A move leaves both alone
but for the network, or accepts bytes that the store holds, or accepts bytes and saves them. Which
bytes are held for a role changes in no other way than by an acceptance for that role, except that a
rotation of the root forgets some.

Main statement: `Moves.induction`, what every move keeps holds after all of them.
-/

namespace SecureUpdate

namespace Trust

variable {p : Primitives} {t t' : Trust} {offer : Offer} {role other : Role} {bs bs' : Bytes}

/-- The top-level role that an offer is metadata of, with its bytes. -/
def Offer.subject : Offer → Option (Role × Bytes)
  | .firstRoot bs => some (.root, bs)
  | .root bs => some (.root, bs)
  | .timestamp bs _ => some (.timestamp, bs)
  | .snapshot bs _ => some (.snapshot, bs)
  | .targets bs _ => some (.targets, bs)
  | .delegated _ _ _ _ => none
  | .clock _ => none

/-- Metadata of a role below the root as an offer. -/
def Offer.below (role : Role) (bs : Bytes) (origin : Origin) : Offer :=
  match role with
  | .root => .root bs
  | .timestamp => .timestamp bs origin
  | .snapshot => .snapshot bs origin
  | .targets => .targets bs origin

theorem Offer.subject_below (role : Role) (bs : Bytes) (origin : Origin) :
    (Offer.below role bs origin).subject = some (role, bs) := by
  cases role <;> rfl

theorem Offer.below_ne_root {origin : Origin} (h : role ≠ .root) :
    Offer.below role bs origin ≠ .root bs' := by
  cases role with
  | root => exact absurd rfl h
  | timestamp => exact nofun
  | snapshot => exact nofun
  | targets => exact nofun

theorem Offer.not_ofRoot_below {origin : Origin} (h : role ≠ .root) :
    ¬ (Offer.below role bs origin).OfRoot := by
  cases role with
  | root => exact absurd rfl h
  | _ => exact id

@[simp] theorem bytesOf_root : t.bytesOf Role.root.name = t.root.map (·.bytes) := by
  rw [bytesOf, Role.ofName?_name]

@[simp] theorem bytesOf_timestamp :
    t.bytesOf Role.timestamp.name = t.timestamp.map (·.bytes) := by
  rw [bytesOf, Role.ofName?_name]

@[simp] theorem bytesOf_snapshot : t.bytesOf Role.snapshot.name = t.snapshot.map (·.bytes) := by
  rw [bytesOf, Role.ofName?_name]

@[simp] theorem bytesOf_targets : t.bytesOf Role.targets.name = t.targets.map (·.bytes) := by
  rw [bytesOf, Role.ofName?_name]

/-- Accepted bytes are what is held for their role. -/
theorem bytesOf_of_attempt (hsubject : offer.subject = some (role, bs))
    (h : t.attempt p offer = .ok t') : t'.bytesOf role.name = some bs := by
  cases offer with
  | firstRoot =>
    obtain ⟨m, -, rfl⟩ := loadRoot_eq_ok_iff.1 h
    cases hsubject
    simp
  | root =>
    obtain ⟨held, m, -, rfl⟩ := updateRoot_eq_ok_iff.1 h
    cases hsubject
    simp
  | timestamp =>
    obtain ⟨root, m, -, rfl⟩ := updateTimestamp_eq_ok_iff.1 h
    cases hsubject
    simp
  | snapshot =>
    obtain ⟨root, timestamp, m, -, rfl⟩ := updateSnapshot_eq_ok_iff.1 h
    cases hsubject
    simp
  | targets =>
    obtain ⟨root, snapshot, m, -, rfl⟩ := updateTargets_eq_ok_iff.1 h
    cases hsubject
    simp
  | delegated => cases hsubject
  | clock => cases hsubject

/-- Bytes that are held for another role after an acceptance were held before it. -/
theorem bytesOf_of_attempt_of_ne (hsubject : offer.subject = some (role, bs))
    (h : t.attempt p offer = .ok t') (hne : role ≠ other)
    (hheld : t'.bytesOf other.name = some bs') : t.bytesOf other.name = some bs' := by
  cases offer with
  | firstRoot =>
    obtain ⟨m, -, rfl⟩ := loadRoot_eq_ok_iff.1 h
    cases hsubject
    cases other <;> simp_all
  | root =>
    obtain ⟨held, m, -, rfl⟩ := updateRoot_eq_ok_iff.1 h
    cases hsubject
    cases other with
    | root => exact absurd rfl hne
    | timestamp =>
      rw [bytesOf_timestamp] at hheld ⊢
      rw [timestamp_forgetRotated] at hheld
      split at hheld
      · exact hheld
      · cases hheld
    | snapshot =>
      rw [bytesOf_snapshot] at hheld ⊢
      rw [snapshot_forgetRotated] at hheld
      split at hheld
      · exact hheld
      · cases hheld
    | targets =>
      rw [bytesOf_targets] at hheld ⊢
      rw [targets_forgetRotated] at hheld
      split at hheld
      · exact hheld
      · cases hheld
  | timestamp =>
    obtain ⟨root, m, -, rfl⟩ := updateTimestamp_eq_ok_iff.1 h
    cases hsubject
    cases other <;> simp_all
  | snapshot =>
    obtain ⟨root, timestamp, m, -, rfl⟩ := updateSnapshot_eq_ok_iff.1 h
    cases hsubject
    cases other <;> simp_all
  | targets =>
    obtain ⟨root, snapshot, m, -, rfl⟩ := updateTargets_eq_ok_iff.1 h
    cases hsubject
    cases other <;> simp_all
  | delegated => cases hsubject
  | clock => cases hsubject

end Trust

/-! ### Moves -/

/-- What a client trusts while it works, and the world. -/
abbrev Spot (ν κ : Type) := Trust × World ν κ

/-- One move, where `view` reads off a store what it holds for each role name, and `P` says which
offers may be accepted. -/
inductive Move {ν κ : Type} (p : Primitives) (view : κ → String → Option Bytes)
    (P : Trust.Offer → Prop) : Spot ν κ → Spot ν κ → Prop where
  /-- Only the network moves, as far as anyone can tell. -/
  | idle {t w w'} (hview : view w'.cache = view w.cache) (hevents : w'.events = w.events) :
    Move p view P (t, w) (t, w')
  /-- Bytes that the store holds are accepted, though never as the next root. -/
  | cached {t t' w role bs offer} (hsubject : offer.subject = some (role, bs)) (hoffer : P offer)
    (hfirst : ∀ bs, offer ≠ .root bs) (hheld : view w.cache role.name = some bs)
    (haccept : t.attempt p offer = .ok t') : Move p view P (t, w) (t', w)
  /-- Bytes are accepted, reported and saved. -/
  | saved {t t' w w' role bs offer events} (hsubject : offer.subject = some (role, bs))
    (hoffer : P offer) (haccept : t.attempt p offer = .ok t')
    (hview : ∀ other,
      view w'.cache other = if role.name = other then some bs else view w.cache other)
    (hevents : w'.events = w.events ++ events)
    (hrotated : (∃ bs, offer = .root bs) → ∃ version, .rotated version ∈ events) :
    Move p view P (t, w) (t', w')

/-- What an acceptance does, as far as the store can tell: the store holds the accepted bytes for
their role then, and what it held for any other. -/
structure Accepts {ν κ : Type} (p : Primitives) (view : κ → String → Option Bytes)
    (offer : Trust.Offer) (role : Role) (bs : Bytes) (s s' : Spot ν κ) : Prop where
  subject : offer.subject = some (role, bs)
  accepted : s.1.attempt p offer = .ok s'.1
  stored : view s'.2.cache role.name = some bs
  others : ∀ other, role ≠ other → view s'.2.cache other.name = view s.2.cache other.name

/-- A move is an acceptance, or changes neither what is trusted nor what the store holds. -/
theorem Move.idle_or_accepts {ν κ : Type} {p : Primitives} {view : κ → String → Option Bytes}
    {P : Trust.Offer → Prop} {s s' : Spot ν κ} (h : Move p view P s s') :
    (s'.1 = s.1 ∧ view s'.2.cache = view s.2.cache) ∨
      ∃ offer role bs, P offer ∧ Accepts p view offer role bs s s' := by
  cases h with
  | idle hview _ => exact .inl ⟨rfl, hview⟩
  | cached hsubject hoffer _ hheld haccept =>
    exact .inr ⟨_, _, _, hoffer, hsubject, haccept, hheld, fun _ _ => rfl⟩
  | saved hsubject hoffer haccept hview _ _ =>
    refine .inr ⟨_, _, _, hoffer, hsubject, haccept, by rw [hview, if_pos rfl], ?_⟩
    intro other hother
    rw [hview, if_neg fun hname => hother (Role.name_injective hname)]

/-- Any number of moves. -/
def Moves {ν κ : Type} (p : Primitives) (view : κ → String → Option Bytes)
    (P : Trust.Offer → Prop) : Spot ν κ → Spot ν κ → Prop :=
  Relation.ReflTransGen (Move p view P)

namespace Moves

variable {ν κ : Type} {p : Primitives} {view : κ → String → Option Bytes}
  {P Q : Trust.Offer → Prop} {s s' s'' : Spot ν κ}

theorem refl : Moves p view P s s := Relation.ReflTransGen.refl

theorem trans (h : Moves p view P s s') (h' : Moves p view P s' s'') : Moves p view P s s'' :=
  Relation.ReflTransGen.trans h h'

theorem of_move (h : Move p view P s s') : Moves p view P s s' := Relation.ReflTransGen.single h

/-- Moves with some offers are moves with more offers. -/
theorem mono (h : Moves p view P s s') (hPQ : ∀ offer, P offer → Q offer) :
    Moves p view Q s s' := by
  refine Relation.ReflTransGen.mono (fun s s' hmove => ?_) s s' h
  cases hmove with
  | idle hview hevents => exact .idle hview hevents
  | cached hsubject hoffer hfirst hheld haccept =>
    exact .cached hsubject (hPQ _ hoffer) hfirst hheld haccept
  | saved hsubject hoffer haccept hview hevents hrotated =>
    exact .saved hsubject (hPQ _ hoffer) haccept hview hevents hrotated

/-- What every move keeps holds after all of them. -/
theorem induction {I : Spot ν κ → Prop} (h : Moves p view P s s')
    (hmove : ∀ s s', I s → Move p view P s s' → I s') (hs : I s) : I s' := by
  induction h with
  | refl => exact hs
  | tail _ hlast ih => exact hmove _ _ ih hlast

/-- To accept what the store holds, offer by offer, is a number of moves. -/
theorem run_cached {t : Trust} {w : World ν κ} {offers : List Trust.Offer}
    (h : ∀ offer ∈ offers, P offer ∧ (∀ bs, offer ≠ .root bs) ∧ ∃ role bs,
      offer.subject = some (role, bs) ∧ view w.cache role.name = some bs) :
    Moves p view P (t, w) (t.run p offers, w) := by
  induction offers generalizing t with
  | nil => exact refl
  | cons offer offers ih =>
    obtain ⟨hoffer, hfirst, role, bs, hsubject, hheld⟩ := h offer List.mem_cons_self
    refine trans ?_ (ih fun offer hmem => h offer (List.mem_cons_of_mem _ hmem))
    cases haccept : t.attempt p offer with
    | ok t' =>
      rw [Trust.step_of_attempt haccept]
      exact of_move (.cached hsubject hoffer hfirst hheld haccept)
    | error e =>
      rw [Trust.step, haccept]
      exact refl

/-- What is held for a role in the end was accepted on the way, and then the store holds the same,
or it was held from the beginning, and then the store has not been changed for the role. -/
theorem bytesOf (h : Moves p view P s s') {role : Role} {bs : Bytes}
    (hheld : s'.1.bytesOf role.name = some bs) :
    view s'.2.cache role.name = some bs ∨
      (s.1.bytesOf role.name = some bs ∧ view s'.2.cache role.name = view s.2.cache role.name) := by
  induction h with
  | refl => exact .inr ⟨hheld, rfl⟩
  | tail _ hlast ih =>
    rcases hlast.idle_or_accepts with ⟨htrust, hview⟩ | ⟨offer, role', bs', -, h⟩
    · rw [htrust] at hheld
      rw [hview]
      exact ih hheld
    · by_cases hrole : role' = role
      · subst hrole
        rw [Trust.bytesOf_of_attempt h.subject h.accepted] at hheld
        cases hheld
        exact .inl h.stored
      · rw [h.others role hrole]
        exact ih (Trust.bytesOf_of_attempt_of_ne h.subject h.accepted hrole hheld)

/-- Events are only ever added. -/
theorem events_grow (h : Moves p view P s s') : s.2.events <+: s'.2.events := by
  refine h.induction (I := fun s' => s.2.events <+: s'.2.events) ?_ (List.prefix_refl _)
  rintro s₁ s₂ hprefix hmove
  cases hmove with
  | idle _ hevents => exact hevents ▸ hprefix
  | cached => exact hprefix
  | saved _ _ _ _ hevents _ => exact hevents ▸ hprefix.trans (List.prefix_append _ _)

/-- Moves that report no rotation accept no next root. -/
theorem without_rotation (h : Moves p view P s s')
    (hnone : ∀ version, .rotated version ∉ s'.2.events) :
    Moves p view (fun offer => P offer ∧ ∀ bs, offer ≠ .root bs) s s' := by
  induction h with
  | refl => exact refl
  | tail hbefore hlast ih =>
    have hbefore' := ih fun version hmem =>
      hnone version ((events_grow (of_move hlast)).subset hmem)
    refine hbefore'.trans (of_move ?_)
    cases hlast with
    | idle hview hevents => exact .idle hview hevents
    | cached hsubject hoffer hfirst hheld haccept =>
      exact .cached hsubject ⟨hoffer, hfirst⟩ hfirst hheld haccept
    | saved hsubject hoffer haccept hview hevents hrotated =>
      refine .saved hsubject ⟨hoffer, ?_⟩ haccept hview hevents hrotated
      rintro bs rfl
      obtain ⟨version, hmem⟩ := hrotated ⟨bs, rfl⟩
      exact hnone version (hevents ▸ List.mem_append_right _ hmem)

end Moves

end SecureUpdate
