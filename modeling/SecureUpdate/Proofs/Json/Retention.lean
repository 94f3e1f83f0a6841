import Mathlib.Data.List.Perm.Basic
import SecureUpdate.Proofs.Json.Rereading

/-!
Which values a canonical form gives back. A value is read back from its canonical form, as it was,
if its texts are in normal form and have no control characters, its integers fit 64 bits, its
members are in order, and it does not nest too deep (`Retained`).

Main statement: `reads_value`.
-/

namespace SecureUpdate.Json

open Bytes Reader

variable {α β : Type} {normalize : List Char → List Char} {v : Json}

/-! ### Readers that go through -/

namespace Reader

/-- Whether a reader makes a thing of a text, whatever may follow a value. -/
def Reads (r : Reader α) (t : List Char) (x : α) : Prop :=
  ∀ rest, Ended rest → r (ofChars t ++ rest) = some (x, rest)

/-- What is made of something that was read. -/
theorem Reads.map {r : Reader α} {t : List Char} {x : α} (h : Reads r t x) (f : α → β) :
    Reads (fun bs => (r bs).map fun (x, rest) => (f x, rest)) t (f x) := by
  intro rest hrest
  show (r (ofChars t ++ rest)).map _ = _
  rw [h rest hrest]
  rfl

end Reader

/-! ### Strings -/

/-- Whether a text is its own canonical form, escapes apart: it is in normal form, and no control
character is in it. -/
def PlainText (normalize : List Char → List Char) (s : String) : Prop :=
  NormalText normalize s ∧ printable s.toList = true

instance {s : String} : Decidable (PlainText normalize s) := by
  unfold PlainText; infer_instance

/-- A plain text is read back. -/
theorem Reader.stringBody_of_plain {s : String} (h : PlainText normalize s) (rest : Bytes) :
    stringBody (ofChars (writeString normalize s).tail ++ rest) = some (s, rest) := by
  rw [writeString_of_normal h.1, List.cons_append, List.tail_cons, ofChars_append,
    List.append_assoc]
  refine (stringBody_flatMap_writeChar _ rest).trans ?_
  rw [if_pos h.2, String.ofList_toList]

/-! ### Lists and objects -/

namespace Reader

section Lists

variable {item : Reader α} {close : UInt8} {ts : List (List Char)} {xs : List α}

/-- Whether a text is read as an item and begins like one. -/
def ItemOf (item : Reader α) (x : α) (t : List Char) : Prop := Begins t ∧ Reads item t x

/-- Items with commas between them are read up to the closing byte. -/
theorem itemsUntil_of_items (hclose : close = 0x5D ∨ close = 0x7D) {x : α} {t : List Char}
    (ht : ItemOf item x t) (hts : List.Forall₂ (ItemOf item) xs ts) {most : Nat}
    (hmost : ts.length < most) (rest : Bytes) :
    itemsUntil item close most (ofChars t ++ (ofChars (continued ts) ++ close :: rest)) =
      some (x :: xs, rest) := by
  obtain ⟨hbegins, hreads⟩ := ht
  induction hts generalizing x t most with
  | nil =>
    obtain ⟨most, rfl⟩ := Nat.exists_eq_succ_of_ne_zero (Nat.ne_of_gt hmost)
    have hended : Ended (close :: rest) := by
      rintro _ ⟨⟩
      exact .inr hclose
    rw [itemsUntil, skipBlanks_of_begins hbegins]
    show (item (ofChars t ++ close :: rest) >>= _) = _
    rw [hreads _ hended]
    simp [skipBlanks_close hclose]
  | @cons x' t' xs ts ht' _ ih =>
    obtain ⟨most, rfl⟩ := Nat.exists_eq_succ_of_ne_zero (Nat.ne_of_gt (Nat.zero_lt_of_lt hmost))
    have hrest := ih (Nat.lt_of_succ_lt_succ hmost) ht'.1 ht'.2
    have hcomma : ofChars (continued (t' :: ts)) ++ close :: rest =
        0x2C :: (ofChars t' ++ (ofChars (continued ts) ++ close :: rest)) := by
      rw [continued, List.cons_append, ofChars_cons (by decide), ofChars_append, List.cons_append,
        List.append_assoc]
      rfl
    have hended (bs : Bytes) : Ended (0x2C :: bs) := by
      rintro _ ⟨⟩
      exact .inl rfl
    have hne : ¬ (0x2C : UInt8) = close := by rcases hclose with rfl | rfl <;> decide
    have hblank (bs : Bytes) : skipBlanks (0x2C :: bs) = 0x2C :: bs := rfl
    rw [itemsUntil, skipBlanks_of_begins hbegins, hcomma, hreads _ (hended _)]
    simp [hblank, hne, hrest]

theorem enclosed_of_items (hclose : close = 0x5D ∨ close = 0x7D)
    (hts : List.Forall₂ (ItemOf item) xs ts) {most : Nat} (hmost : ts.length ≤ most)
    (rest : Bytes) :
    enclosed most item close (ofChars (separated ts) ++ close :: rest) = some (xs, rest) := by
  cases hts with
  | nil =>
    show enclosed most item close (close :: rest) = _
    rw [enclosed, skipBlanks_close hclose]
    simp
  | @cons x t xs ts ht hts =>
    obtain ⟨b, bs, hbytes, hb⟩ := close_ne_of_begins ht.1 hclose
    have hitems := itemsUntil_of_items hclose ht hts hmost rest
    rw [separated_cons, ofChars_append, List.append_assoc, enclosed, skipBlanks_of_begins ht.1]
    rw [hbytes, List.cons_append] at hitems ⊢
    simpa [hb] using hitems

end Lists

/-- A member is read from its name on. -/
theorem reads_memberOf {read : String → Reader α} {e : String × List Char} {name : String} {x : α}
    (hname : e.1 = String.ofList (writeString normalize name)) (hplain : PlainText normalize name)
    (hbegins : Begins e.2) (h : Reads (read name) e.2 x) :
    Reads (memberOf read) (memberText e) x := by
  intro rest hrest
  rw [memberText, hname, String.toList_ofList, ofChars_append, ofChars_writeString,
    List.cons_append, List.cons_append, List.append_assoc, ofChars_cons (by decide)]
  have hread : read name (skipBlanks (ofChars e.2 ++ rest)) = some (x, rest) := by
    rw [skipBlanks_of_begins hbegins]
    exact h rest hrest
  show (stringBody _ >>= _) = _
  rw [stringBody_of_plain hplain]
  exact hread

end Reader

/-! ### How long texts are -/

theorem length_continued {ts : List (List Char)} {t : List Char} (h : t ∈ ts) :
    (ofChars t).length ≤ (ofChars (continued ts)).length := by
  induction ts with
  | nil => cases h
  | cons u us ih =>
    have hcons : (ofChars (continued (u :: us))).length =
        1 + (ofChars u).length + (ofChars (continued us)).length := by
      rw [continued, List.cons_append, ofChars_cons (by decide), ofChars_append, List.length_cons,
        List.length_append]
      omega
    rcases List.mem_cons.1 h with rfl | h
    · omega
    · have := ih h
      omega

theorem length_separated {ts : List (List Char)} {t : List Char} (h : t ∈ ts) :
    (ofChars t).length ≤ (ofChars (separated ts)).length := by
  cases ts with
  | nil => cases h
  | cons u us =>
    rw [separated_cons, ofChars_append, List.length_append]
    rcases List.mem_cons.1 h with rfl | h
    · omega
    · have := length_continued h
      omega

theorem length_enclosed {c d : Char} {t : List Char} {most : Nat} (hc : c.toNat < 0x80)
    (hd : d.toNat < 0x80) (h : (ofChars (c :: t ++ [d])).length ≤ most) :
    (ofChars t).length ≤ most := by
  have hbytes := ofChars_enclosed hc hd t []
  rw [List.append_nil] at hbytes
  rw [hbytes, List.length_cons, List.length_append] at h
  omega

theorem length_memberText (e : String × List Char) :
    (ofChars e.2).length ≤ (ofChars (memberText e)).length := by
  rw [memberText, ofChars_append, ofChars_cons (by decide), List.length_append, List.length_cons]
  omega

theorem length_member {es : List (String × List Char)} {e : String × List Char} {most : Nat}
    (he : e ∈ (SortedMap.ofList es).entries)
    (h : (ofChars (separated (memberTexts es))).length ≤ most) : (ofChars e.2).length ≤ most := by
  have hmember := length_separated (List.mem_map_of_mem (f := memberText) he)
  exact Nat.le_trans (length_memberText e) (Nat.le_trans hmember h)

/-- There are no more items than bytes. -/
theorem count_separated {item : Reader α} {xs : List α} {ts : List (List Char)}
    (h : List.Forall₂ (ItemOf item) xs ts) : ts.length ≤ (ofChars (separated ts)).length := by
  have hcontinued (us : List (List Char)) : us.length ≤ (ofChars (continued us)).length := by
    induction us with
    | nil => exact Nat.zero_le _
    | cons u us ih =>
      rw [continued, List.cons_append, ofChars_cons (by decide), ofChars_append, List.length_cons,
        List.length_cons, List.length_append]
      omega
  cases h with
  | nil => exact Nat.zero_le _
  | @cons _ u _ us hu =>
    obtain ⟨b, bs, hbytes, -⟩ := close_ne_of_begins hu.1 (.inl rfl)
    have hus := hcontinued us
    rw [separated_cons, ofChars_append, hbytes, List.length_append, List.length_cons,
      List.length_cons]
    omega

/-! ### Values -/

/-- Whether a value is given back by its canonical form: it nests at most `depth` deep, its texts
are plain, its integers fit 64 bits and its members are in order. -/
def Retained (normalize : List Char → List Char) : (depth : Nat) → Json → Prop
  | _, .int i => Fits i
  | _, .str s => PlainText normalize s
  | 0, .arr _ => False
  | 0, .obj _ => False
  | depth + 1, .arr items => ∀ v ∈ items, Retained normalize depth v
  | depth + 1, .obj members => (members.Pairwise fun a b => a.1 < b.1) ∧
      ∀ m ∈ members, PlainText normalize m.1 ∧ Retained normalize depth m.2
  | _, _ => True

instance decidableRetained : (depth : Nat) → (v : Json) → Decidable (v.Retained normalize depth)
  | 0, .null | 0, .bool _ | 0, .real _ => .isTrue trivial
  | 0, .int i => inferInstanceAs (Decidable (Fits i))
  | 0, .str s => inferInstanceAs (Decidable (PlainText normalize s))
  | 0, .arr _ | 0, .obj _ => .isFalse id
  | _ + 1, .null | _ + 1, .bool _ | _ + 1, .real _ => .isTrue trivial
  | _ + 1, .int i => inferInstanceAs (Decidable (Fits i))
  | _ + 1, .str s => inferInstanceAs (Decidable (PlainText normalize s))
  | depth + 1, .arr items =>
    have : ∀ v : Json, Decidable (v.Retained normalize depth) := decidableRetained depth
    inferInstanceAs (Decidable (∀ v ∈ items, v.Retained normalize depth))
  | depth + 1, .obj members =>
    have : ∀ v : Json, Decidable (v.Retained normalize depth) := decidableRetained depth
    inferInstanceAs (Decidable ((members.Pairwise fun a b => a.1 < b.1) ∧
      ∀ m ∈ members, PlainText normalize m.1 ∧ m.2.Retained normalize depth))

theorem Retained.normal {depth : Nat} (h : v.Retained normalize depth) : v.Normal normalize := by
  induction depth generalizing v with
  | zero =>
    cases v with
    | str s => exact List.forall_mem_singleton.2 h.1
    | arr | obj => exact h.elim
    | _ => exact nofun
  | succ depth ih =>
    cases v with
    | str s => exact List.forall_mem_singleton.2 h.1
    | arr items => exact .arr fun v hv => ih (h v hv)
    | obj members => exact .obj fun m hm => ⟨(h.2 m hm).1.1, ih (h.2 m hm).2⟩
    | _ => exact nofun

theorem Retained.sorted {depth : Nat} (h : v.Retained normalize depth) : v.Sorted := by
  induction depth generalizing v with
  | zero =>
    cases v with
    | arr | obj => exact h.elim
    | _ => constructor
  | succ depth ih =>
    cases v with
    | arr items => exact .arr fun v hv => ih (h v hv)
    | obj members => exact .obj h.1 fun m hm => ih (h.2 m hm).2
    | _ => constructor

/-- Corresponding items that have to do with each other do so in another way as well. -/
theorem forall₂_imp_of_mem {R S : α → β → Prop} {as : List α} {bs : List β}
    (h : List.Forall₂ R as bs) (himp : ∀ a ∈ as, ∀ b ∈ bs, R a b → S a b) :
    List.Forall₂ S as bs := by
  induction h with
  | nil => exact .nil
  | cons hab _ ih =>
    refine .cons (himp _ List.mem_cons_self _ List.mem_cons_self hab) (ih fun a ha b hb => ?_)
    exact himp a (List.mem_cons_of_mem _ ha) b (List.mem_cons_of_mem _ hb)

/-- The members of an object in the order of their written names. -/
theorem exists_perm_writes {members : List (String × Json)} {es : List (String × List Char)}
    (h : Written normalize members es) :
    ∃ ms, ms.Perm members ∧ List.Forall₂ (Writes normalize) ms (SortedMap.ofList es).entries := by
  have hperm : es.Perm (SortedMap.ofList es).entries :=
    (SortedMap.perm_ofList h.nodup).symm
  have hcomp : Relation.Comp (List.Forall₂ (Writes normalize)) List.Perm members
      (SortedMap.ofList es).entries := ⟨es, h.written, hperm⟩
  rw [List.forall₂_comp_perm_eq_perm_comp_forall₂] at hcomp
  obtain ⟨ms, hms, hwrites⟩ := hcomp
  exact ⟨ms, hms.symm, hwrites⟩

namespace Reader

/-- A value that holds no other is read back. -/
theorem reads_scalar {t : List Char} (h : v.Retained normalize 0) (ht : write normalize v = some t)
    (most depth : Nat) : Reads (value most depth) t v := by
  intro rest hrest
  cases v with
  | null =>
    cases ht
    exact value_eq_scalar (by decide) (by decide) ..
  | bool b =>
    cases b <;> cases ht <;> exact value_eq_scalar (by decide) (by decide) ..
  | int i =>
    cases ht
    obtain ⟨b, bs, hbytes, hb⟩ := writeInt_begins i
    have hnumber := number_of_fits h hrest
    rw [hbytes, List.cons_append] at hnumber ⊢
    rw [value_eq_number hb, hnumber]
  | real x => cases ht
  | str s =>
    cases ht
    rw [ofChars_writeString, List.cons_append, value_eq_scalar (by decide) (by decide)]
    show (stringBody _).map _ = _
    rw [stringBody_of_plain h]
    rfl
  | arr | obj => exact h.elim

/-- A member is read back with its name. -/
theorem reads_member {r : Reader Json} {m : String × Json} {e : String × List Char}
    (hwrites : Writes normalize m e) (hplain : PlainText normalize m.1) (h : Reads r e.2 m.2) :
    Reads (memberOf fun name bs => (r bs).map fun (v, rest) => ((name, v), rest)) (memberText e)
      m :=
  reads_memberOf hwrites.1 hplain (begins_of_write hwrites.2) (h.map fun v => (m.1, v))

/-- A value that is retained is read back from its canonical form. -/
theorem reads_value {t : List Char} {most depth : Nat} (h : v.Retained normalize depth)
    (ht : write normalize v = some t) (hmost : (ofChars t).length ≤ most) :
    Reads (value most depth) t v := by
  induction depth generalizing v t with
  | zero => exact reads_scalar h ht most 0
  | succ depth ih =>
    cases v with
    | arr items =>
      obtain ⟨ts, hts, rfl⟩ := Option.map_eq_some_iff.1 ht
      have hlength := length_enclosed (by decide) (by decide) hmost
      have hitems : List.Forall₂ (ItemOf (value most depth)) items ts :=
        forall₂_imp_of_mem (forall₂_of_writeItems hts) fun v hv t ht hwrite =>
          ⟨begins_of_write hwrite,
            ih (h v hv) hwrite (Nat.le_trans (length_separated ht) hlength)⟩
      intro rest _
      rw [ofChars_enclosed (by decide) (by decide)]
      show (enclosed most (value most depth) 0x5D (_ ++ 0x5D :: rest)).map _ = _
      rw [enclosed_of_items (.inl rfl) hitems (Nat.le_trans (count_separated hitems) hlength)]
      rfl
    | obj members =>
      obtain ⟨es, hes, rfl⟩ := Option.map_eq_some_iff.1 ht
      have hlength := length_enclosed (by decide) (by decide) hmost
      rw [writeMembers_eq] at hlength
      have hwritten : Written normalize members es :=
        ⟨h.1, fun m hm => ⟨(h.2 m hm).1.1, (h.2 m hm).2.normal⟩, fun m hm => (h.2 m hm).2.sorted,
          forall₂_of_writeEach hes⟩
      obtain ⟨ms, hperm, hwrites⟩ := exists_perm_writes hwritten
      have hitems : List.Forall₂ (ItemOf (memberOf fun name bs =>
          (value most depth bs).map fun (v, rest) => ((name, v), rest))) ms (memberTexts es) := by
        refine List.forall₂_map_right_iff.2 (forall₂_imp_of_mem hwrites fun m hm e he hwrite => ?_)
        obtain ⟨hplain, hretained⟩ := h.2 m (hperm.mem_iff.1 hm)
        have hvalue := ih hretained hwrite.2 (length_member he hlength)
        exact ⟨begins_memberText hwrite.1, reads_member hwrite hplain hvalue⟩
      intro rest _
      rw [ofChars_enclosed (by decide) (by decide), writeMembers_eq]
      show (enclosed most _ 0x7D (_ ++ 0x7D :: rest)).map _ = _
      rw [enclosed_of_items (.inr rfl) hitems (Nat.le_trans (count_separated hitems) hlength)]
      show some (mkObj ms, rest) = _
      rw [mkObj, SortedMap.entries_ofList_of_perm hperm h.1]
    | _ => exact reads_scalar h ht most (depth + 1)

end Reader

end SecureUpdate.Json
