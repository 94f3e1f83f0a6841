import Mathlib.Data.List.Nodup
import SecureUpdate.Proofs.Json.Scalars

/-!
What is read back from a canonical form. Each value is read up to its end, whatever follows it in a
list or an object. What comes back of a value has its texts in normal form and its members in order,
and if it has a canonical form at all, that is the one it was read from: members that are merged in
writing, because their names are written alike, stay merged.

Main statements: `rereads_value`, `rereads_skipNested`.
-/

namespace SecureUpdate.Json

open Bytes Reader

variable {α β ι : Type}

namespace Reader

/-- Whether all that a reader makes of a text has a property, and nothing that follows the text is
lost or read. -/
def Rereads (r : Reader α) (t : List Char) (P : α → Prop) : Prop :=
  ∀ rest x bs, Ended rest → r (ofChars t ++ rest) = some (x, bs) → P x ∧ bs = rest

/-- Whether a text begins like a value or a name, and not with a blank or a closing bracket. -/
def Begins (t : List Char) : Prop :=
  ∃ c cs, t = c :: cs ∧ 0x20 < c.toNat ∧ c.toNat < 0x80 ∧ c ≠ ']' ∧ c ≠ '}'

/-- What is made of something that was read back. -/
theorem Rereads.map {r : Reader α} {t : List Char} {P : α → Prop} {Q : β → Prop} {f : α → β}
    (h : Rereads r t P) (hf : ∀ x, P x → Q (f x)) :
    Rereads (fun bs => (r bs).map fun (x, rest) => (f x, rest)) t Q := by
  intro rest y bs hrest hread
  obtain ⟨⟨x, bs'⟩, hx, hy⟩ := Option.map_eq_some_iff.1 hread
  cases hy
  obtain ⟨hP, rfl⟩ := h rest x bs hrest hx
  exact ⟨hf x hP, rfl⟩

/-- A text that is always read as one and the same thing. -/
theorem rereads_of_eq {r : Reader α} {t : List Char} {x : α}
    (h : ∀ rest, r (ofChars t ++ rest) = some (x, rest)) : Rereads r t (· = x) := by
  intro rest y bs _ hread
  cases (h rest).symm.trans hread
  exact ⟨rfl, rfl⟩

theorem Rereads.imp {r : Reader α} {t : List Char} {P Q : α → Prop} (h : Rereads r t P)
    (hPQ : ∀ x, P x → Q x) : Rereads r t Q := by
  intro rest x bs hrest hread
  obtain ⟨hP, rfl⟩ := h rest x bs hrest hread
  exact ⟨hPQ x hP, rfl⟩

theorem skipBlanks_of_begins {t : List Char} (h : Begins t) (rest : Bytes) :
    skipBlanks (ofChars t ++ rest) = ofChars t ++ rest := by
  obtain ⟨c, cs, rfl, hlow, hhigh, -⟩ := h
  have hblank : isBlank (UInt8.ofNat c.toNat) = false := by
    have hne (b : UInt8) (hb : b.toNat ≤ 0x20) : UInt8.ofNat c.toNat ≠ b := by
      rintro rfl
      rw [toNat_ofNat_toNat hhigh] at hb
      exact Nat.not_lt.2 hb hlow
    simp [isBlank, hne]
  rw [ofChars_cons hhigh, List.cons_append, skipBlanks, List.dropWhile_cons, hblank]
  rfl

/-- The byte that a text begins with closes nothing. -/
theorem close_ne_of_begins {t : List Char} (h : Begins t) {close : UInt8}
    (hclose : close = 0x5D ∨ close = 0x7D) : ∃ b bs, ofChars t = b :: bs ∧ b ≠ close := by
  obtain ⟨c, cs, rfl, -, hhigh, hlist, hobject⟩ := h
  refine ⟨_, _, ofChars_cons hhigh cs, ?_⟩
  rcases hclose with rfl | rfl
  · exact fun heq => hlist (eq_of_ofNat_toNat_eq hhigh (by decide) heq)
  · exact fun heq => hobject (eq_of_ofNat_toNat_eq hhigh (by decide) heq)

theorem skipBlanks_close {close : UInt8} (h : close = 0x5D ∨ close = 0x7D) (rest : Bytes) :
    skipBlanks (close :: rest) = close :: rest := by
  rcases h with rfl | rfl <;> rfl

/-! ### Lists -/

section Lists

variable {item : Reader α} {close : UInt8} {Q : ι → α → Prop} {rest bs : Bytes} {xs : List α}

/-- Items are read one at a time: after each stands the closing byte, or a comma and more items. -/
theorem itemsUntil_eq_some {most : Nat} {bs₀ : Bytes}
    (h : itemsUntil item close most bs₀ = some (xs, bs)) :
    ∃ x bs₁ b bs₂, item (skipBlanks bs₀) = some (x, bs₁) ∧ skipBlanks bs₁ = b :: bs₂ ∧
      if b = close then xs = [x] ∧ bs = bs₂
      else ∃ most' ys, itemsUntil item close most' bs₂ = some (ys, bs) ∧ xs = x :: ys := by
  cases most with
  | zero => cases h
  | succ most =>
    obtain ⟨⟨x, bs₁⟩, hx, hxs⟩ := Option.bind_eq_some_iff.1 h
    dsimp only at hxs
    split at hxs
    · cases hxs
    · rename_i b bs₂ hnext
      refine ⟨x, bs₁, b, bs₂, hx, hnext, ?_⟩
      by_cases hb : b = close
      · rw [if_pos (beq_iff_eq.2 hb)] at hxs
        cases hxs
        rw [if_pos hb]
        exact ⟨rfl, rfl⟩
      · rw [if_neg (by simpa using hb)] at hxs
        rw [if_neg hb]
        split at hxs
        · obtain ⟨⟨ys, bs'⟩, hys, hread⟩ := Option.bind_eq_some_iff.1 hxs
          cases hread
          exact ⟨most, ys, hys, rfl⟩
        · cases hxs

/-- Items with commas between them are read back one by one up to the closing byte. -/
theorem forall₂_of_itemsUntil (text : ι → List Char) (hclose : close = 0x5D ∨ close = 0x7D)
    {most : Nat} {a : ι} {as : List ι} (hbegin : ∀ a' ∈ a :: as, Begins (text a'))
    (hitem : ∀ a' ∈ a :: as, Rereads item (text a') (Q a'))
    (h : itemsUntil item close most
      (ofChars (text a) ++ (ofChars (continued (as.map text)) ++ close :: rest)) =
        some (xs, bs)) :
    List.Forall₂ Q (a :: as) xs ∧ bs = rest := by
  induction as generalizing most a xs with
  | nil =>
    obtain ⟨x, bs₁, b, bs₂, hx, hnext, hxs⟩ := itemsUntil_eq_some h
    rw [skipBlanks_of_begins (hbegin a List.mem_cons_self)] at hx
    have hended : Ended (close :: rest) := by
      rintro _ ⟨⟩
      exact .inr hclose
    obtain ⟨hQ, rfl⟩ := hitem a List.mem_cons_self _ x bs₁ hended hx
    cases (skipBlanks_close hclose rest).symm.trans hnext
    rw [if_pos rfl] at hxs
    obtain ⟨rfl, rfl⟩ := hxs
    exact ⟨.cons hQ .nil, rfl⟩
  | cons a' as ih =>
    obtain ⟨x, bs₁, b, bs₂, hx, hnext, hxs⟩ := itemsUntil_eq_some h
    rw [skipBlanks_of_begins (hbegin a List.mem_cons_self), List.map_cons, continued,
      List.cons_append, ofChars_cons (by decide), ofChars_append, List.cons_append] at hx
    have hended (bs : Bytes) : Ended (0x2C :: bs) := by
      rintro _ ⟨⟩
      exact .inl rfl
    obtain ⟨hQ, rfl⟩ := hitem a List.mem_cons_self _ x bs₁ (hended _) hx
    -- the comma is no blank and closes nothing, so more items follow
    cases hnext
    rw [if_neg (by rcases hclose with rfl | rfl <;> decide)] at hxs
    obtain ⟨most', ys, hys, rfl⟩ := hxs
    rw [List.append_assoc] at hys
    obtain ⟨hQs, rfl⟩ := ih (fun b hb => hbegin b (List.mem_cons_of_mem _ hb))
      (fun b hb => hitem b (List.mem_cons_of_mem _ hb)) hys
    exact ⟨.cons hQ hQs, rfl⟩

theorem forall₂_of_enclosed (text : ι → List Char) (hclose : close = 0x5D ∨ close = 0x7D)
    {most : Nat} {as : List ι} (hbegin : ∀ a ∈ as, Begins (text a))
    (hitem : ∀ a ∈ as, Rereads item (text a) (Q a))
    (h : enclosed most item close (ofChars (separated (as.map text)) ++ close :: rest) =
      some (xs, bs)) :
    List.Forall₂ Q as xs ∧ bs = rest := by
  cases as with
  | nil =>
    have hempty : enclosed most item close (close :: rest) = some ([], rest) := by
      rw [enclosed, skipBlanks_close hclose]
      simp
    cases hempty.symm.trans h
    exact ⟨.nil, rfl⟩
  | cons a as =>
    obtain ⟨b, bs', hbytes, hb⟩ := close_ne_of_begins (hbegin a List.mem_cons_self) hclose
    rw [List.map_cons, separated_cons, ofChars_append, List.append_assoc, enclosed,
      skipBlanks_of_begins (hbegin a List.mem_cons_self)] at h
    have hitems : itemsUntil item close most
        (ofChars (text a) ++ (ofChars (continued (as.map text)) ++ close :: rest)) =
          some (xs, bs) := by
      rw [hbytes] at h ⊢
      simpa [hb] using h
    exact forall₂_of_itemsUntil text hclose hbegin hitem hitems

end Lists

/-! ### Members -/

section Members

variable {normalize : List Char → List Char}

theorem begins_memberText {e : String × List Char} {name : String}
    (h : e.1 = String.ofList (writeString normalize name)) : Begins (memberText e) := by
  rw [memberText, h, String.toList_ofList]
  exact ⟨'"', _, rfl, by decide, by decide, by decide, by decide⟩

variable (hnormal : IsNormalForm normalize)
include hnormal

theorem rereads_memberOf {read : String → Reader α} {e : String × List Char} {name : String}
    {P : α → Prop} (hname : e.1 = String.ofList (writeString normalize name))
    (hbegin : Begins e.2) (h : Rereads (read (settled normalize name)) e.2 P) :
    Rereads (memberOf read) (memberText e) P := by
  intro rest x bs hrest hread
  rw [memberText, hname, String.toList_ofList, ofChars_append, ofChars_writeString,
    List.cons_append, List.cons_append, List.append_assoc, ofChars_cons (by decide)] at hread
  obtain ⟨⟨name', bs'⟩, hstring, hvalue⟩ := Option.bind_eq_some_iff.1 hread
  obtain ⟨rfl, rfl⟩ := stringBody_writeString hnormal hstring
  have hvalue : read (settled normalize name) (skipBlanks (ofChars e.2 ++ rest)) =
      some (x, bs) := hvalue
  rw [skipBlanks_of_begins hbegin] at hvalue
  exact h rest x bs hrest hvalue

theorem rereads_skipMember {skipValue : Reader Unit} {e : String × List Char} {name : String}
    (hname : e.1 = String.ofList (writeString normalize name)) (hbegin : Begins e.2)
    (h : Rereads skipValue e.2 fun _ => True) :
    Rereads (skipMember skipValue) (memberText e) fun _ => True := by
  intro rest x bs hrest hread
  rw [memberText, hname, String.toList_ofList, ofChars_append, ofChars_writeString,
    List.cons_append, List.cons_append, List.append_assoc, ofChars_cons (by decide)] at hread
  obtain ⟨bs', hstring, hvalue⟩ := Option.bind_eq_some_iff.1 hread
  obtain rfl := skipString_writeString hnormal hstring
  have hvalue : skipValue (skipBlanks (ofChars e.2 ++ rest)) = some (x, bs) := hvalue
  rw [skipBlanks_of_begins hbegin] at hvalue
  exact h rest x bs hrest hvalue

end Members

/-! ### Scalars -/

theorem value_eq_scalar {b : UInt8} (hlist : b ≠ 0x5B) (hobject : b ≠ 0x7B) (most depth : Nat)
    (bs : Bytes) : value most depth (b :: bs) = scalar (b :: bs) := by
  cases depth with
  | zero => rfl
  | succ depth => simp [value, hlist, hobject]

/-- A sign or a digit begins nothing but a number. -/
theorem ne_of_number {b : UInt8} (h : b = 0x2D ∨ isDigit b = true) :
    b ≠ 0x22 ∧ b ≠ 0x6E ∧ b ≠ 0x74 ∧ b ≠ 0x66 ∧ b ≠ 0x5B ∧ b ≠ 0x7B := by
  refine ⟨?_, ?_, ?_, ?_, ?_, ?_⟩ <;> rintro rfl <;> revert h <;> decide

theorem value_eq_number {b : UInt8} (h : b = 0x2D ∨ isDigit b = true) (most depth : Nat)
    (bs : Bytes) : value most depth (b :: bs) = number (b :: bs) := by
  obtain ⟨hquote, hnull, htrue, hfalse, hlist, hobject⟩ := ne_of_number h
  rw [value_eq_scalar hlist hobject]
  simp [scalar, hquote, hnull, htrue, hfalse]

theorem skipNested_eq_numeral {b : UInt8} (h : b = 0x2D ∨ isDigit b = true) (most depth : Nat)
    (bs : Bytes) : skipNested most (depth + 1) (b :: bs) =
      (numeral (b :: bs)).map fun (_, rest) => ((), rest) := by
  simp [skipNested, ne_of_number h]

end Reader

/-! ### Values -/

variable {normalize : List Char → List Char} {v : Json}

/-- What comes back of a value that was written: its texts are in normal form, its members in order,
and it has no other canonical form than the text it was read from. -/
structure ReadBack (normalize : List Char → List Char) (t : List Char) (v : Json) : Prop where
  normal : v.Normal normalize
  sorted : v.Sorted
  same : ∀ t', write normalize v = some t' → t' = t

/-- A value that comes back as it is. -/
theorem readBack_self {t : List Char} (hnormal : v.Normal normalize) (hsorted : v.Sorted)
    (h : write normalize v = some t) : ReadBack normalize t v :=
  ⟨hnormal, hsorted, fun _ ht' => Option.some.inj (ht'.symm.trans h)⟩

theorem begins_of_write {t : List Char} (h : write normalize v = some t) : Begins t := by
  obtain ⟨c, cs, rfl, hc⟩ := write_begins h
  refine ⟨c, cs, rfl, ?_⟩
  unfold markOf at hc
  split at hc
  · rename_i hnumber
    rcases hnumber with rfl | hdigit
    · decide
    · have hrange : 48 ≤ c.toNat ∧ c.toNat ≤ 57 := Char.isDigit_iff_toNat.1 hdigit
      refine ⟨by omega, by omega, ?_, ?_⟩ <;> rintro rfl <;> cases hdigit
  · split at hc
    · rename_i hbool
      rcases hbool with rfl | rfl <;> decide
    · have hmark : v.mark ∈ ['n', 'b', '0', '.', '"', '[', '{'] := by cases v <;> simp [mark]
      have hplain : ∀ c ∈ ['n', 'b', '0', '.', '"', '[', '{'],
          0x20 < c.toNat ∧ c.toNat < 0x80 ∧ c ≠ ']' ∧ c ≠ '}' := by simp
      exact hplain c (hc ▸ hmark)

/-- A list is written if its items are. -/
theorem writeItems_of_forall₂ {items : List Json} {ts : List (List Char)}
    (h : List.Forall₂ (fun v t => write normalize v = some t) items ts) :
    writeItems normalize items = some ts := by
  induction h with
  | nil => rfl
  | cons hv _ ih => simp [writeItems, hv, ih]

/-- The first byte tells strings, lists and objects. -/
theorem opening_of_write {t : List Char} (h : write normalize v = some t) :
    ∃ b bs, ofChars t = b :: bs ∧ (b = 0x22 → ∃ s, v = .str s) ∧
      (b = 0x5B → ∃ items, v = .arr items) ∧ (b = 0x7B → ∃ members, v = .obj members) := by
  obtain ⟨c, cs, rfl, hc⟩ := write_begins h
  have hascii : c.toNat < 0x80 := by
    obtain ⟨c', cs', heq, -, hascii, -⟩ := begins_of_write h
    rwa [(List.cons.inj heq).1]
  refine ⟨_, _, ofChars_cons hascii _, fun hb => ?_, fun hb => ?_, fun hb => ?_⟩
  · obtain rfl : c = '"' := eq_of_ofNat_toNat_eq hascii (by decide) hb
    have hmark : '"' = v.mark := hc
    cases v <;> simp [mark] at hmark ⊢
  · obtain rfl : c = '[' := eq_of_ofNat_toNat_eq hascii (by decide) hb
    have hmark : '[' = v.mark := hc
    cases v <;> simp [mark] at hmark ⊢
  · obtain rfl : c = '{' := eq_of_ofNat_toNat_eq hascii (by decide) hb
    have hmark : '{' = v.mark := hc
    cases v <;> simp [mark] at hmark ⊢

theorem Normal.arr {items : List Json} (h : ∀ v ∈ items, v.Normal normalize) :
    Normal normalize (.arr items) := by
  intro s hs
  rw [strings, mem_itemStrings_iff] at hs
  obtain ⟨v, hv, hs⟩ := hs
  exact h v hv s hs

theorem Normal.obj {members : List (String × Json)}
    (h : ∀ m ∈ members, NormalText normalize m.1 ∧ m.2.Normal normalize) :
    Normal normalize (.obj members) := by
  intro s hs
  rw [strings, mem_memberStrings_iff] at hs
  obtain ⟨m, hm, rfl | hs⟩ := hs
  · exact (h m hm).1
  · exact (h m hm).2 s hs

theorem texts_eq_of_readBack {ts ts' : List (List Char)} {items : List Json}
    (h : List.Forall₂ (ReadBack normalize) ts items)
    (h' : List.Forall₂ (fun v t => write normalize v = some t) items ts') : ts' = ts := by
  induction h generalizing ts' with
  | nil =>
    cases h'
    rfl
  | cons hback _ ih =>
    cases h' with
    | cons ht' hts' => rw [hback.same _ ht', ih hts']

theorem readBack_arr {ts : List (List Char)} {items : List Json}
    (h : List.Forall₂ (ReadBack normalize) ts items) :
    ReadBack normalize ('[' :: separated ts ++ [']']) (.arr items) := by
  have hitem {v : Json} (hv : v ∈ items) : ∃ t ∈ ts, ReadBack normalize t v :=
    exists_of_forall₂ h hv
  refine ⟨.arr fun v hv => ?_, .arr fun v hv => ?_, fun t' ht' => ?_⟩
  · obtain ⟨t, -, hback⟩ := hitem hv
    exact hback.normal
  · obtain ⟨t, -, hback⟩ := hitem hv
    exact hback.sorted
  · obtain ⟨ts', hts', rfl⟩ := Option.map_eq_some_iff.1 ht'
    have hts' := forall₂_of_writeItems hts'
    rw [texts_eq_of_readBack h hts']

/-- The members that are read back of an object are in the order of their written names. -/
def MemberBack (normalize : List Char → List Char) (e : String × List Char) (m : String × Json) :
    Prop :=
  e.1 = String.ofList (writeString normalize m.1) ∧ NormalText normalize m.1 ∧
    ReadBack normalize e.2 m.2

theorem map_fst_of_memberBack {es : List (String × List Char)} {members : List (String × Json)}
    (h : List.Forall₂ (MemberBack normalize) es members) : es.map (·.1) =
      (members.map (·.1)).map fun name => String.ofList (writeString normalize name) := by
  induction h with
  | nil => rfl
  | cons hback _ ih => rw [List.map_cons, List.map_cons, List.map_cons, hback.1, ih]

/-- What is written of the members that were read back, and put in order, is what they were read
from. -/
theorem entries_eq_of_memberBack {es es' : List (String × List Char)}
    {members : List (String × Json)}
    (h : List.Forall₂ (MemberBack normalize) (SortedMap.ofList es).entries members)
    (h' : List.Forall₂ (Writes normalize) (SortedMap.ofList members).entries es') :
    (SortedMap.ofList es').entries = (SortedMap.ofList es).entries := by
  have hback {m : String × Json} (hm : m ∈ (SortedMap.ofList members).entries) :
      ∃ e ∈ (SortedMap.ofList es).entries, MemberBack normalize e m :=
    exists_of_forall₂ h (SortedMap.mem_of_mem_ofList hm)
  have hsame {e e' : String × List Char} {m : String × Json} (hback : MemberBack normalize e m)
      (hwrites : Writes normalize m e') : e' = e :=
    Prod.ext (hwrites.1.trans hback.1.symm) (hback.2.2.same _ hwrites.2)
  -- written names differ, so the names that were read differ, and no member is lost
  have hdistinct : (members.map (·.1)).Nodup := by
    have hkeys := SortedMap.nodup_keys_of_sorted (SortedMap.ofList es).sorted
    rw [map_fst_of_memberBack h] at hkeys
    exact hkeys.of_map
  have hwritten : Written normalize (SortedMap.ofList members).entries es' := by
    refine ⟨(SortedMap.ofList members).sorted, fun m hm => ?_, fun m hm => ?_, h'⟩
    · obtain ⟨e, -, -, hname, hvalue⟩ := hback hm
      exact ⟨hname, hvalue.normal⟩
    · obtain ⟨e, -, -, -, hvalue⟩ := hback hm
      exact hvalue.sorted
  refine SortedMap.entries_eq_of_mem_iff (SortedMap.ofList es').sorted (SortedMap.ofList es).sorted
    fun e => ?_
  rw [SortedMap.mem_ofList_iff hwritten.nodup]
  constructor
  · intro he
    obtain ⟨m, hm, hwrites⟩ := exists_of_forall₂ h' he
    obtain ⟨e₀, he₀, hmember⟩ := hback hm
    rwa [hsame hmember hwrites]
  · intro he
    obtain ⟨m, hm, hmember⟩ := exists_of_forall₂ h.flip he
    obtain ⟨e', he', hwrites⟩ := exists_of_forall₂ h'.flip
      ((SortedMap.mem_ofList_iff hdistinct).2 hm)
    rwa [← hsame hmember hwrites]

theorem readBack_obj {es : List (String × List Char)} {members : List (String × Json)}
    (h : List.Forall₂ (MemberBack normalize) (SortedMap.ofList es).entries members) :
    ReadBack normalize ('{' :: writeMembers es ++ ['}']) (mkObj members) := by
  have hmember {m : String × Json} (hm : m ∈ (SortedMap.ofList members).entries) :
      ∃ e ∈ (SortedMap.ofList es).entries, MemberBack normalize e m :=
    exists_of_forall₂ h (SortedMap.mem_of_mem_ofList hm)
  refine ⟨.obj fun m hm => ?_, sorted_mkObj fun m hm => ?_, fun t' ht' => ?_⟩
  · obtain ⟨e, -, -, hname, hback⟩ := hmember hm
    exact ⟨hname, hback.normal⟩
  · obtain ⟨e, -, -, -, hback⟩ := exists_of_forall₂ h hm
    exact hback.sorted
  · obtain ⟨es', hes', rfl⟩ := Option.map_eq_some_iff.1 ht'
    rw [writeMembers_eq, writeMembers_eq, memberTexts, memberTexts,
      entries_eq_of_memberBack h (forall₂_of_writeEach hes')]

/-! ### Reading back -/

/-- A text between brackets, and what follows it. -/
theorem ofChars_enclosed {c d : Char} (hc : c.toNat < 0x80) (hd : d.toNat < 0x80) (t : List Char)
    (rest : Bytes) : ofChars (c :: t ++ [d]) ++ rest =
      UInt8.ofNat c.toNat :: (ofChars t ++ UInt8.ofNat d.toNat :: rest) := by
  rw [List.cons_append, ofChars_cons hc, ofChars_append, ofChars_cons hd, ofChars_nil,
    List.cons_append, List.append_assoc]
  rfl

theorem scalar_bracket {b : UInt8} (h : b = 0x5B ∨ b = 0x7B) (bs : Bytes) :
    scalar (b :: bs) = none := by
  rcases h with rfl | rfl <;> rfl

/-- The values of a list are read back one by one. -/
theorem forall₂_of_items {r : Reader α} {Q : List Char → α → Prop} {most : Nat}
    {items : List Json} {ts : List (List Char)} {rest bs : Bytes} {xs : List α}
    (hts : List.Forall₂ (fun v t => write normalize v = some t) items ts)
    (hitem : ∀ v ∈ items, ∀ t, write normalize v = some t → Rereads r t (Q t))
    (h : enclosed most r 0x5D (ofChars (separated ts) ++ 0x5D :: rest) = some (xs, bs)) :
    List.Forall₂ Q ts xs ∧ bs = rest := by
  rw [← List.map_id ts] at h
  refine forall₂_of_enclosed id (.inl rfl) (fun t ht => ?_) (fun t ht => ?_) h
  · obtain ⟨v, -, hv⟩ := exists_of_forall₂ hts ht
    exact begins_of_write hv
  · obtain ⟨v, hmem, hv⟩ := exists_of_forall₂ hts ht
    exact hitem v hmem t hv

/-- The members of an object are read back one by one, in the order of their written names. -/
theorem forall₂_of_members {r : Reader α} {Q : String × List Char → α → Prop} {most : Nat}
    {members : List (String × Json)} {es : List (String × List Char)} {rest bs : Bytes}
    {xs : List α} (hes : List.Forall₂ (Writes normalize) members es)
    (hitem : ∀ m ∈ members, ∀ e, Writes normalize m e → Rereads r (memberText e) (Q e))
    (h : enclosed most r 0x7D (ofChars (writeMembers es) ++ 0x7D :: rest) = some (xs, bs)) :
    List.Forall₂ Q (SortedMap.ofList es).entries xs ∧ bs = rest := by
  have hwrites : ∀ e ∈ (SortedMap.ofList es).entries, ∃ m ∈ members, Writes normalize m e :=
    fun e he => exists_of_forall₂ hes (SortedMap.mem_of_mem_ofList he)
  refine forall₂_of_enclosed memberText (.inr rfl) (fun e he => ?_) (fun e he => ?_) h
  · obtain ⟨m, -, hname, -⟩ := hwrites e he
    exact begins_memberText hname
  · obtain ⟨m, hm, hwrite⟩ := hwrites e he
    exact hitem m hm e hwrite

section Rereading

variable (hnormal : IsNormalForm normalize)
include hnormal

theorem rereads_str (s : String) (most depth : Nat) :
    Rereads (value most depth) (writeString normalize s)
      (ReadBack normalize (writeString normalize s)) := by
  intro rest x bs hrest hread
  rw [ofChars_writeString, List.cons_append,
    value_eq_scalar (by decide) (by decide)] at hread
  obtain ⟨⟨s', bs'⟩, hs, hx⟩ := Option.map_eq_some_iff.1 hread
  cases hx
  obtain ⟨rfl, rfl⟩ := stringBody_writeString hnormal hs
  refine ⟨⟨?_, .str _, fun t' ht' => ?_⟩, rfl⟩
  · intro s' hs'
    rw [List.mem_singleton.1 hs']
    exact normalText_settled hnormal s
  · cases ht'
    exact writeString_settled hnormal s

omit hnormal in
theorem rereads_int (i : Int) (most depth : Nat) :
    Rereads (value most depth) (writeInt i) (ReadBack normalize (writeInt i)) := by
  intro rest x bs hrest hread
  obtain ⟨b, bs', hbytes, hb⟩ := writeInt_begins i
  have hnumber : value most depth (ofChars (writeInt i) ++ rest) =
      number (ofChars (writeInt i) ++ rest) := by
    rw [hbytes, List.cons_append, value_eq_number hb]
  rw [hnumber] at hread
  obtain ⟨rfl | ⟨y, rfl⟩, rfl⟩ := number_writeInt hrest hread
  · exact ⟨readBack_self nofun (.int i) rfl, rfl⟩
  · refine ⟨⟨nofun, .real y, fun t' ht' => ?_⟩, rfl⟩
    cases ht'

theorem rereads_member {r : Reader Json} {m : String × Json} {e : String × List Char}
    (hwrites : Writes normalize m e) (h : Rereads r e.2 (ReadBack normalize e.2)) :
    Rereads (memberOf fun name bs => (r bs).map fun (v, rest) => ((name, v), rest)) (memberText e)
      (MemberBack normalize e) := by
  refine rereads_memberOf hnormal hwrites.1 (begins_of_write hwrites.2) ?_
  refine h.map (f := fun v => (settled normalize m.1, v)) fun v hv => ?_
  exact ⟨by rw [writeString_settled hnormal, hwrites.1], normalText_settled hnormal m.1, hv⟩

/-- Every value that was written is read back, and nothing of what follows it. -/
theorem rereads_value (v : Json) (most depth : Nat) {t : List Char}
    (h : write normalize v = some t) :
    Rereads (value most depth) t (ReadBack normalize t) := by
  induction v using of_parts generalizing depth t with
  | null =>
    cases h
    refine (rereads_of_eq fun rest => value_eq_scalar (by decide) (by decide) ..).imp ?_
    rintro _ rfl
    exact readBack_self nofun .null rfl
  | bool b =>
    cases b <;> cases h
    · refine (rereads_of_eq fun rest => value_eq_scalar (by decide) (by decide) ..).imp ?_
      rintro _ rfl
      exact readBack_self nofun (.bool false) rfl
    · refine (rereads_of_eq fun rest => value_eq_scalar (by decide) (by decide) ..).imp ?_
      rintro _ rfl
      exact readBack_self nofun (.bool true) rfl
  | int i =>
    cases h
    exact rereads_int i most depth
  | real x => cases h
  | str s =>
    cases h
    exact rereads_str hnormal s most depth
  | arr items ih =>
    obtain ⟨ts, hts, rfl⟩ := Option.map_eq_some_iff.1 h
    intro rest x bs hrest hread
    rw [ofChars_enclosed (by decide) (by decide)] at hread
    cases depth with
    | zero => cases (scalar_bracket (.inl rfl) _).symm.trans hread
    | succ depth =>
      obtain ⟨⟨xs, bs'⟩, hxs, hx⟩ := Option.map_eq_some_iff.1 hread
      cases hx
      obtain ⟨hback, rfl⟩ :=
        forall₂_of_items (forall₂_of_writeItems hts) (fun v hv t => ih v hv depth) hxs
      exact ⟨readBack_arr hback, rfl⟩
  | obj members ih =>
    obtain ⟨es, hes, rfl⟩ := Option.map_eq_some_iff.1 h
    intro rest x bs hrest hread
    rw [ofChars_enclosed (by decide) (by decide)] at hread
    cases depth with
    | zero => cases (scalar_bracket (.inr rfl) _).symm.trans hread
    | succ depth =>
      obtain ⟨⟨ms, bs'⟩, hms, hx⟩ := Option.map_eq_some_iff.1 hread
      cases hx
      obtain ⟨hback, rfl⟩ := forall₂_of_members (forall₂_of_writeEach hes) (fun m hm e hwrites =>
        rereads_member hnormal hwrites (ih m hm depth hwrites.2)) hms
      exact ⟨readBack_obj hback, rfl⟩

omit hnormal in
theorem rereads_skip_int (i : Int) (most depth : Nat) :
    Rereads (skipNested most (depth + 1)) (writeInt i) fun _ => True := by
  intro rest x bs hrest hread
  obtain ⟨b, bs', hbytes, hb⟩ := writeInt_begins i
  have hnumeral : skipNested most (depth + 1) (ofChars (writeInt i) ++ rest) =
      (numeral (ofChars (writeInt i) ++ rest)).map fun (_, rest) => ((), rest) := by
    rw [hbytes, List.cons_append, skipNested_eq_numeral hb]
  rw [hnumeral] at hread
  obtain ⟨n, hn, -⟩ := numeral_writeInt i hrest
  rw [hn] at hread
  cases hread
  exact ⟨trivial, rfl⟩

theorem rereads_skip_str (s : String) (most depth : Nat) :
    Rereads (skipNested most (depth + 1)) (writeString normalize s) fun _ => True := by
  intro rest x bs hrest hread
  rw [ofChars_writeString, List.cons_append] at hread
  obtain ⟨bs', hs, hx⟩ := Option.map_eq_some_iff.1 hread
  cases hx
  exact ⟨trivial, skipString_writeString hnormal hs⟩

/-- A value that was written is skipped up to its end. -/
theorem rereads_skipNested (v : Json) (most depth : Nat) {t : List Char}
    (h : write normalize v = some t) : Rereads (skipNested most depth) t fun _ => True := by
  -- what is inside a list or an object is skipped one level down
  induction depth generalizing v t with
  | zero =>
    intro rest x bs hrest hread
    cases hread
  | succ depth ih =>
    cases v with
    | null =>
      cases h
      exact (rereads_of_eq fun rest => rfl).imp fun _ _ => trivial
    | bool b =>
      cases b <;> cases h <;> exact (rereads_of_eq fun rest => rfl).imp fun _ _ => trivial
    | int i =>
      cases h
      exact rereads_skip_int i most depth
    | real x => cases h
    | str s =>
      cases h
      exact rereads_skip_str hnormal s most depth
    | arr items =>
      obtain ⟨ts, hts, rfl⟩ := Option.map_eq_some_iff.1 h
      intro rest x bs hrest hread
      rw [ofChars_enclosed (by decide) (by decide)] at hread
      obtain ⟨⟨xs, bs'⟩, hxs, hx⟩ := Option.map_eq_some_iff.1 hread
      cases hx
      exact ⟨trivial, (forall₂_of_items (forall₂_of_writeItems hts) (fun v _ t => ih v) hxs).2⟩
    | obj members =>
      obtain ⟨es, hes, rfl⟩ := Option.map_eq_some_iff.1 h
      intro rest x bs hrest hread
      rw [ofChars_enclosed (by decide) (by decide)] at hread
      obtain ⟨⟨xs, bs'⟩, hxs, hx⟩ := Option.map_eq_some_iff.1 hread
      cases hx
      have hmember : ∀ m ∈ members, ∀ e, Writes normalize m e →
          Rereads (skipMember (skipNested most depth)) (memberText e) fun _ => True := by
        rintro m - e ⟨hname, hvalue⟩
        exact rereads_skipMember hnormal hname (begins_of_write hvalue) (ih m.2 hvalue)
      exact ⟨trivial, (forall₂_of_members (forall₂_of_writeEach hes) hmember hxs).2⟩

end Rereading

end SecureUpdate.Json
