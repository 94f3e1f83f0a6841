import SecureUpdate.Proofs.Json.Retention
import SecureUpdate.Proofs.Metadata.Form
import SecureUpdate.Proofs.Metadata.Rewriting

/-!
What is built can be published and read back. The bytes of an envelope around a payload, with any
signatures on it, are read as that envelope: the same payload, the same signatures in the same order
and the same canonical form for them to cover. This takes texts that the strict grammar reads back
as they were written, values that do not nest deeper than it allows, and no custom data that is
null. A control character in a path is written as it is, and such bytes cannot be read.

Main statement: `parse_toBytes`.
-/

namespace SecureUpdate

open Bytes Json Json.Reader

variable {normalize : List Char → List Char} {most : Nat} {t : List Char}

/-! ### Objects with two members -/

namespace Json

/-- Two members are read one after the other, in the order of their written names. -/
theorem enclosed_of_pair {α : Type} {read : String → Reader α} {a b : String} {s u : List Char}
    {x y : α} (hab : String.ofList ('"' :: a.toList.flatMap writeChar ++ ['"']) <
      String.ofList ('"' :: b.toList.flatMap writeChar ++ ['"']))
    (ha : PlainText normalize a) (hb : PlainText normalize b) (hs : Begins s) (hu : Begins u)
    (hx : (ofChars s).length ≤ most → Reads (read a) s x)
    (hy : (ofChars u).length ≤ most → Reads (read b) u y)
    (hmost : (ofChars ('{' :: writeMembers [(String.ofList (writeString normalize a), s),
      (String.ofList (writeString normalize b), u)] ++ ['}'])).length ≤ most) (rest : Bytes) :
    enclosed most (memberOf read) 0x7D
      (ofChars (writeMembers [(String.ofList (writeString normalize a), s),
        (String.ofList (writeString normalize b), u)]) ++ 0x7D :: rest) = some ([x, y], rest) := by
  have hlength := length_enclosed (by decide) (by decide) hmost
  rw [← writeString_of_normal ha.1, ← writeString_of_normal hb.1] at hab
  have hentries := entries_ofList_pair (v := s) (w := u) hab
  rw [writeMembers_eq] at hlength ⊢
  have hx := hx (length_member (by rw [hentries]; exact List.mem_cons_self) hlength)
  have hy := hy (length_member (by rw [hentries]; exact List.mem_cons_of_mem _ List.mem_cons_self)
    hlength)
  rw [memberTexts, hentries] at hlength ⊢
  have hitems : List.Forall₂ (ItemOf (memberOf read)) [x, y]
      [memberText (String.ofList (writeString normalize a), s),
        memberText (String.ofList (writeString normalize b), u)] :=
    .cons ⟨begins_memberText rfl, reads_memberOf rfl ha hs hx⟩
      (.cons ⟨begins_memberText rfl, reads_memberOf rfl hb hu hy⟩ .nil)
  exact enclosed_of_items (.inr rfl) hitems (Nat.le_trans (count_separated hitems) hlength) rest

theorem Retained.plainText {s : String} {depth : Nat} (h : (str s).Retained normalize depth) :
    PlainText normalize s := by
  cases depth <;> exact h

/-- The parts of an object with two members are retained one level down. -/
theorem Retained.pair {a b : String} {v w : Json} {depth : Nat} (hab : a < b)
    (h : (mkObj [(a, v), (b, w)]).Retained normalize depth) :
    PlainText normalize a ∧ PlainText normalize b ∧
      v.Retained normalize (depth - 1) ∧ w.Retained normalize (depth - 1) := by
  rw [mkObj, entries_ofList_pair hab] at h
  cases depth with
  | zero => exact h.elim
  | succ depth =>
    obtain ⟨ha, hv⟩ := h.2 (a, v) List.mem_cons_self
    obtain ⟨hb, hw⟩ := h.2 (b, w) (List.mem_cons_of_mem _ List.mem_cons_self)
    exact ⟨ha, hb, hv, hw⟩

end Json

/-! ### Envelopes -/

namespace Envelope

theorem reads_text {s : String} (h : PlainText normalize s) :
    Reads text (writeString normalize s) s := by
  intro rest _
  rw [ofChars_writeString, List.cons_append]
  exact stringBody_of_plain h rest

/-- A signature is read back. -/
theorem reads_signature {s : Signature} {depth : Nat} (h : s.toJson.Retained normalize depth)
    (ht : write normalize s.toJson = some t) (hmost : (ofChars t).length ≤ most) :
    Reads (signature most) t s := by
  obtain ⟨hname, hname', hkeyId, hsig⟩ := Retained.pair (by decide) h
  rw [Signature.write_toJson] at ht
  cases ht
  intro rest _
  rw [ofChars_enclosed (by decide) (by decide)]
  show (enclosed most _ 0x7D (_ ++ 0x7D :: rest) >>= _) = _
  rw [enclosed_of_pair (x := SignaturePart.keyId s.keyId) (y := .sig s.sig) (by decide) hname hname'
    (begins_of_write (v := .str s.keyId) rfl) (begins_of_write (v := .str s.sig) rfl)
    (fun _ => (reads_text hkeyId.plainText).map _) (fun _ => (reads_text hsig.plainText).map _)
    hmost]
  rfl

/-- A list of signatures is read back in its order. -/
theorem reads_signatures {ss : List Signature} {depth : Nat}
    (h : (arr (ss.map Signature.toJson)).Retained normalize depth)
    (ht : write normalize (.arr (ss.map Signature.toJson)) = some t)
    (hmost : (ofChars t).length ≤ most) : Reads (signatures most) t ss := by
  obtain ⟨ts, hts, rfl⟩ := Option.map_eq_some_iff.1 ht
  have hlength := length_enclosed (by decide) (by decide) hmost
  cases depth with
  | zero => exact h.elim
  | succ depth =>
    have hitems : List.Forall₂ (ItemOf (signature most)) ss ts :=
      forall₂_imp_of_mem (List.forall₂_map_left_iff.1 (forall₂_of_writeItems hts))
        fun s hs t ht hwrite => ⟨begins_of_write hwrite,
          reads_signature (h s.toJson (List.mem_map_of_mem hs)) hwrite
            (Nat.le_trans (length_separated ht) hlength)⟩
    intro rest _
    rw [ofChars_enclosed (by decide) (by decide)]
    exact enclosed_of_items (.inl rfl) hitems (Nat.le_trans (count_separated hitems) hlength) rest

/-- An envelope is read back. -/
theorem whole_envelope {m : Signed Payload} (h : m.toJson.Retained normalize maxDepth)
    (ht : write normalize m.toJson = some t) :
    whole envelope (ofChars t) = some (m.raw, m.signatures) := by
  obtain ⟨hname, hname', hsignatures, hraw⟩ := Retained.pair (by decide) h
  obtain ⟨S, C, hS, hC, htext⟩ := (write_pair (by decide)).1 ht
  have hbegins := begins_of_write ht
  have hread : envelope (ofChars t).length (ofChars t ++ []) =
      some ((m.raw, m.signatures), []) := by
    rw [htext, ofChars_enclosed (by decide) (by decide)]
    show (enclosed _ _ 0x7D (_ ++ 0x7D :: []) >>= _) = _
    rw [enclosed_of_pair (x := Part.signatures m.signatures) (y := .signed m.raw) (by decide) hname
      hname' (begins_of_write hS) (begins_of_write hC)
      (fun hlength => (reads_signatures hsignatures hS hlength).map _)
      (fun hlength => (reads_value hraw hC hlength).map _) (Nat.le_refl _)]
    rfl
  rw [List.append_nil] at hread
  have hblanks := skipBlanks_of_begins hbegins []
  rw [List.append_nil] at hblanks
  rw [whole, hblanks, hread]
  rfl

end Envelope

/-! ### Metadata -/

namespace Signed

open Chain

variable {p : Primitives} {payload : Payload} {built : Signed Payload} {ss : List Signature}
  {bs : Bytes}

/-- An envelope is built around a payload without fault, and has no signatures. -/
theorem eq_of_ofPayload (h : ofPayload p payload = .ok built) : payload.check = .ok () ∧
    ∃ canonical, payload.toJson.canonical p.normalize = some canonical ∧
      built = ⟨payload, [], payload.toJson, canonical⟩ := by
  obtain ⟨_, hcheck, h⟩ := bind_eq_ok_iff.1 h
  refine ⟨hcheck, ?_⟩
  dsimp only at h
  split at h
  · rename_i canonical hcanonical
    exact ⟨canonical, hcanonical, (pure_eq_ok_iff.1 h).symm⟩
  · cases h

/-- The bytes of an envelope are its canonical form. -/
theorem canonical_of_toBytes {α : Type} {m : Signed α} (h : m.toBytes p = .ok bs) :
    m.toJson.canonical p.normalize = some bs := by
  unfold toBytes at h
  split at h
  · rename_i bs' hbs
    cases h
    exact hbs
  · cases h

/-- The envelope with some more signatures. -/
theorem foldl_addSignature {α : Type} (m : Signed α) (ss : List Signature) :
    ss.foldl addSignature m = { m with signatures := m.signatures ++ ss } := by
  induction ss generalizing m with
  | nil => simp
  | cons s ss ih =>
    rw [List.foldl_cons, ih]
    simp [addSignature]

/-- **What is built can be published and read back.** The bytes of an envelope around a payload,
with any signatures on it, are read as metadata with that payload, those signatures in their order
and that canonical form, so every signature gets the verdict that it got before. -/
theorem parse_toBytes (hbuilt : ofPayload p payload = .ok built)
    (hbytes : (ss.foldl addSignature built).toBytes p = .ok bs)
    (hretained : (ss.foldl addSignature built).toJson.Retained p.normalize maxDepth)
    (hcustom : payload.NoNullCustom) :
    ∃ m, Signed.parse p bs = .ok m ∧ m.payload = payload ∧ m.signatures = ss ∧
      m.canonical = built.canonical ∧ ∀ authority ring,
        m.tally p authority ring = (ss.foldl addSignature built).tally p authority ring := by
  obtain ⟨hcheck, canonical, hcanonical, rfl⟩ := eq_of_ofPayload hbuilt
  have hsigned : ss.foldl addSignature ⟨payload, [], payload.toJson, canonical⟩ =
      ⟨payload, ss, payload.toJson, canonical⟩ := foldl_addSignature _ ss
  rw [hsigned] at hbytes hretained ⊢
  obtain ⟨t, ht, rfl⟩ := Option.map_eq_some_iff.1 (canonical_of_toBytes hbytes)
  have hread := Envelope.whole_envelope hretained ht
  rw [← ofText_ofList] at hread
  have hparse : Signed.parse p (ofText (String.ofList t)) =
      .ok ⟨payload, ss, payload.toJson, canonical⟩ :=
    parse_eq_ok_iff.2 ⟨hread, hcanonical, Payload.ofJson?_toJson hcustom, hcheck⟩
  exact ⟨_, hparse, rfl, rfl, rfl, fun _ _ => rfl⟩

/-! ### A target with custom data, and a path with a line break -/

namespace Release

/-- Targets metadata that lists one path, and expires within a leap second. -/
def listing (path : String) (custom : Option Json) : Targets where
  specVersion := "1.0"
  version := 1
  expires := ⟨1483228799, 1500000000, by decide⟩
  targets := .ofList [(path, ⟨3, .ofList [("sha256", "00")], custom⟩)]
  delegations := none

/-- Custom data with texts that have to be escaped. -/
def note : Json :=
  .mkObj [("mode", .int 420), ("note", .arr [.str "say \"café\"", .null])]

def sigs : List Signature := [⟨"2", "b"⟩, ⟨"1", "a\\"⟩]

end Release

open Release in
theorem parse_toBytes_release : ∃ built bs m,
    ofPayload .standard (.targets (listing "bin/a" (some note))) = .ok built ∧
      (sigs.foldl addSignature built).toBytes .standard = .ok bs ∧
        (sigs.foldl addSignature built).toJson.Retained Primitives.standard.normalize maxDepth ∧
          (Payload.targets (listing "bin/a" (some note))).NoNullCustom ∧
            Signed.parse .standard bs = .ok m ∧ m.signatures = sigs := by
  have hwrite : (match ofPayload .standard (.targets (listing "bin/a" (some note))) with
    | .ok built =>
      match (sigs.foldl addSignature built).toBytes .standard with
      | .ok _ => decide ((sigs.foldl addSignature built).toJson.Retained
          Primitives.standard.normalize maxDepth)
      | .error _ => false
    | .error _ => false) = true := by decide +kernel
  have hcustom : (Payload.targets (listing "bin/a" (some note))).NoNullCustom := by
    intro e he
    obtain rfl := List.mem_singleton.1 (SortedMap.mem_of_mem_ofList he)
    nofun
  split at hwrite
  · rename_i built hbuilt
    split at hwrite
    · rename_i bs hbytes
      have hretained := of_decide_eq_true hwrite
      obtain ⟨m, hparse, -, hsigs, -⟩ := parse_toBytes hbuilt hbytes hretained hcustom
      exact ⟨built, bs, m, hbuilt, hbytes, hretained, hcustom, hparse, hsigs⟩
    · cases hwrite
  · cases hwrite

open Release in
/-- A line break in a path is published as it is, and what is published cannot be read. -/
theorem toBytes_unreadable : ∃ built bs,
    ofPayload .standard (.targets (listing "a\nb" none)) = .ok built ∧
      built.toBytes .standard = .ok bs ∧ ∀ m, Signed.parse .standard bs ≠ .ok m := by
  have hwrite : (match ofPayload .standard (.targets (listing "a\nb" none)) with
    | .ok built =>
      match built.toBytes .standard with
      | .ok bs => !(Signed.parse .standard bs).isOk
      | .error _ => false
    | .error _ => false) = true := by decide +kernel
  split at hwrite
  · rename_i built hbuilt
    split at hwrite
    · rename_i bs hbytes
      refine ⟨built, bs, hbuilt, hbytes, fun m hparse => ?_⟩
      rw [hparse] at hwrite
      cases hwrite
    · cases hwrite
  · cases hwrite

end Signed

end SecureUpdate
