import SecureUpdate.Proofs.Json.Rereading
import SecureUpdate.Proofs.Metadata.Coverage

/-!
Writing undoes reading. An envelope in canonical form that is read as metadata is written again byte
for byte: the value under `signed` comes back with the canonical form it had, members that nobody
knows included, and so does each signature. What the normal form makes of texts may be anything that
is its own normal form; where it changed the name of a part, that part would be missing, and the
envelope would not be read.

Main statement: `toBytes_of_canonical`.
-/

namespace SecureUpdate

open Bytes Json Json.Reader

variable {normalize : List Char → List Char}

/-! ### Objects with two members -/

namespace Json

theorem entries_ofList_pair {α : Type} {a b : String} {v w : α} (h : a < b) :
    (SortedMap.ofList [(a, v), (b, w)]).entries = [(a, v), (b, w)] := by
  have hnot : ¬ b < a := fun hlt => String.lt_irrefl a (String.lt_trans h hlt)
  show SortedMap.insertEntry b w [(a, v)] = _
  simp [SortedMap.insertEntry, h, hnot]

theorem write_pair {a b : String} {v w : Json} {t : List Char} (h : a < b) :
    write normalize (mkObj [(a, v), (b, w)]) = some t ↔
      ∃ s u, write normalize v = some s ∧ write normalize w = some u ∧
        t = '{' :: writeMembers [(String.ofList (writeString normalize a), s),
          (String.ofList (writeString normalize b), u)] ++ ['}'] := by
  rw [mkObj, entries_ofList_pair h]
  constructor
  · intro ht
    obtain ⟨es, hes, rfl⟩ := Option.map_eq_some_iff.1 ht
    obtain ⟨s, hs, hrest⟩ := Option.bind_eq_some_iff.1 hes
    obtain ⟨es', hes', heq⟩ := Option.bind_eq_some_iff.1 hrest
    obtain ⟨u, hu, hnil⟩ := Option.bind_eq_some_iff.1 hes'
    cases hnil
    cases heq
    exact ⟨s, u, hs, hu, rfl⟩
  · rintro ⟨s, u, hs, hu, rfl⟩
    simp [write, writeEach, hs, hu]

/-- Where two names are read back from two members, each is read back from its own. -/
theorem pair_of_settled (hnormal : IsNormalForm normalize) {a b : String} {v w : Json}
    {m m' : String × Json} (hab : a ≠ b) (hm : m ∈ [(a, v), (b, w)]) (hm' : m' ∈ [(a, v), (b, w)])
    (h : settled normalize m.1 = a) (h' : settled normalize m'.1 = b) :
    m = (a, v) ∧ m' = (b, w) := by
  have hsettled := settled_settled hnormal a
  have hsettled' := settled_settled hnormal b
  simp only [List.mem_cons, List.not_mem_nil, or_false] at hm hm'
  -- a name that is read back as another one is not read back from that one
  rcases hm with rfl | rfl <;> rcases hm' with rfl | rfl <;> simp_all

/-- The members of an object of which two names are known, the others being skipped, are read back
one by one. -/
theorem forall₂_of_known (hnormal : IsNormalForm normalize) {α β γ : Type} {a b : String}
    {r : Reader β} {r' : Reader γ} {f : β → α} {g : γ → α} {other : α}
    {P : String × List Char → α → Prop} {members : List (String × Json)}
    {es : List (String × List Char)} {most : Nat} {parts : List α} {rest bs : Bytes}
    (hes : List.Forall₂ (Writes normalize) members es)
    (h : enclosed most (memberOf fun name bs =>
      if name = a then (r bs).map fun (x, bs) => (f x, bs)
      else if name = b then (r' bs).map fun (x, bs) => (g x, bs)
      else (skip most bs).map fun (_, bs) => (other, bs)) 0x7D
        (ofChars (writeMembers es) ++ 0x7D :: rest) = some (parts, bs))
    (hfirst : ∀ m ∈ members, ∀ e, Writes normalize m e → settled normalize m.1 = a →
      Rereads r e.2 fun x => P e (f x))
    (hsecond : ∀ m ∈ members, ∀ e, Writes normalize m e → settled normalize m.1 = b →
      Rereads r' e.2 fun x => P e (g x))
    (hother : ∀ e, P e other) :
    List.Forall₂ P (SortedMap.ofList es).entries parts ∧ bs = rest := by
  refine forall₂_of_members hes (fun m hm e hwrites => ?_) h
  refine rereads_memberOf hnormal hwrites.1 (begins_of_write hwrites.2) ?_
  intro rest x bs hrest hread
  split at hread
  · rename_i hname
    exact (hfirst m hm e hwrites hname).map (fun _ h => h) rest x bs hrest hread
  · split at hread
    · rename_i hname
      exact (hsecond m hm e hwrites hname).map (fun _ h => h) rest x bs hrest hread
    · exact (rereads_skipNested hnormal m.2 most most hwrites.2).map
        (fun _ _ => hother e) rest x bs hrest hread

end Json

/-! ### Signatures -/

theorem Signature.write_toJson (s : Signature) : write normalize s.toJson =
    some ('{' :: writeMembers [(String.ofList (writeString normalize "keyid"),
      writeString normalize s.keyId), (String.ofList (writeString normalize "sig"),
        writeString normalize s.sig)] ++ ['}']) :=
  (write_pair (by decide)).2 ⟨_, _, rfl, rfl, rfl⟩

namespace Envelope

/-- Whether a written member is one whose name is read back as `name`. -/
def Named (normalize : List Char → List Char) (members : List (String × Json)) (name : String)
    (e : String × List Char) : Prop :=
  ∃ m ∈ members, Writes normalize m e ∧ settled normalize m.1 = name

/-- Whether a part of a signature was read from a written member. -/
def SignaturePart.From (normalize : List Char → List Char) (members : List (String × Json))
    (e : String × List Char) : SignaturePart → Prop
  | .keyId s => Named normalize members "keyid" e ∧ writeString normalize s = e.2
  | .sig s => Named normalize members "sig" e ∧ writeString normalize s = e.2
  | .other => True

/-- The one part of a kind is one of the parts. -/
theorem mem_of_pick {α β : Type} {parts : List α} {pick : α → Option β} {f : β → α} {x : β}
    (h : single? (parts.filterMap pick) = some x) (hf : ∀ part, pick part = some x → part = f x) :
    f x ∈ parts := by
  obtain ⟨part, hpart, hpick⟩ := List.mem_filterMap.1 (mem_of_single? h)
  rwa [← hf part hpick]

section Signatures

variable (hnormal : IsNormalForm normalize) {v : Json} {t : List Char}
include hnormal

theorem rereads_text (h : write normalize v = some t) :
    Rereads text t fun s => writeString normalize s = t := by
  intro rest s bs hrest hread
  obtain ⟨b, bs', hbytes, hquote, -⟩ := opening_of_write h
  rw [hbytes, List.cons_append] at hread
  unfold text at hread
  split at hread
  · rename_i heq
    cases heq
    obtain ⟨s₀, rfl⟩ := hquote rfl
    cases h
    cases (ofChars_writeString s₀).symm.trans hbytes
    obtain ⟨rfl, rfl⟩ := stringBody_writeString hnormal hread
    exact ⟨writeString_settled hnormal s₀, rfl⟩
  · cases hread

/-- An object that is read as a signature has a part each for the key id and the bytes. -/
theorem exists_parts_of_signature {most : Nat} {members : List (String × Json)}
    {es : List (String × List Char)} {s : Signature} {rest bs : Bytes}
    (hes : List.Forall₂ (Writes normalize) members es)
    (h : signature most (0x7B :: (ofChars (writeMembers es) ++ 0x7D :: rest)) = some (s, bs)) :
    (∃ parts,
      List.Forall₂ (SignaturePart.From normalize members) (SortedMap.ofList es).entries parts ∧
        .keyId s.keyId ∈ parts ∧ .sig s.sig ∈ parts) ∧ bs = rest := by
  obtain ⟨⟨parts, bs'⟩, hparts, hread⟩ := Option.bind_eq_some_iff.1 h
  obtain ⟨keyId, hkeyId, hread⟩ := Option.bind_eq_some_iff.1 hread
  obtain ⟨sig, hsig, hread⟩ := Option.bind_eq_some_iff.1 hread
  cases hread
  obtain ⟨hfrom, rfl⟩ := forall₂_of_known (P := SignaturePart.From normalize members) hnormal hes
    hparts
    (fun m hm e hwrites hname => (rereads_text hnormal hwrites.2).imp fun s hs =>
      ⟨⟨m, hm, hwrites, hname⟩, hs⟩)
    (fun m hm e hwrites hname => (rereads_text hnormal hwrites.2).imp fun s hs =>
      ⟨⟨m, hm, hwrites, hname⟩, hs⟩) (fun _ => trivial)
  refine ⟨⟨parts, hfrom, ?_, ?_⟩, rfl⟩
  · exact mem_of_pick hkeyId fun part hpick => by cases part <;> cases hpick; rfl
  · exact mem_of_pick hsig fun part hpick => by cases part <;> cases hpick; rfl

/-- The parts of a signature, if they are read back from the two members of one, are written like
those. -/
theorem write_of_from {s₀ s : Signature} {es : List (String × List Char)}
    {parts : List SignaturePart}
    (hparts : List.Forall₂
      (SignaturePart.From normalize [("keyid", .str s₀.keyId), ("sig", .str s₀.sig)]) es parts)
    (hkeyId : .keyId s.keyId ∈ parts) (hsig : .sig s.sig ∈ parts) :
    write normalize s.toJson = write normalize s₀.toJson := by
  obtain ⟨e, -, ⟨m, hm, hwrites, hname⟩, htext⟩ := exists_of_forall₂ hparts hkeyId
  obtain ⟨e', -, ⟨m', hm', hwrites', hname'⟩, htext'⟩ := exists_of_forall₂ hparts hsig
  obtain ⟨rfl, rfl⟩ := pair_of_settled hnormal (by decide) hm hm' hname hname'
  rw [Signature.write_toJson, Signature.write_toJson,
    htext.trans (Option.some.inj hwrites.2).symm, htext'.trans (Option.some.inj hwrites'.2).symm]

/-- A signature that was written is read back as one that is written alike. -/
theorem rereads_signature (most : Nat) (h : write normalize v = some t) :
    Rereads (signature most) t fun s =>
      ∀ s₀ : Signature, v = s₀.toJson → write normalize s.toJson = some t := by
  intro rest s bs hrest hread
  cases v with
  | obj members =>
    obtain ⟨es, hes, rfl⟩ := Option.map_eq_some_iff.1 h
    rw [ofChars_enclosed (by decide) (by decide)] at hread
    obtain ⟨⟨parts, hparts, hkeyId, hsig⟩, rfl⟩ :=
      exists_parts_of_signature hnormal (forall₂_of_writeEach hes) hread
    refine ⟨fun s₀ hs₀ => ?_, rfl⟩
    rw [hs₀] at h
    rw [Signature.toJson, mkObj, entries_ofList_pair (by decide)] at hs₀
    cases hs₀
    rw [← h]
    exact write_of_from hnormal hparts hkeyId hsig
  | arr items =>
    obtain ⟨ts, hts, rfl⟩ := Option.map_eq_some_iff.1 h
    have hts := forall₂_of_writeItems hts
    rw [ofChars_enclosed (by decide) (by decide)] at hread
    obtain ⟨⟨texts, bs'⟩, htexts, hread⟩ := Option.bind_eq_some_iff.1 hread
    dsimp only at hread
    split at hread
    · cases hread
      refine ⟨nofun, (forall₂_of_items (Q := fun t s => writeString normalize s = t) hts
        (fun v _ t hv => rereads_text hnormal hv) htexts).2⟩
    · cases hread
  | _ =>
    obtain ⟨b, bs', hbytes, -, hlist, hobject⟩ := opening_of_write h
    rw [hbytes, List.cons_append] at hread
    unfold signature at hread
    split at hread
    · rename_i heq
      cases heq
      obtain ⟨members, hv⟩ := hobject rfl
      cases hv
    · rename_i heq
      cases heq
      obtain ⟨items, hv⟩ := hlist rfl
      cases hv
    · cases hread

/-- A list of signatures that was written is read back as one that is written alike. -/
theorem rereads_signatures (most : Nat) (h : write normalize v = some t) :
    Rereads (signatures most) t fun ss => ∀ ss₀ : List Signature,
      v = .arr (ss₀.map Signature.toJson) →
        write normalize (.arr (ss.map Signature.toJson)) = some t := by
  intro rest ss bs hrest hread
  cases v with
  | arr items =>
    obtain ⟨ts, hts, rfl⟩ := Option.map_eq_some_iff.1 h
    have hts := forall₂_of_writeItems hts
    rw [ofChars_enclosed (by decide) (by decide)] at hread
    obtain ⟨hss, rfl⟩ := forall₂_of_items (Q := fun t s => ∃ v ∈ items, ∀ s₀ : Signature,
      v = s₀.toJson → write normalize s.toJson = some t) hts (fun v hmem t hv =>
        (rereads_signature hnormal most hv).imp fun s hs => ⟨v, hmem, hs⟩) hread
    refine ⟨fun ss₀ hss₀ => ?_, rfl⟩
    cases hss₀
    have hwrites : List.Forall₂ (fun v t => write normalize v = some t)
        (ss.map Signature.toJson) ts := by
      refine List.forall₂_map_left_iff.2 (hss.flip.imp fun s t => ?_)
      rintro ⟨v, hv, hs⟩
      obtain ⟨s₀, -, rfl⟩ := List.mem_map.1 hv
      exact hs s₀ rfl
    rw [write, writeItems_of_forall₂ hwrites]
    rfl
  | _ =>
    obtain ⟨b, bs', hbytes, -, hlist, -⟩ := opening_of_write h
    rw [hbytes, List.cons_append] at hread
    unfold signatures at hread
    split at hread
    · rename_i heq
      cases heq
      obtain ⟨items, hv⟩ := hlist rfl
      cases hv
    · cases hread

end Signatures

/-! ### Envelopes -/

/-- Whether a part of an envelope was read from a written member. -/
def Part.From (normalize : List Char → List Char) (members : List (String × Json))
    (e : String × List Char) : Part → Prop
  | .signed v => Named normalize members "signed" e ∧ ReadBack normalize e.2 v
  | .signatures ss => ∃ m ∈ members, Writes normalize m e ∧ settled normalize m.1 = "signatures" ∧
      ∀ ss₀ : List Signature, m.2 = .arr (ss₀.map Signature.toJson) →
        write normalize (.arr (ss.map Signature.toJson)) = some e.2
  | .other => True

section Envelopes

variable (hnormal : IsNormalForm normalize) {signed : Json} {ss : List Signature} {v : Json}
include hnormal

/-- The parts of an envelope, if they are read back from its two members, are written like those. -/
theorem write_of_from_pair {w : Json} {ss₀ : List Signature} {es : List (String × List Char)}
    {parts : List Part} {S C : List Char}
    (hparts : List.Forall₂ (Part.From normalize
      [("signatures", .arr (ss₀.map Signature.toJson)), ("signed", w)]) es parts)
    (hS : write normalize (.arr (ss₀.map Signature.toJson)) = some S)
    (hC : write normalize w = some C) (hsigned : .signed v ∈ parts)
    (hsignatures : .signatures ss ∈ parts) :
    settled normalize "signatures" = "signatures" ∧ settled normalize "signed" = "signed" ∧
      write normalize (.arr (ss.map Signature.toJson)) = some S ∧ ReadBack normalize C v := by
  obtain ⟨e, -, ⟨m, hm, hwrites, hname⟩, hback⟩ := exists_of_forall₂ hparts hsigned
  obtain ⟨e', -, m', hm', hwrites', hname', hss⟩ := exists_of_forall₂ hparts hsignatures
  obtain ⟨rfl, rfl⟩ := pair_of_settled hnormal (by decide) hm' hm hname' hname
  refine ⟨hname', hname, ?_, ?_⟩
  · rw [hss ss₀ rfl, ← hwrites'.2, hS]
  · rwa [Option.some.inj (hC.symm.trans hwrites.2)]

/-- An object that is read as an envelope has a part each for the value and the signatures. -/
theorem exists_parts_of_whole {members : List (String × Json)} {es : List (String × List Char)}
    (hes : List.Forall₂ (Writes normalize) members es)
    (h : whole envelope (ofChars ('{' :: writeMembers es ++ ['}'])) = some (v, ss)) :
    ∃ parts, List.Forall₂ (Part.From normalize members) (SortedMap.ofList es).entries parts ∧
      .signed v ∈ parts ∧ .signatures ss ∈ parts := by
  obtain ⟨⟨found, rest⟩, hread, hfound⟩ := Option.bind_eq_some_iff.1 h
  dsimp only at hfound
  split at hfound <;> cases hfound
  generalize (ofChars ('{' :: writeMembers es ++ ['}'])).length = most at hread
  rw [← List.append_nil (ofChars _), ofChars_enclosed (by decide) (by decide)] at hread
  obtain ⟨⟨parts, bs⟩, hparts, hread⟩ := Option.bind_eq_some_iff.1 hread
  obtain ⟨v', hv, hread⟩ := Option.bind_eq_some_iff.1 hread
  obtain ⟨ss', hss, hread⟩ := Option.bind_eq_some_iff.1 hread
  cases hread
  obtain ⟨hparts, -⟩ := forall₂_of_known (P := Part.From normalize members) hnormal hes hparts
    (fun m hm e hwrites hname => (rereads_value hnormal m.2 most (maxDepth - 1) hwrites.2).imp
      fun v hv => ⟨⟨m, hm, hwrites, hname⟩, hv⟩)
    (fun m hm e hwrites hname => (rereads_signatures hnormal most hwrites.2).imp
      fun ss hss => ⟨m, hm, hwrites, hname, hss⟩) (fun _ => trivial)
  refine ⟨parts, hparts, ?_, ?_⟩
  · exact mem_of_pick hv fun part hpick => by cases part <;> cases hpick; rfl
  · exact mem_of_pick hss fun part hpick => by cases part <;> cases hpick; rfl

end Envelopes

end Envelope

/-- Names that are read back as themselves are written as themselves. -/
theorem text_of_pair (hnormal : IsNormalForm normalize) {S C : List Char}
    (h : settled normalize "signatures" = "signatures")
    (h' : settled normalize "signed" = "signed") :
    String.ofList ('{' :: writeMembers [(String.ofList (writeString normalize "signatures"), S),
      (String.ofList (writeString normalize "signed"), C)] ++ ['}']) =
        "\x7b\"signatures\":" ++ String.ofList S ++ ",\"signed\":" ++ String.ofList C ++
          "\x7d" := by
  have hname : String.ofList (writeString normalize "signatures") = "\"signatures\"" := by
    rw [writeString_of_normal (h ▸ normalText_settled hnormal "signatures")]
    decide
  have hname' : String.ofList (writeString normalize "signed") = "\"signed\"" := by
    rw [writeString_of_normal (h' ▸ normalText_settled hnormal "signed")]
    decide
  rw [hname, hname', writeMembers_eq, memberTexts, entries_ofList_pair (by decide)]
  apply String.toList_injective
  simp [separated, memberText]

/-! ### Metadata -/

namespace Signed

variable {p : Primitives} {bs : Bytes} {m : Signed Payload} {signatures : List Signature}
  {signed : Json}

/-- Writing undoes reading: an envelope in canonical form that is read as metadata is written again
byte for byte. The value under `signed` keeps its canonical form, and is the same value if its texts
are in normal form and its members in order; and the canonical form of the envelope is the
signatures' and that value's, one after the other. -/
theorem toBytes_of_canonical (hnormal : IsNormalForm p.normalize)
    (hbs : (mkObj [("signatures", .arr (signatures.map Signature.toJson)),
      ("signed", signed)]).canonical p.normalize = some bs)
    (h : Signed.parse p bs = .ok m) :
    m.toBytes p = .ok bs ∧ signed.canonical p.normalize = some m.canonical ∧
      m.raw.Normal p.normalize ∧
        (signed.Normal p.normalize → signed.Sorted → m.raw = signed) ∧
          ∃ S C, (Json.arr (signatures.map Signature.toJson)).canonical p.normalize =
              some (ofText S) ∧ m.canonical = ofText C ∧
            bs = ofText ("\x7b\"signatures\":" ++ S ++ ",\"signed\":" ++ C ++ "\x7d") := by
  obtain ⟨hread, hcanonical, -, -⟩ := parse_eq_ok_iff.1 h
  obtain ⟨t, ht, rfl⟩ := Option.map_eq_some_iff.1 hbs
  obtain ⟨S, C, hS, hC, htext⟩ := (write_pair (by decide)).1 ht
  rw [ofText_ofList, htext] at hread
  have hes : List.Forall₂ (Writes p.normalize)
      [("signatures", .arr (signatures.map Signature.toJson)), ("signed", signed)]
      [(String.ofList (writeString p.normalize "signatures"), S),
        (String.ofList (writeString p.normalize "signed"), C)] :=
    .cons ⟨rfl, hS⟩ (.cons ⟨rfl, hC⟩ .nil)
  obtain ⟨parts, hparts, hsigned, hsignatures⟩ :=
    Envelope.exists_parts_of_whole hnormal hes hread
  obtain ⟨hname, hname', hwrite, hback⟩ :=
    Envelope.write_of_from_pair hnormal hparts hS hC hsigned hsignatures
  obtain ⟨C', hC', hbytes⟩ := Option.map_eq_some_iff.1 hcanonical
  obtain rfl := hback.same C' hC'
  have hjson : write p.normalize m.toJson = some t := by
    rw [toJson, write_pair (by decide)]
    exact ⟨S, C', hwrite, hC', htext⟩
  refine ⟨?_, ?_, hback.normal, fun hsettled hsorted => ?_, String.ofList S, String.ofList C', ?_,
    hbytes.symm, ?_⟩
  · rw [toBytes, Json.canonical, hjson]
    rfl
  · rw [Json.canonical, hC, ← hbytes]
    rfl
  · exact write_injective hback.normal hsettled hback.sorted hsorted hC' hC
  · rw [Json.canonical, hS]
    rfl
  · rw [htext, text_of_pair hnormal hname hname']

/-! ### Members that nobody knows, two of which are written alike -/

namespace Folded

/-- The normal form that the Kelvin sign has, and no other character. -/
def fold (cs : List Char) : List Char := cs.map fun c => if c = '\u212A' then 'K' else c

theorem isNormalForm_fold : IsNormalForm fold where
  idem cs := by
    simp only [fold, List.map_map]
    refine List.map_congr_left fun c _ => ?_
    by_cases h : c = '\u212A' <;> simp [h]
  special cs c hspecial := by
    have hletter : c ≠ 'K' := by
      rintro rfl
      exact absurd hspecial (by decide)
    have hsign : c ≠ '\u212A' := by
      rintro rfl
      exact absurd hspecial (by decide)
    simp only [fold, List.mem_map]
    constructor
    · rintro ⟨d, hd, rfl⟩
      split at hletter
      · exact absurd rfl hletter
      · rename_i hother
        rwa [if_neg hother]
    · exact fun hc => ⟨c, hc, if_neg hsign⟩

def primitives : Primitives := { Primitives.transparent with normalize := fold }

def sigs : List Signature := [⟨"1", "say \"\u212A\""⟩]

/-- Targets metadata with a note in it. -/
def noted : Json :=
  .mkObj [("_type", .str "targets"), ("spec_version", .str "1"), ("version", .int 1),
    ("expires", .str "2999-01-01T00:00:00Z"),
    ("x-note", .mkObj [("K", .null), ("\u212A", .arr [.str "\\\u212A", .int (-7)])])]

/-- The canonical form of the envelope: of the two members of the note, the sign's has replaced the
letter's. -/
def text : String :=
  "\x7b\"signatures\":[\x7b\"keyid\":\"1\",\"sig\":\"say \\\"K\\\"\"\x7d],\"signed\":\x7b" ++
    "\"_type\":\"targets\",\"expires\":\"2999-01-01T00:00:00Z\",\"spec_version\":\"1\"," ++
    "\"version\":1,\"x-note\":\x7b\"K\":[\"\\\\K\",-7]\x7d\x7d\x7d"

end Folded

open Folded in
theorem toBytes_of_canonical_folded : IsNormalForm primitives.normalize ∧
    (mkObj [("signatures", .arr (sigs.map Signature.toJson)),
      ("signed", noted)]).canonical primitives.normalize = some (ofText text) ∧
    ∃ m, Signed.parse primitives (ofText text) = .ok m ∧
      m.toBytes primitives = .ok (ofText text) ∧
        noted.canonical primitives.normalize = some m.canonical := by
  have hbs : (mkObj [("signatures", .arr (sigs.map Signature.toJson)),
      ("signed", noted)]).canonical primitives.normalize = some (ofText text) := by
    decide +kernel
  have hread : (match Signed.parse primitives (ofText text) with
    | .ok _ => true
    | .error _ => false) = true := by decide +kernel
  split at hread
  · rename_i m h
    obtain ⟨hbytes, hcanonical, -⟩ := toBytes_of_canonical isNormalForm_fold hbs h
    exact ⟨isNormalForm_fold, hbs, m, h, hbytes, hcanonical⟩
  · cases hread

end Signed

end SecureUpdate
