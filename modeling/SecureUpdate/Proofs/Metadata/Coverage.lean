import SecureUpdate.Proofs.Json.Readability
import SecureUpdate.Proofs.Metadata.Reading
import SecureUpdate.Proofs.Sample

/-!
What signatures cover. They cover the canonical form of the value under `signed`, and the payload is
read off that value itself. Where all its texts are in normal form the two say the same, however the
document is laid out. Where one is not, a name may be written like another one, which hides a member
from the canonical form but not from the payload.

Main statement: `payload_eq_of_canonical_eq`.
-/

namespace SecureUpdate

namespace Envelope

open Json Json.Reader

/-- The part of an envelope whose value has its members in order. -/
def Part.Sorted : Part → Prop
  | .signed v => v.Sorted
  | .signatures _ => True
  | .other => True

theorem mem_of_single? {α : Type} {xs : List α} {x : α} (h : single? xs = some x) : x ∈ xs := by
  unfold single? at h
  split at h
  · cases h
    exact List.mem_singleton.2 rfl
  · cases h

/-- The value under `signed` has the members of its objects in order. -/
theorem sorted_envelope (most : Nat) :
    Yields (envelope most) fun found => found.1.Sorted := by
  have hsigned : Yields (signed most) Json.Sorted := sorted_value most (maxDepth - 1)
  intro bs found rest hread
  unfold envelope at hread
  -- an object of parts in any order, a list of the value and the signatures, or neither
  split at hread
  · obtain ⟨⟨parts, bs'⟩, hparts, hread⟩ := Option.bind_eq_some_iff.1 hread
    obtain ⟨v, hv, hread⟩ := Option.bind_eq_some_iff.1 hread
    obtain ⟨ss, -, hread⟩ := Option.bind_eq_some_iff.1 hread
    cases hread
    have hsorted : ∀ part ∈ parts, part.Sorted := by
      refine yields_enclosed (P := Part.Sorted) (yields_memberOf fun name => ?_) most 0x7D _ parts _
        hparts
      intro bs part rest hread
      split at hread
      · exact hsigned.map (f := Part.signed) (fun _ h => h) bs part rest hread
      · split at hread
        · obtain ⟨found, -, heq⟩ := Option.map_eq_some_iff.1 hread
          cases heq
          trivial
        · obtain ⟨found, -, heq⟩ := Option.map_eq_some_iff.1 hread
          cases heq
          trivial
    obtain ⟨part, hpart, hv⟩ := List.mem_filterMap.1 (mem_of_single? hv)
    split at hv
    · cases hv
      exact hsorted _ hpart
    · cases hv
  · obtain ⟨⟨v, bs'⟩, hv, hread⟩ := Option.bind_eq_some_iff.1 hread
    have hsorted : v.Sorted := hsigned _ v bs' hv
    dsimp only at hread
    split at hread
    · obtain ⟨⟨ss, bs''⟩, -, hread⟩ := Option.bind_eq_some_iff.1 hread
      dsimp only at hread
      split at hread
      · cases hread
        exact hsorted
      · cases hread
    · cases hread
  · cases hread

end Envelope

namespace Signed

variable {p : Primitives} {bs bs' : Bytes} {m m' : Signed Payload}

/-- The value that signatures cover has the members of its objects in order. -/
theorem sorted_of_parse (h : Signed.parse p bs = .ok m) : m.raw.Sorted := by
  obtain ⟨⟨found, rest⟩, hread, hfound⟩ := Option.bind_eq_some_iff.1 (parse_eq_ok_iff.1 h).1
  dsimp only at hfound
  split at hfound
  · cases hfound
    exact Envelope.sorted_envelope _ _ _ rest hread
  · cases hfound

/-- Where all texts under `signed` are in normal form, signatures cover one payload only: documents
with the same canonical form have the same payload. -/
theorem payload_eq_of_canonical_eq (h : Signed.parse p bs = .ok m)
    (h' : Signed.parse p bs' = .ok m') (hnormal : m.raw.Normal p.normalize)
    (hnormal' : m'.raw.Normal p.normalize) (hcanonical : m.canonical = m'.canonical) :
    m.payload = m'.payload := by
  obtain ⟨-, hwrite, hpayload, -⟩ := parse_eq_ok_iff.1 h
  obtain ⟨-, hwrite', hpayload', -⟩ := parse_eq_ok_iff.1 h'
  obtain ⟨text, htext, hbytes⟩ := Option.map_eq_some_iff.1 hwrite
  obtain ⟨text', htext', hbytes'⟩ := Option.map_eq_some_iff.1 hwrite'
  have hsame : text = text' :=
    String.ofList_injective (Bytes.ofText_injective (hbytes.trans (hcanonical.trans hbytes'.symm)))
  subst hsame
  -- what is not read back from the canonical form, the signatures, has no part in the payload
  have hraw : m.raw = m'.raw := Json.write_injective hnormal hnormal' (sorted_of_parse h)
    (sorted_of_parse h') htext htext'
  exact Option.some.inj (hpayload.symm.trans ((congrArg Payload.ofJson? hraw).trans hpayload'))

/-! ### Two layouts, and two names that are written alike -/

namespace Relisted

/-- Targets metadata of the small repository that lists paths with a length each. -/
def listing (entries : List (String × Nat)) : Bytes :=
  publish ['1'] ("[\"targets\",\"1\",1,\"2999-01-01T00:00:00Z\",\x7b" ++
    ",".intercalate (entries.map fun e =>
      "\"" ++ e.1 ++ "\":[" ++ toString e.2 ++ ",\x7b\"sha256\":\"00\"\x7d]") ++ "\x7d]")

/-- The length that a payload lists for a path. -/
def lengthOf? (path : String) : Payload → Option UInt64
  | .targets t => (t.targets.get? path).map (·.length)
  | _ => none

/-- The normal form of the Kelvin sign is the letter `K`, so the canonical form drops the sign or
the letter, whichever is listed first by the order of names. -/
def kelvin : String := "\\u212A"

end Relisted

open Relisted in
/-- The same listing in another order, with an accent in its normal form. -/
theorem payload_eq_of_canonical_eq_reordered : ∃ m m',
    Signed.parse .standard (listing [("K", 1), ("caf\u00e9", 2)]) = .ok m ∧
      Signed.parse .standard (listing [("caf\\u00e9", 2), ("K", 1)]) = .ok m' ∧
        m.raw.Normal Primitives.standard.normalize ∧ m'.raw.Normal Primitives.standard.normalize ∧
          m.canonical = m'.canonical ∧ m.payload = m'.payload := by
  have hread : (match Signed.parse .standard (listing [("K", 1), ("caf\u00e9", 2)]),
      Signed.parse .standard (listing [("caf\\u00e9", 2), ("K", 1)]) with
    | .ok m, .ok m' => decide (m.raw.Normal Primitives.standard.normalize ∧
        m'.raw.Normal Primitives.standard.normalize ∧ m.canonical = m'.canonical)
    | _, _ => false) = true := by decide +kernel
  split at hread
  · rename_i m m' h h'
    obtain ⟨hnormal, hnormal', hcanonical⟩ := of_decide_eq_true hread
    exact ⟨m, m', h, h', hnormal, hnormal', hcanonical,
      payload_eq_of_canonical_eq h h' hnormal hnormal' hcanonical⟩
  · cases hread

open Relisted in
/-- One canonical form for two payloads, which list different lengths for a path. -/
theorem payload_ne_of_canonical_eq : ∃ m m',
    Signed.parse .standard (listing [("K", 1)]) = .ok m ∧
      Signed.parse .standard (listing [("K", 2), (kelvin, 1)]) = .ok m' ∧
        m.canonical = m'.canonical ∧ m.payload ≠ m'.payload := by
  have hread : (match Signed.parse .standard (listing [("K", 1)]),
      Signed.parse .standard (listing [("K", 2), (kelvin, 1)]) with
    | .ok m, .ok m' => decide (m.canonical = m'.canonical ∧
        lengthOf? "K" m.payload ≠ lengthOf? "K" m'.payload)
    | _, _ => false) = true := by decide +kernel
  split at hread
  · rename_i m m' h h'
    obtain ⟨hcanonical, hlength⟩ := of_decide_eq_true hread
    exact ⟨m, m', h, h', hcanonical, fun heq => hlength (congrArg (lengthOf? "K") heq)⟩
  · cases hread

end Signed

end SecureUpdate
