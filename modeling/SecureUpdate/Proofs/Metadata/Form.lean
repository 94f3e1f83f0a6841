import SecureUpdate.Metadata.Form
import SecureUpdate.Proofs.Dict
import SecureUpdate.Proofs.Time.Rereading

/-!
The JSON form of payloads is read back as the payload it was written from, with one exception:
custom data that is null is read as no custom data. One lemma for each type says so, in the order in
which the types are made of one another.

Main statement: `Payload.ofJson?_toJson`.
-/

namespace SecureUpdate

open SortedMap

/-! ### Fields -/

namespace Json

variable {α β : Type}

@[simp] theorem findEntry_ofList (name : String) (members : List (String × Json)) :
    findEntry name (ofList members).entries = findEntry name members.reverse :=
  get?_ofList members name

@[simp] theorem fields?_mkObj (names : List String) (members : List (String × Json)) :
    (mkObj members).fields? names =
      some (names.map fun name => findEntry name members.reverse) := by
  simp [mkObj, fields?]

@[simp] theorem member?_mkObj (name : String) (members : List (String × Json)) :
    (mkObj members).member? name = findEntry name members.reverse :=
  findEntry_ofList name members

@[simp] theorem findEntry_optionalMember (k name : String) (toJson : α → Json) (x : Option α) :
    findEntry k (optionalMember name toJson x) = if name = k then x.map toJson else none := by
  cases x with
  | none => exact (ite_self _).symm
  | some x => rfl

@[simp] theorem reverse_optionalMember (name : String) (toJson : α → Json) (x : Option α) :
    (optionalMember name toJson x).reverse = optionalMember name toJson x := by
  cases x <;> rfl

@[simp] theorem text?_str (s : String) : text? (.str s) = some s := rfl

@[simp] theorem bool?_bool (b : Bool) : bool? (.bool b) = some b := rfl

@[simp] theorem uint64?_ofUInt64 (n : UInt64) : uint64? (ofUInt64 n) = some n := by
  have hsize := n.toNat_lt
  simp [ofUInt64, uint64?, UInt64.size, hsize]

theorem mapM_map {read : β → Option α} {write : α → β} {xs : List α}
    (h : ∀ x ∈ xs, read (write x) = some x) : (xs.map write).mapM read = some xs := by
  induction xs with
  | nil => rfl
  | cons x xs ih =>
    obtain ⟨hx, hxs⟩ := List.forall_mem_cons.1 h
    rw [List.map_cons, List.mapM_cons, hx, ih hxs]
    rfl

theorem list?_map {read : Json → Option α} {toJson : α → Json} {xs : List α}
    (h : ∀ x ∈ xs, read (toJson x) = some x) : list? read (.arr (xs.map toJson)) = some xs :=
  mapM_map h

theorem dict?_ofDict {read : Json → Option α} {toJson : α → Json} {d : Dict α}
    (h : ∀ e ∈ d.entries, read (toJson e.2) = some e.2) :
    dict? read (ofDict toJson d) = some d := by
  have hentries : (d.entries.map fun e => (e.1, toJson e.2)).mapM (fun m =>
      (read m.2).map fun x => (m.1, x)) = some d.entries :=
    mapM_map fun e he => by rw [h e he]; rfl
  rw [ofDict, dict?, hentries, Option.map_some, ofList_entries]

/-- An optional member that is not null is read back. -/
theorem optional_map {read : Json → Option α} {toJson : α → Json} {x : Option α}
    (hread : ∀ y, x = some y → read (toJson y) = some y)
    (hnull : ∀ y, x = some y → toJson y ≠ .null) : optional read (x.map toJson) = some x := by
  cases x with
  | none => rfl
  | some y =>
    have hread := hread y rfl
    have hnull := hnull y rfl
    rw [Option.map_some]
    generalize toJson y = v at hread hnull
    cases v with
    | null => exact absurd rfl hnull
    | _ => simp [optional, hread]

end Json

open Json

/-! ### Parts of payloads -/

@[simp] theorem Hashes.ofJson?_toJson (h : Hashes) : Hashes.ofJson? h.toJson = some h :=
  dict?_ofDict fun _ _ => rfl

@[simp] theorem Instant.ofJson?_toJson (t : Instant) : Instant.ofJson? t.toJson = some t := by
  rw [ofJson?, toJson, text?_str, Option.bind_eq_bind, Option.bind_some, read_write]

@[simp] theorem Header.ofFields?_toMembers (h : Header) :
    ofFields? (some (.str h.specVersion)) (some (.ofUInt64 h.version)) (some h.expires.toJson) =
      some h := by
  simp [ofFields?]

namespace Authority

@[simp] theorem ofFields?_toMembers (a : Authority) :
    ofFields? (some (.arr (a.keyIds.map .str))) (some (.ofUInt64 a.threshold)) = some a := by
  have hkeyIds : list? text? (.arr (a.keyIds.map .str)) = some a.keyIds := list?_map fun _ _ => rfl
  simp [ofFields?, hkeyIds, mk?, a.threshold_pos]

@[simp] theorem ofJson?_toJson (a : Authority) : ofJson? a.toJson = some a := by
  simp [ofJson?, toJson, toMembers]

end Authority

@[simp] theorem Key.ofJson?_toJson (k : Key) : Key.ofJson? k.toJson = some k := by
  simp [ofJson?, toJson, materialOfJson?]

@[simp] theorem RootRoles.ofJson?_toJson (r : RootRoles) : RootRoles.ofJson? r.toJson = some r := by
  simp [ofJson?, toJson]

@[simp] theorem Pin.ofJson?_toJson (pin : Pin) : Pin.ofJson? pin.toJson = some pin := by
  have hlength : optional uint64? (pin.length.map ofUInt64) = some pin.length :=
    optional_map (fun _ _ => uint64?_ofUInt64 _) fun _ _ => nofun
  have hhashes : optional Hashes.ofJson? (pin.hashes.map Hashes.toJson) = some pin.hashes :=
    optional_map (fun _ _ => Hashes.ofJson?_toJson _) fun _ _ => nofun
  simp [ofJson?, toJson, findEntry_append, hlength, hhashes]

theorem Listing.ofJson?_toJson {l : Listing} (h : l.custom ≠ some .null) :
    Listing.ofJson? l.toJson = some l := by
  have hcustom : optional some l.custom = some l.custom := by
    have hread : optional some (l.custom.map id) = some l.custom :=
      optional_map (fun _ _ => rfl) fun _ hv hnull => h (hv.trans (congrArg some hnull))
    rwa [Option.map_id] at hread
  simp [ofJson?, toJson, toMembers, findEntry_append, hcustom]

@[simp] theorem Delegation.ofJson?_toJson (d : Delegation) :
    Delegation.ofJson? d.toJson = some d := by
  obtain ⟨name, authority, paths, terminating⟩ := d
  cases paths with
  | patterns ps =>
    have hps : list? text? (.arr (ps.map .str)) = some ps := list?_map fun _ _ => rfl
    simp [ofJson?, toJson, mkObj, PathSet.ofMembers?, PathSet.toMember, Authority.toMembers, hps,
      defaulting]
  | digestStarts starts =>
    have hstarts : list? text? (.arr (starts.map .str)) = some starts := list?_map fun _ _ => rfl
    simp [ofJson?, toJson, mkObj, PathSet.ofMembers?, PathSet.toMember,
      Authority.toMembers, hstarts, defaulting]

@[simp] theorem Delegations.ofJson?_toJson (d : Delegations) :
    Delegations.ofJson? d.toJson = some d := by
  have hkeys : dict? Key.ofJson? (.ofDict Key.toJson d.keys) = some d.keys :=
    dict?_ofDict fun _ _ => Key.ofJson?_toJson _
  have hroles : list? Delegation.ofJson? (.arr (d.roles.map Delegation.toJson)) = some d.roles :=
    list?_map fun _ _ => Delegation.ofJson?_toJson _
  simp [ofJson?, toJson, hkeys, hroles]

/-! ### Payloads -/

theorem Root.ofJson?_toJson (r : Root) (role : Json) :
    Root.ofJson? (mkObj (("_type", role) :: r.toMembers)) = some r := by
  have hkeys : dict? Key.ofJson? (.ofDict Key.toJson r.keys) = some r.keys :=
    dict?_ofDict fun _ _ => Key.ofJson?_toJson _
  simp [ofJson?, toMembers, Header.toMembers, hkeys, defaulting]

theorem Pin.listOfJson?_listToMembers (header : Header) (pins : Dict Pin) (role : Json) :
    Pin.listOfJson? (mkObj (("_type", role) :: Pin.listToMembers header pins)) =
      some (header, pins) := by
  have hpins : dict? Pin.ofJson? (.ofDict Pin.toJson pins) = some pins :=
    dict?_ofDict fun _ _ => Pin.ofJson?_toJson _
  simp [listOfJson?, listToMembers, Header.toMembers, hpins]

theorem Targets.ofJson?_toJson {t : Targets} (role : Json)
    (h : ∀ e ∈ t.targets.entries, e.2.custom ≠ some .null) :
    Targets.ofJson? (mkObj (("_type", role) :: t.toMembers)) = some t := by
  have htargets : dict? Listing.ofJson? (.ofDict Listing.toJson t.targets) = some t.targets :=
    dict?_ofDict fun e he => Listing.ofJson?_toJson (h e he)
  have hdelegations : optional Delegations.ofJson? (t.delegations.map Delegations.toJson) =
      some t.delegations := optional_map (fun _ _ => Delegations.ofJson?_toJson _) fun _ _ => nofun
  simp [ofJson?, toMembers, Header.toMembers, findEntry_append, htargets, hdelegations,
    defaulting]

namespace Payload

/-- Whether no target has null for its custom data. -/
def NoNullCustom : Payload → Prop
  | targets t => ∀ e ∈ t.targets.entries, e.2.custom ≠ some .null
  | _ => True

/-- A payload is read back from its JSON form. -/
theorem ofJson?_toJson {payload : Payload} (h : payload.NoNullCustom) :
    ofJson? payload.toJson = some payload := by
  have hrole : Role.ofName? payload.role.name = some payload.role := Role.ofName?_name _
  have hread : ofJsonAs? payload.role payload.toJson = some payload := by
    cases payload with
    | root r => simp [ofJsonAs?, toJson, toMembers, role, Root.ofJson?_toJson]
    | timestamp t =>
      simp [ofJsonAs?, toJson, toMembers, role, Timestamp.ofJson?, Timestamp.toMembers,
        Pin.listOfJson?_listToMembers]
    | snapshot s =>
      simp [ofJsonAs?, toJson, toMembers, role, Snapshot.ofJson?, Snapshot.toMembers,
        Pin.listOfJson?_listToMembers]
    | targets t => simp [ofJsonAs?, toJson, toMembers, role, Targets.ofJson?_toJson _ h]
  have hmember : payload.toJson.member? "_type" = some (.str payload.role.name) := by
    cases payload <;> simp [toJson, toMembers, Root.toMembers, Timestamp.toMembers,
      Snapshot.toMembers, Targets.toMembers, Pin.listToMembers, Header.toMembers, findEntry_append]
  show (payload.toJson.member? "_type" >>= text? >>= Role.ofName? >>= _) = _
  simp [hmember, hrole, hread]

end Payload

end SecureUpdate
