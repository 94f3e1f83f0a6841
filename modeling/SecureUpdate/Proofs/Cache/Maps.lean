import Mathlib.Data.List.Induction
import SecureUpdate.Proofs.Cache.Reliable
import SecureUpdate.Proofs.Files.Directory
import SecureUpdate.Proofs.Mirror.Names

/-!
Stores are maps by role name. To save, load or remove a role is to update or to look up one map, be
it kept in memory, by the bytes of keys or in a directory with a file for each role. The names of
the files keep the roles apart, for percent-encoding does, and none leads out of the directory.

Main statement: `answers_eq_replies`.
-/

namespace SecureUpdate

/-! ### Calls on a map -/

/-- A call on a store. -/
inductive StoreCall where
  | load (role : String)
  | save (role : String) (bs : Bytes)
  | remove (role : String)

namespace StoreCall

/-- What a map replies to a call: what it holds for a role, if that is asked for. -/
def reply (held : String → Option Bytes) : StoreCall → Option Bytes
  | load role => held role
  | save _ _ | remove _ => none

/-- What a call leaves of a map. -/
def leave (held : String → Option Bytes) : StoreCall → String → Option Bytes
  | load _ => held
  | save role bs => Function.update held role (some bs)
  | remove role => Function.update held role none

/-- What a map replies to calls one after another. -/
def replies (held : String → Option Bytes) : List StoreCall → List (Option Bytes)
  | [] => []
  | call :: calls => call.reply held :: replies (call.leave held) calls

/-- What a call makes of what is held for a role, if it is one that changes it. -/
def effect (role : String) : StoreCall → Option (Option Bytes)
  | load _ => none
  | save own bs => if own = role then some (some bs) else none
  | remove own => if own = role then some none else none

variable {held : String → Option Bytes} {calls : List StoreCall}

/-- A call changes what is held for its own role only. -/
theorem leave_apply (held : String → Option Bytes) (call : StoreCall) (role : String) :
    call.leave held role = (call.effect role).getD (held role) := by
  cases call with
  | load own => rfl
  | save own bs =>
    by_cases h : own = role
    · simp [leave, effect, h]
    · simp [leave, effect, h, Function.update_of_ne (Ne.symm h)]
  | remove own =>
    by_cases h : own = role
    · simp [leave, effect, h]
    · simp [leave, effect, h, Function.update_of_ne (Ne.symm h)]

/-- After some calls, a map holds for a role what the last one of them that changed it has made of
it. -/
theorem foldl_leave_apply (held : String → Option Bytes) (calls : List StoreCall) (role : String) :
    calls.foldl leave held role = (calls.reverse.findSome? (effect role)).getD (held role) := by
  induction calls using List.reverseRecOn with
  | nil => rfl
  | append_singleton calls call ih =>
    rw [List.foldl_append, List.foldl_cons, List.foldl_nil, leave_apply, ih, List.reverse_append,
      List.reverse_singleton, List.singleton_append, List.findSome?_cons]
    cases call.effect role <;> rfl

theorem replies_append (held : String → Option Bytes) (calls calls' : List StoreCall) :
    replies held (calls ++ calls') =
      replies held calls ++ replies (calls.foldl leave held) calls' := by
  induction calls generalizing held with
  | nil => rfl
  | cons call calls ih =>
    rw [List.cons_append, replies, ih, replies, List.foldl_cons, List.cons_append]

/-- To load a role gives what the last call that changed it has made of it, and what was held at
first if there is none. -/
theorem getLast?_replies_load (held : String → Option Bytes) (calls : List StoreCall)
    (role : String) : (replies held (calls ++ [.load role])).getLast? =
      some ((calls.reverse.findSome? (effect role)).getD (held role)) := by
  rw [replies_append, replies, replies, List.getLast?_append, List.getLast?_singleton, reply,
    foldl_leave_apply]
  rfl

end StoreCall

namespace LocalStore

open StoreCall

variable {κ : Type} {store : LocalStore κ} {view : κ → String → Option Bytes}

/-! ### Calls on a store -/

/-- What a store answers to a call: what is found for a role, if that is asked for. -/
def answer (store : LocalStore κ) : StoreCall → StoreStep κ (Option Bytes)
  | .load role => store.load role
  | .save role bs => fun k => ((store.save role bs k).1.map fun _ => none, (store.save role bs k).2)
  | .remove role => fun k => ((store.remove role k).1.map fun _ => none, (store.remove role k).2)

/-- What a store answers to calls one after another. -/
def answers (store : LocalStore κ) :
    List StoreCall → κ → List (Except StoreError (Option Bytes)) × κ
  | [], k => ([], k)
  | call :: calls, k =>
    let rest := store.answers calls (store.answer call k).2
    ((store.answer call k).1 :: rest.1, rest.2)

/-- A reliable store whose removals succeed, too, and forget their role only. -/
structure RoleKeyed (store : LocalStore κ) (view : κ → String → Option Bytes) : Prop
    extends store.Reliable view where
  remove : ∀ role k, ∃ k', store.remove role k = (.ok (), k') ∧
    ∀ other, view k' other = if role = other then none else view k other

namespace RoleKeyed

/-- Such a store answers a call like the map that it is viewed as. -/
theorem answer (h : store.RoleKeyed view) (call : StoreCall) (k : κ) :
    ∃ k', store.answer call k = (.ok (call.reply (view k)), k') ∧
      view k' = call.leave (view k) := by
  cases call with
  | load role => exact h.load role k
  | save role bs =>
    obtain ⟨k', hsave, hview⟩ := h.save role bs k
    refine ⟨k', by simp only [LocalStore.answer, hsave]; rfl, funext fun other => ?_⟩
    rw [hview, leave_apply, effect]
    split <;> rfl
  | remove role =>
    obtain ⟨k', hremove, hview⟩ := h.remove role k
    refine ⟨k', by simp only [LocalStore.answer, hremove]; rfl, funext fun other => ?_⟩
    rw [hview, leave_apply, effect]
    split <;> rfl

/-- So it answers calls one after another like that map. -/
theorem answers (h : store.RoleKeyed view) (calls : List StoreCall) (k : κ) :
    (store.answers calls k).1 = (replies (view k) calls).map .ok := by
  induction calls generalizing k with
  | nil => rfl
  | cons call calls ih =>
    obtain ⟨k', hanswer, hview⟩ := h.answer call k
    rw [LocalStore.answers, hanswer, replies, List.map_cons, ← hview, ← ih]

end RoleKeyed

/-! ### Maps in memory -/

theorem plain_roleKeyed : plain.RoleKeyed SortedMap.get? where
  toReliable := plain_reliable
  remove role m := ⟨m.erase role, rfl, SortedMap.get?_erase m role⟩

theorem keyed_roleKeyed : keyed.RoleKeyed fun m role => m.get? (Bytes.ofText role) where
  toReliable := keyed_reliable
  remove role m := by
    refine ⟨m.erase (Bytes.ofText role), rfl, fun other => ?_⟩
    simp only [SortedMap.get?_erase, Bytes.ofText_inj]

/-! ### Directories -/

theorem five_le_length_fileName (role : String) : 5 ≤ (fileName role).length := by
  rw [fileName, String.length_append]
  exact Nat.le_add_left 5 _

/-- The name of the file of a role is the name of an entry. -/
def fileEntry (role : String) : EntryName where
  text := fileName role
  nonempty h := absurd (five_le_length_fileName role) (by rw [h]; decide)
  noSlash := by simpa [fileName] using Text.Percent.slash_notMem_encode role
  notSelf h := absurd (five_le_length_fileName role) (by rw [h]; decide)
  notParent h := absurd (five_le_length_fileName role) (by rw [h]; decide)

theorem fileEntry_injective {role role' : String} (h : fileEntry role = fileEntry role') :
    role = role' :=
  fileOf_encode_inj (congrArg EntryName.text h)

theorem filePath_eq_under (dir role : String) : filePath dir role = (fileEntry role).under dir :=
  rfl

section Directory

variable {φ : Type} {fs : FileSystem φ} {dir : String} {held : φ → EntryName → Option Bytes}

/-- What becomes of the file of a role becomes of the role. -/
theorem update_fileEntry (held : EntryName → Option Bytes) (role other : String)
    (value : Option Bytes) : Function.update held (fileEntry role) value (fileEntry other) =
      if role = other then value else held (fileEntry other) := by
  by_cases h : role = other
  · rw [if_pos h, h, Function.update_self]
  · rw [if_neg h, Function.update_of_ne fun heq => h (fileEntry_injective heq).symm]

/-- A directory in which no step fails is a store of one file for each role. -/
theorem inDirectory_roleKeyed (h : fs.Faultless dir held) :
    (inDirectory fs dir).RoleKeyed fun d role => held d (fileEntry role) where
  load role d := by
    cases hheld : held d (fileEntry role) with
    | some bs =>
      obtain ⟨d', hread, hkept⟩ := h.read_some hheld
      exact ⟨d', by simp only [inDirectory, filePath_eq_under, hread], by rw [hkept]⟩
    | none =>
      obtain ⟨d', hread, hkept⟩ := h.read_none hheld
      exact ⟨d', by simp only [inDirectory, filePath_eq_under, hread], by rw [hkept]⟩
  save role bs d := by
    obtain ⟨d', hreplace, hplaced⟩ := h.replace (fileEntry role) bs d
    refine ⟨d', by simp only [inDirectory, filePath_eq_under, hreplace], fun other => ?_⟩
    rw [hplaced, update_fileEntry]
  remove role d := by
    cases hheld : held d (fileEntry role) with
    | some bs =>
      obtain ⟨d', hremove, hgone⟩ := h.remove_some hheld
      refine ⟨d', by simp only [inDirectory, filePath_eq_under, hremove], fun other => ?_⟩
      rw [hgone, update_fileEntry]
    | none =>
      obtain ⟨d', hremove, hkept⟩ := h.remove_none hheld
      refine ⟨d', by simp only [inDirectory, filePath_eq_under, hremove], fun other => ?_⟩
      rw [hkept, ← update_fileEntry, Function.update_eq_self_iff.2 hheld.symm]

/-- A call on a directory touches entries of it only, also when a step fails. -/
theorem notesWithin_answer (htemp : ∀ d temp d', fs.createTemp dir d = (.ok temp, d') →
      ChildOf dir temp) (call : StoreCall) :
    FileSystem.NotesWithin dir ((inDirectory fs.noting dir).answer call)
      ((inDirectory fs dir).answer call) := by
  intro d notes
  have hfile (role : String) : ChildOf dir (filePath dir role) := ⟨fileEntry role, rfl⟩
  cases call with
  | load role =>
    refine ⟨[filePath dir role], ?_, by simpa using hfile role⟩
    simp only [answer, inDirectory, FileSystem.noting, FileSystem.note]
    rcases fs.read (filePath dir role) d with ⟨(_ | _) | _, d'⟩ <;> rfl
  | save role bs =>
    obtain ⟨touched, hreplace, hwithin⟩ :=
      FileSystem.notesWithin_replace htemp (hfile role) bs d notes
    refine ⟨touched, ?_, hwithin⟩
    simp only [answer, inDirectory, hreplace]
    rcases fs.replace dir (filePath dir role) bs d with ⟨(_ | _) | _, d'⟩ <;> rfl
  | remove role =>
    refine ⟨[filePath dir role], ?_, by simpa using hfile role⟩
    simp only [answer, inDirectory, FileSystem.noting, FileSystem.note]
    rcases fs.remove (filePath dir role) d with ⟨(_ | _) | _, d'⟩ <;> rfl

theorem notesWithin_answers (htemp : ∀ d temp d', fs.createTemp dir d = (.ok temp, d') →
      ChildOf dir temp) (calls : List StoreCall) :
    FileSystem.NotesWithin dir ((inDirectory fs.noting dir).answers calls)
      ((inDirectory fs dir).answers calls) := by
  induction calls with
  | nil => exact fun d notes => ⟨[], rfl, nofun⟩
  | cons call calls ih =>
    intro d notes
    obtain ⟨touched, hanswer, hwithin⟩ := notesWithin_answer htemp call d notes
    obtain ⟨touched', hanswers, hwithin'⟩ :=
      ih ((inDirectory fs dir).answer call d).2 (touched ++ notes)
    refine ⟨touched' ++ touched, ?_, fun path hpath => ?_⟩
    · simp only [answers, hanswer, hanswers, List.append_assoc]
    · rcases List.mem_append.1 hpath with hpath | hpath
      · exact hwithin' path hpath
      · exact hwithin path hpath

end Directory

/-- Stores are maps by role name. Whatever the names of roles are and whatever is held at first, a
directory in which no step fails, the keyed store and the plain map answer calls one after another
like a map from role names to bytes, in which to load a role gives what the last call that changed
it made of it. The paths that are touched in the directory are those of entries of it. And file
names of metadata, both with a version or both without, are the same for the same role and version
only. -/
theorem answers_eq_replies {φ : Type} {fs : FileSystem φ} {dir : String}
    {held : φ → EntryName → Option Bytes} (h : fs.Faultless dir held) :
    (∀ calls d, let run := (inDirectory fs dir).answers calls d
      run.1 = (replies (fun role => held d (fileEntry role)) calls).map .ok ∧
      ∃ touched, (inDirectory fs.noting dir).answers calls (d, []) = (run.1, run.2, touched) ∧
        ∀ path ∈ touched, ChildOf dir path) ∧
    (∀ calls k, (keyed.answers calls k).1 =
      (replies (fun role => k.get? (Bytes.ofText role)) calls).map .ok) ∧
    (∀ calls m, (plain.answers calls m).1 = (replies m.get? calls).map .ok) ∧
    (∀ map calls role, (replies map (calls ++ [.load role])).getLast? =
      some ((calls.reverse.findSome? (effect role)).getD (map role))) ∧
    ∀ role version role' version', version.isSome = version'.isSome →
      metadataFile role version = metadataFile role' version' →
        role = role' ∧ version = version' := by
  refine ⟨fun calls d => ⟨(inDirectory_roleKeyed h).answers calls d, ?_⟩,
    keyed_roleKeyed.answers, plain_roleKeyed.answers, getLast?_replies_load,
    fun _ _ _ _ => metadataFile_inj⟩
  have htemp : ∀ d temp d', fs.createTemp dir d = (.ok temp, d') → ChildOf dir temp := by
    intro d temp d' hcreate
    obtain ⟨name, d₁, hcreated, -⟩ := h.createTemp d
    rw [hcreate] at hcreated
    cases hcreated
    exact ⟨name, rfl⟩
  obtain ⟨touched, hnoted, hwithin⟩ := notesWithin_answers htemp calls d []
  exact ⟨touched, by rw [hnoted, List.append_nil], hwithin⟩

/-- Calls with names that would lead out of a directory. -/
def exercise : List StoreCall :=
  [.load "timestamp", .save "timestamp" [1], .save "../é" [2], .save "timestamp" [3],
    .load "timestamp", .load "../é", .remove "timestamp", .remove "timestamp", .load "timestamp",
    .load "../é"]

/-- Files that are kept by their paths give the same answers to them as the plain map. -/
theorem answers_eq_replies_flat :
    ((inDirectory FileSystem.flat "cache").answers exercise .empty).1 =
      (plain.answers exercise .empty).1 ∧
    (plain.answers exercise .empty).1 = [none, none, none, none, some [3], some [2], none, none,
      none, some [2]].map .ok := by
  obtain ⟨hdirectory, -, hplain, -⟩ :=
    answers_eq_replies (FileSystem.flat_faultless "cache")
  rw [(hdirectory exercise .empty).1, hplain]
  exact ⟨rfl, rfl⟩

end LocalStore

end SecureUpdate
