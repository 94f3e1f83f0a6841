import Mathlib.Logic.Function.Basic
import SecureUpdate.Dict
import SecureUpdate.Files.System
import SecureUpdate.Proofs.Dict

/-!
A directory as a map from the names of its entries to contents. As long as no step fails, to replace
a file is to update the map: the temporary file was not there before and is not there after. All
paths that this touches are those of entries of the directory, also when steps fail.

Main statements: `Faultless.replace`, `notesWithin_replace`, `flat_faultless`.
-/

namespace SecureUpdate

/-! ### Names and paths -/

/-- The name of an entry of a directory. It leads neither further down nor back up. -/
structure EntryName where
  text : String
  nonempty : text ≠ ""
  noSlash : '/' ∉ text.toList
  notSelf : text ≠ "."
  notParent : text ≠ ".."
deriving DecidableEq

namespace EntryName

variable {name name' : EntryName} {dir : String}

/-- The path of an entry of a directory. -/
def under (name : EntryName) (dir : String) : String := joinPath dir name.text

/-- A name stands for no absolute path. -/
theorem head?_ne (name : EntryName) : name.text.toList.head? ≠ some '/' :=
  fun h => name.noSlash (List.mem_of_head? h)

theorem under_eq (name : EntryName) (dir : String) : name.under dir =
    if dir = "" ∨ dir.toList.getLast? = some '/' then dir ++ name.text
    else dir ++ "/" ++ name.text := by
  rw [under, joinPath, if_neg name.head?_ne]

theorem under_injective (h : name.under dir = name'.under dir) : name = name' := by
  have htext : name.text = name'.text := by
    rw [under_eq, under_eq] at h
    split at h <;> exact String.append_right_inj _ |>.1 h
  cases name
  cases name'
  cases htext
  rfl

end EntryName

/-- Whether a path is that of an entry which stands directly in a directory. -/
def ChildOf (dir path : String) : Prop := ∃ name : EntryName, path = name.under dir

namespace FileSystem

variable {φ α : Type} {fs : FileSystem φ} {dir : String} {name : EntryName} {bs : Bytes}

/-! ### Files that do not fail -/

/-- Files of which no step fails, except that what is not there can be neither read nor removed,
where `held` is what a directory holds under each name. A temporary file gets a name that nothing
has yet. -/
structure Faultless (fs : FileSystem φ) (dir : String) (held : φ → EntryName → Option Bytes) :
    Prop where
  createTemp : ∀ d, ∃ name d', fs.createTemp dir d = (.ok (name.under dir), d') ∧
    held d name = none ∧ held d' = Function.update (held d) name (some [])
  write : ∀ {name d} bs, (held d name).isSome → ∃ d',
    fs.write (name.under dir) bs d = (.ok (), d') ∧
      held d' = Function.update (held d) name (some bs)
  sync : ∀ {name d}, (held d name).isSome → ∃ d',
    fs.sync (name.under dir) d = (.ok (), d') ∧ held d' = held d
  rename : ∀ {source d bs} destination, held d source = some bs → ∃ d',
    fs.rename (source.under dir) (destination.under dir) d = (.ok (), d') ∧
      held d' = Function.update (Function.update (held d) source none) destination (some bs)
  remove_some : ∀ {name d bs}, held d name = some bs → ∃ d',
    fs.remove (name.under dir) d = (.ok (), d') ∧ held d' = Function.update (held d) name none
  remove_none : ∀ {name d}, held d name = none → ∃ d',
    fs.remove (name.under dir) d = (.error .notFound, d') ∧ held d' = held d
  read_some : ∀ {name d bs}, held d name = some bs → ∃ d',
    fs.read (name.under dir) d = (.ok bs, d') ∧ held d' = held d
  read_none : ∀ {name d}, held d name = none → ∃ d',
    fs.read (name.under dir) d = (.error .notFound, d') ∧ held d' = held d

namespace Faultless

variable {held : φ → EntryName → Option Bytes} {temp : EntryName} {d : φ}

/-- A file that is there becomes the destination, with the new content. -/
theorem fillAndMove (h : fs.Faultless dir held) (htemp : (held d temp).isSome) (name : EntryName)
    (bs : Bytes) : ∃ d', fs.fillAndMove (temp.under dir) (name.under dir) bs d = (.ok (), d') ∧
      held d' = Function.update (Function.update (held d) temp none) name (some bs) := by
  obtain ⟨d₁, hwrite, hwritten⟩ := h.write bs htemp
  have hfilled : held d₁ temp = some bs := by rw [hwritten, Function.update_self]
  obtain ⟨d₂, hsync, hsynced⟩ := h.sync (by rw [hfilled]; rfl)
  rw [← hsynced] at hfilled
  obtain ⟨d₃, hrename, hmoved⟩ := h.rename name hfilled
  refine ⟨d₃, ?_, ?_⟩
  · simp only [FileSystem.fillAndMove, hwrite, hsync, hrename]
  · rw [hmoved, hsynced, hwritten, Function.update_idem]

/-- To replace a file is to update the map. -/
theorem replace (h : fs.Faultless dir held) (name : EntryName) (bs : Bytes) (d : φ) :
    ∃ d', fs.replace dir (name.under dir) bs d = (.ok (), d') ∧
      held d' = Function.update (held d) name (some bs) := by
  obtain ⟨temp, d₁, htemp, hfree, hnew⟩ := h.createTemp d
  have hthere : held d₁ temp = some [] := by rw [hnew, Function.update_self]
  obtain ⟨d₂, hmove, hmoved⟩ := h.fillAndMove (by rw [hthere]; rfl) name bs
  refine ⟨d₂, ?_, ?_⟩
  · simp only [FileSystem.replace, htemp, hmove]
  · -- what was free is free again
    have hgone : Function.update (held d) temp none = held d :=
      Function.update_eq_self_iff.2 hfree.symm
    rw [hmoved, hnew, Function.update_idem, hgone]

end Faultless

/-! ### The paths that are touched -/

/-- A step that notes the paths that it touches. -/
def note (paths : List String) (step : FileStep φ α) : FileStep (φ × List String) α := fun d =>
  ((step d.1).1, (step d.1).2, paths ++ d.2)

/-- The same files, where each step notes the paths that it touches; to create a temporary file is
to touch the path that comes out. -/
def noting (fs : FileSystem φ) : FileSystem (φ × List String) where
  createDirs dir := note [dir] (fs.createDirs dir)
  createTemp dir d := note (fs.createTemp dir d.1).1.toOption.toList (fs.createTemp dir) d
  write path bs := note [path] (fs.write path bs)
  sync path := note [path] (fs.sync path)
  rename source destination := note [source, destination] (fs.rename source destination)
  remove path := note [path] (fs.remove path)
  size path := note [path] (fs.size path)
  read path := note [path] (fs.read path)

/-- Whether a run over files that take note goes like the run over the files themselves, and notes
entries of a directory only. -/
def NotesWithin (dir : String) (noted : φ × List String → α × φ × List String)
    (run : φ → α × φ) : Prop :=
  ∀ d notes, ∃ touched, noted (d, notes) = ((run d).1, (run d).2, touched ++ notes) ∧
    ∀ path ∈ touched, ChildOf dir path

variable {path temp destination : String}

/-- To fill and move a file touches the two paths only, whether or not it fails. -/
theorem notesWithin_fillAndMove (fs : FileSystem φ) (htemp : ChildOf dir temp)
    (hdestination : ChildOf dir destination) (bs : Bytes) :
    NotesWithin dir (fs.noting.fillAndMove temp destination bs)
      (fs.fillAndMove temp destination bs) := by
  intro d notes
  simp only [FileSystem.fillAndMove, noting, note]
  cases fs.write temp bs d with
  | mk written d₁ =>
    cases written with
    | error e => exact ⟨[temp], rfl, by simpa using htemp⟩
    | ok _ =>
      dsimp only
      cases fs.sync temp d₁ with
      | mk synced d₂ =>
        cases synced with
        | error e => exact ⟨[temp, temp], rfl, by simpa using htemp⟩
        | ok _ =>
          dsimp only
          cases fs.rename temp destination d₂ with
          | mk moved d₃ =>
            have hall : ∀ path ∈ [temp, destination, temp, temp], ChildOf dir path := by
              simp [htemp, hdestination]
            cases moved <;> exact ⟨[temp, destination, temp, temp], rfl, hall⟩

/-- To replace the file of an entry touches entries of the directory only, also when that fails, if
temporary files are created there. -/
theorem notesWithin_replace (htemp : ∀ d temp d', fs.createTemp dir d = (.ok temp, d') →
      ChildOf dir temp) (hdestination : ChildOf dir destination) (bs : Bytes) :
    NotesWithin dir (fs.noting.replace dir destination bs) (fs.replace dir destination bs) := by
  intro d notes
  simp only [FileSystem.replace]
  have hnoted : fs.noting.createTemp dir (d, notes) = ((fs.createTemp dir d).1,
      (fs.createTemp dir d).2, (fs.createTemp dir d).1.toOption.toList ++ notes) := rfl
  rw [hnoted]
  cases hcreate : fs.createTemp dir d with
  | mk created d₁ =>
    cases created with
    | error e => exact ⟨[], rfl, nofun⟩
    | ok temp =>
      have hchild : ChildOf dir temp := htemp d temp d₁ hcreate
      obtain ⟨touched, hmove, hwithin⟩ :=
        notesWithin_fillAndMove fs hchild hdestination bs d₁ (temp :: notes)
      have hall : ∀ path ∈ temp :: (touched ++ [temp]), ChildOf dir path := by
        simpa [or_imp, forall_and, hchild] using hwithin
      simp only [Except.toOption, Option.toList, List.singleton_append, hmove]
      cases fs.fillAndMove temp destination bs d₁ with
      | mk moved d₂ =>
        cases moved with
        | ok _ =>
          exact ⟨touched ++ [temp], by simp, fun path h => hall path (List.mem_cons_of_mem _ h)⟩
        | error e =>
          -- the temporary file is removed
          exact ⟨temp :: (touched ++ [temp]), by simp [noting, note], hall⟩

/-! ### Files by their paths -/

namespace Flat

/-- The length of the longest of some texts. -/
def longest : List String → Nat
  | [] => 0
  | text :: texts => max text.length (longest texts)

theorem length_le_longest {text : String} {texts : List String} (h : text ∈ texts) :
    text.length ≤ longest texts := by
  induction texts with
  | nil => cases h
  | cons first texts ih =>
    rw [longest]
    rcases List.mem_cons.1 h with rfl | h
    · exact Nat.le_max_left ..
    · exact Nat.le_trans (ih h) (Nat.le_max_right ..)

/-- A name that is longer than all paths of a map. -/
def freshName (m : Dict Bytes) : EntryName where
  text := String.ofList (List.replicate (longest m.keys + 1) 't')
  nonempty h := by simpa using congrArg String.length h
  noSlash := by simp
  notSelf h := by
    have hfirst := congrArg (·.toList.head?) h
    simp [List.replicate_succ] at hfirst
  notParent h := by
    have hfirst := congrArg (·.toList.head?) h
    simp [List.replicate_succ] at hfirst

/-- A step on a file that has to be there. -/
def onFile (path : String) (f : Bytes → Dict Bytes → α × Dict Bytes) : FileStep (Dict Bytes) α :=
  fun m => match m.get? path with
    | some bs => (.ok (f bs m).1, (f bs m).2)
    | none => (.error .notFound, m)

/-- What a directory holds under a name. -/
def held (dir : String) (m : Dict Bytes) (name : EntryName) : Option Bytes :=
  m.get? (name.under dir)

/-- What changes at the path of an entry changes under its name. -/
theorem held_of_get? {m m' : Dict Bytes} {value : Option Bytes}
    (h : ∀ path, m'.get? path = if name.under dir = path then value else m.get? path) :
    held dir m' = Function.update (held dir m) name value := by
  funext other
  rw [held, h]
  by_cases hother : other = name
  · rw [hother, if_pos rfl, Function.update_self]
  · rw [if_neg fun h => hother (EntryName.under_injective h).symm, Function.update_of_ne hother]
    rfl

/-- No path is as long as the new name. -/
theorem held_freshName (dir : String) (m : Dict Bytes) : held dir m (freshName m) = none := by
  cases hthere : held dir m (freshName m) with
  | none => rfl
  | some bs =>
    have hkey : (freshName m).under dir ∈ m.keys :=
      List.mem_map_of_mem (f := Prod.fst) (SortedMap.mem_of_get? hthere)
    have hle : ((freshName m).under dir).length ≤ longest m.keys := length_le_longest hkey
    have hlong : (freshName m).text.length ≤ ((freshName m).under dir).length := by
      rw [EntryName.under_eq]
      split <;> simp only [String.length_append] <;> omega
    have hlength : (freshName m).text.length = longest m.keys + 1 := by
      simp [freshName]
    omega

variable {m : Dict Bytes}

theorem onFile_some {f : Bytes → Dict Bytes → α × Dict Bytes} (h : held dir m name = some bs) :
    onFile (name.under dir) f m = (.ok (f bs m).1, (f bs m).2) := by
  rw [held] at h
  rw [onFile, h]

theorem onFile_none {f : Bytes → Dict Bytes → α × Dict Bytes} (h : held dir m name = none) :
    onFile (name.under dir) f m = (.error .notFound, m) := by
  rw [held] at h
  rw [onFile, h]

end Flat

open Flat

/-- Files as a map from their paths to contents, without directories. -/
def flat : FileSystem (Dict Bytes) where
  createDirs _ m := (.ok (), m)
  createTemp dir m := (.ok ((freshName m).under dir), m.insert ((freshName m).under dir) [])
  write path bs := onFile path fun _ m => ((), m.insert path bs)
  sync path := onFile path fun _ m => ((), m)
  rename source destination := onFile source fun bs m =>
    ((), (m.erase source).insert destination bs)
  remove path := onFile path fun _ m => ((), m.erase path)
  size path := onFile path fun bs m => (bs.length, m)
  read path := onFile path fun bs m => (bs, m)

/-- Such files do not fail. -/
theorem flat_faultless (dir : String) : flat.Faultless dir (held dir) where
  createTemp m :=
    ⟨freshName m, _, rfl, held_freshName dir m, held_of_get? (SortedMap.get?_insert m _ _)⟩
  write {name m} bs h := by
    obtain ⟨old, hold⟩ := Option.isSome_iff_exists.1 h
    refine ⟨m.insert (name.under dir) bs, ?_, held_of_get? (SortedMap.get?_insert m _ _)⟩
    simp only [flat, onFile_some hold]
  sync {name m} h := by
    obtain ⟨old, hold⟩ := Option.isSome_iff_exists.1 h
    exact ⟨m, by simp only [flat, onFile_some hold], rfl⟩
  rename {source m bs} destination h := by
    refine ⟨(m.erase (source.under dir)).insert (destination.under dir) bs, ?_, ?_⟩
    · simp only [flat, onFile_some h]
    · rw [held_of_get? (SortedMap.get?_insert _ _ _), held_of_get? (SortedMap.get?_erase m _)]
  remove_some {name m bs} h := ⟨m.erase (name.under dir), by simp only [flat, onFile_some h],
    held_of_get? (SortedMap.get?_erase m _)⟩
  remove_none {name m} h := ⟨m, by simp only [flat, onFile_none h], rfl⟩
  read_some {name m bs} h := ⟨m, by simp only [flat, onFile_some h], rfl⟩
  read_none {name m} h := ⟨m, by simp only [flat, onFile_none h], rfl⟩

end FileSystem

end SecureUpdate
