import Mathlib.Data.List.Forall2
import SecureUpdate.Json.Canonical
import SecureUpdate.Proofs.Json.Order

/-!
Unique readability of the canonical form. Where every run of ordinary characters is its own normal
form, what a value begins its text with tells the value: a string ends at the first quote that no
backslash stands before, a number where no digit follows, a list or an object at the bracket that
no comma replaces. The members of an object are found in the order of their written names, and that
order determines them because no two names are written alike.

Main statement: `write_injective`.
-/

namespace SecureUpdate.Json

variable {normalize : List Char → List Char} {v w : Json}

/-! ### Values and their parts -/

/-- Something holds of every value if it holds of a list whenever it holds of the items, and of an
object whenever it holds of what the members hold. -/
@[elab_as_elim]
theorem of_parts {P : Json → Prop} (null : P .null) (bool : ∀ b, P (.bool b))
    (int : ∀ n, P (.int n)) (real : ∀ x, P (.real x)) (str : ∀ s, P (.str s))
    (arr : ∀ items, (∀ v ∈ items, P v) → P (.arr items))
    (obj : ∀ members, (∀ m ∈ members, P m.2) → P (.obj members)) (v : Json) : P v := by
  -- the recursor also has a motive for lists of items, for lists of members and for a single member
  refine @Json.rec P (fun items => ∀ v ∈ items, P v) (fun members => ∀ m ∈ members, P m.2)
    (fun m => P m.2) null bool int real str arr obj nofun ?_ nofun ?_ (fun _ _ h => h) v
  · exact fun _ _ hv hvs => List.forall_mem_cons.2 ⟨hv, hvs⟩
  · exact fun _ _ hm hms => List.forall_mem_cons.2 ⟨hm, hms⟩

mutual

/-- The strings and the names of members in a value. -/
def strings : Json → List String
  | .str s => [s]
  | .arr items => itemStrings items
  | .obj members => memberStrings members
  | _ => []

def itemStrings : List Json → List String
  | [] => []
  | v :: vs => strings v ++ itemStrings vs

def memberStrings : List (String × Json) → List String
  | [] => []
  | (name, v) :: ms => name :: strings v ++ memberStrings ms

end

theorem mem_itemStrings_iff {items : List Json} {s : String} :
    s ∈ itemStrings items ↔ ∃ v ∈ items, s ∈ v.strings := by
  induction items with
  | nil => simp [itemStrings]
  | cons v vs ih => simp [itemStrings, ih]

theorem mem_memberStrings_iff {members : List (String × Json)} {s : String} :
    s ∈ memberStrings members ↔ ∃ m ∈ members, s = m.1 ∨ s ∈ m.2.strings := by
  induction members with
  | nil => simp [memberStrings]
  | cons m ms ih => simp [memberStrings, ih, or_assoc]

/-! ### Strings -/

/-- The runs of characters between special ones; `run` is the run so far, last character first. -/
def runs (run : List Char) : List Char → List (List Char)
  | [] => [run.reverse]
  | c :: cs => if isSpecial c then run.reverse :: runs [] cs else runs (c :: run) cs

/-- Whether every run of a text is its own normal form. -/
def NormalText (normalize : List Char → List Char) (s : String) : Prop :=
  ∀ run ∈ runs [] s.toList, normalize run = run

/-- Whether every run in the strings and the names of a value is its own normal form. -/
def Normal (normalize : List Char → List Char) (v : Json) : Prop :=
  ∀ s ∈ v.strings, NormalText normalize s

instance {s : String} : Decidable (NormalText normalize s) := by
  unfold NormalText; infer_instance

instance : Decidable (Normal normalize v) := by
  unfold Normal; infer_instance

theorem Normal.item {items : List Json} (h : Normal normalize (.arr items)) (hv : v ∈ items) :
    v.Normal normalize := by
  intro s hs
  exact h s (by rw [strings]; exact mem_itemStrings_iff.2 ⟨v, hv, hs⟩)

theorem Normal.member {members : List (String × Json)} (h : Normal normalize (.obj members))
    {m : String × Json} (hm : m ∈ members) : NormalText normalize m.1 ∧ m.2.Normal normalize := by
  have hmem : ∀ s, s = m.1 ∨ s ∈ m.2.strings → NormalText normalize s := by
    intro s hs
    exact h s (by rw [strings]; exact mem_memberStrings_iff.2 ⟨m, hm, hs⟩)
  exact ⟨hmem m.1 (.inl rfl), fun s hs => hmem s (.inr hs)⟩

/-- A character of a string as the canonical form writes it. -/
def writeChar (c : Char) : List Char := if isSpecial c then writeSpecial c else [c]

/-- Only a quote and a backslash are not written as they are. -/
theorem writeChar_cases (c : Char) :
    (writeChar c = [c] ∧ c ≠ '"' ∧ c ≠ '\\') ∨ writeChar c = ['\\', c] := by
  by_cases hquote : c = '"'
  · subst hquote
    exact .inr (by decide)
  · by_cases hslash : c = '\\'
    · subst hslash
      exact .inr (by decide)
    · refine .inl ⟨?_, hquote, hslash⟩
      simp [writeChar, isSpecial, writeSpecial, hquote, hslash]

theorem writeRuns_of_normal {run cs : List Char} (h : ∀ r ∈ runs run cs, normalize r = r) :
    writeRuns normalize run cs = run.reverse ++ cs.flatMap writeChar := by
  induction cs generalizing run with
  | nil => simpa [runs, writeRuns] using h
  | cons c cs ih =>
    rw [runs] at h
    rw [writeRuns, List.flatMap_cons, writeChar]
    split at h
    · rename_i hspecial
      obtain ⟨hrun, hrest⟩ := List.forall_mem_cons.1 h
      rw [if_pos hspecial, if_pos hspecial, hrun, ih hrest]
      simp
    · rename_i hordinary
      rw [if_neg hordinary, if_neg hordinary, ih h]
      simp

theorem writeString_of_normal {s : String} (h : NormalText normalize s) :
    writeString normalize s = '"' :: s.toList.flatMap writeChar ++ ['"'] := by
  rw [writeString, writeRuns_of_normal h]
  rfl

/-- No character is written with a quote first. -/
theorem quote_ne_writeChar {c : Char} {r r' : List Char} : '"' :: r ≠ writeChar c ++ r' := by
  intro h
  rcases writeChar_cases c with ⟨hc, hquote, -⟩ | hc
  · rw [hc] at h
    exact hquote (List.cons.inj h).1.symm
  · rw [hc] at h
    exact absurd (List.cons.inj h).1 (by decide)

/-- The first character tells whether a backslash was put before another one. -/
theorem writeChar_unique {c d : Char} {r r' : List Char}
    (h : writeChar c ++ r = writeChar d ++ r') : c = d ∧ r = r' := by
  rcases writeChar_cases c with ⟨hc, -, hc'⟩ | hc <;>
    rcases writeChar_cases d with ⟨hd, -, hd'⟩ | hd <;> rw [hc, hd] at h
  · exact List.cons.inj h
  · exact absurd (List.cons.inj h).1 hc'
  · exact absurd (List.cons.inj h).1.symm hd'
  · exact List.cons.inj (List.cons.inj h).2

/-- Characters up to the closing quote can be read back. -/
theorem flatMap_writeChar_unique {cs ds r r' : List Char}
    (h : cs.flatMap writeChar ++ '"' :: r = ds.flatMap writeChar ++ '"' :: r') :
    cs = ds ∧ r = r' := by
  induction cs generalizing ds with
  | nil =>
    cases ds with
    | nil => exact ⟨rfl, (List.cons.inj h).2⟩
    | cons d ds =>
      rw [List.flatMap_cons, List.append_assoc] at h
      exact absurd h quote_ne_writeChar
  | cons c cs ih =>
    rw [List.flatMap_cons, List.append_assoc] at h
    cases ds with
    | nil => exact absurd h.symm quote_ne_writeChar
    | cons d ds =>
      rw [List.flatMap_cons, List.append_assoc] at h
      obtain ⟨rfl, hrest⟩ := writeChar_unique h
      obtain ⟨rfl, rfl⟩ := ih hrest
      exact ⟨rfl, rfl⟩

/-- A string can be read back from a text that begins with it. -/
theorem writeString_unique {s s' : String} {r r' : List Char} (hs : NormalText normalize s)
    (hs' : NormalText normalize s')
    (h : writeString normalize s ++ r = writeString normalize s' ++ r') : s = s' ∧ r = r' := by
  rw [writeString_of_normal hs, writeString_of_normal hs'] at h
  have h : s.toList.flatMap writeChar ++ '"' :: r = s'.toList.flatMap writeChar ++ '"' :: r' := by
    simpa using h
  obtain ⟨hcs, hr⟩ := flatMap_writeChar_unique h
  exact ⟨String.toList_injective hcs, hr⟩

/-! ### Numbers -/

/-- Whether a text does not go on with a digit. -/
def Detached (r : List Char) : Prop := ∀ c ∈ r.head?, c.isDigit = false

theorem detached_nil : Detached [] := nofun

theorem detached_cons {c : Char} {r : List Char} (h : c.isDigit = false) : Detached (c :: r) := by
  rintro _ ⟨⟩
  exact h

/-- Digits end where no digit follows. -/
theorem digits_unique {ds es r r' : List Char} (hds : ∀ c ∈ ds, c.isDigit = true)
    (hes : ∀ c ∈ es, c.isDigit = true) (hr : Detached r) (hr' : Detached r')
    (h : ds ++ r = es ++ r') : ds = es ∧ r = r' := by
  induction ds generalizing es with
  | nil =>
    cases es with
    | nil => exact ⟨rfl, h⟩
    | cons e es =>
      subst h
      exact absurd (hes e List.mem_cons_self) (by simp [hr e rfl])
  | cons d ds ih =>
    cases es with
    | nil =>
      subst h
      exact absurd (hds d List.mem_cons_self) (by simp [hr' d rfl])
    | cons e es =>
      obtain ⟨rfl, hrest⟩ := List.cons.inj h
      obtain ⟨rfl, rfl⟩ := ih (fun c hc => hds c (List.mem_cons_of_mem _ hc))
        (fun c hc => hes c (List.mem_cons_of_mem _ hc)) hrest
      exact ⟨rfl, rfl⟩

theorem isDigit_of_mem_decimal {n : Nat} {c : Char} (h : c ∈ Text.decimal n) :
    c.isDigit = true :=
  Nat.isDigit_of_mem_toDigits (by decide) (by decide) h

theorem decimal_injective {m n : Nat} (h : Text.decimal m = Text.decimal n) : m = n := by
  calc
    m = Nat.ofDigitChars 10 (Text.decimal m) 0 := Nat.ofDigitChars_ten_toDigits.symm
    _ = Nat.ofDigitChars 10 (Text.decimal n) 0 := by rw [h]
    _ = n := Nat.ofDigitChars_ten_toDigits

theorem decimal_unique {m n : Nat} {r r' : List Char} (hr : Detached r) (hr' : Detached r')
    (h : Text.decimal m ++ r = Text.decimal n ++ r') : m = n ∧ r = r' := by
  obtain ⟨hmn, hr⟩ := digits_unique (fun _ => isDigit_of_mem_decimal)
    (fun _ => isDigit_of_mem_decimal) hr hr' h
  exact ⟨decimal_injective hmn, hr⟩

/-- The digits of a number do not start with a sign. -/
theorem decimal_ne_sign {n : Nat} {r r' : List Char} : Text.decimal n ++ r ≠ '-' :: r' := by
  intro h
  cases hdigits : Text.decimal n with
  | nil => exact Nat.toDigits_ne_nil hdigits
  | cons c cs =>
    have hc : c.isDigit = true := isDigit_of_mem_decimal (by rw [hdigits]; exact List.mem_cons_self)
    rw [hdigits] at h
    cases h
    cases hc

/-- A number can be read back from a text that begins with it and does not go on with a digit. -/
theorem writeInt_unique {m n : Int} {r r' : List Char} (hr : Detached r) (hr' : Detached r')
    (h : writeInt m ++ r = writeInt n ++ r') : m = n ∧ r = r' := by
  cases m with
  | ofNat m =>
    cases n with
    | ofNat n =>
      obtain ⟨rfl, rfl⟩ := decimal_unique hr hr' h
      exact ⟨rfl, rfl⟩
    | negSucc n => exact absurd h decimal_ne_sign
  | negSucc m =>
    cases n with
    | ofNat n => exact absurd h.symm decimal_ne_sign
    | negSucc n =>
      obtain ⟨hmn, rfl⟩ := decimal_unique hr hr' (List.cons.inj h).2
      cases hmn
      exact ⟨rfl, rfl⟩

/-! ### What a text begins with -/

/-- The character that stands for how a value is begun. -/
def mark : Json → Char
  | .null => 'n'
  | .bool _ => 'b'
  | .int _ => '0'
  | .real _ => '.'
  | .str _ => '"'
  | .arr _ => '['
  | .obj _ => '{'

/-- What a first character stands for: a number begins with a sign or a digit. -/
def markOf (c : Char) : Char :=
  if c = '-' ∨ c.isDigit then '0' else if c = 't' ∨ c = 'f' then 'b' else c

theorem write_begins {t : List Char} (h : write normalize v = some t) :
    ∃ c cs, t = c :: cs ∧ markOf c = v.mark := by
  cases v with
  | null => cases h; exact ⟨_, _, rfl, rfl⟩
  | bool b => cases b <;> (cases h; exact ⟨_, _, rfl, rfl⟩)
  | int n =>
    cases h
    cases n with
    | negSucc n => exact ⟨_, _, rfl, rfl⟩
    | ofNat n =>
      cases hdigits : Text.decimal n with
      | nil => exact absurd hdigits Nat.toDigits_ne_nil
      | cons c cs =>
        have hc : c.isDigit = true :=
          isDigit_of_mem_decimal (by rw [hdigits]; exact List.mem_cons_self)
        exact ⟨c, cs, hdigits, if_pos (.inr hc)⟩
  | real x => cases h
  | str s => cases h; exact ⟨_, _, rfl, rfl⟩
  | arr items =>
    obtain ⟨ts, -, rfl⟩ := Option.map_eq_some_iff.1 h
    exact ⟨_, _, rfl, rfl⟩
  | obj members =>
    obtain ⟨ms, -, rfl⟩ := Option.map_eq_some_iff.1 h
    exact ⟨_, _, rfl, rfl⟩

/-- Values whose texts begin alike are of one kind. -/
theorem mark_eq {t t' r r' : List Char} (hv : write normalize v = some t)
    (hw : write normalize w = some t') (h : t ++ r = t' ++ r') : v.mark = w.mark := by
  obtain ⟨c, cs, rfl, hc⟩ := write_begins hv
  obtain ⟨d, ds, rfl, hd⟩ := write_begins hw
  rw [← hc, ← hd, (List.cons.inj h).1]

/-! ### Lists -/

/-- What stands after the first of some texts with commas between them. -/
def continued : List (List Char) → List Char
  | [] => []
  | t :: ts => ',' :: t ++ continued ts

theorem separated_cons (t : List Char) (ts : List (List Char)) :
    separated (t :: ts) = t ++ continued ts := by
  induction ts generalizing t with
  | nil => simp [separated, continued]
  | cons u us ih =>
    rw [separated, ih]
    · simp [continued]
    · exact List.cons_ne_nil u us

/-- Whether each of some texts, where no digit follows it, can be told from each of some others. -/
def Separable (ts ts' : List (List Char)) : Prop :=
  ∀ t ∈ ts, ∀ t' ∈ ts', ∀ r r', Detached r → Detached r' → t ++ r = t' ++ r' → t = t' ∧ r = r'

section Lists

variable {close : Char} {ts ts' : List (List Char)} {r r' : List Char}

theorem Separable.tail {t t' : List Char} (h : Separable (t :: ts) (t' :: ts')) :
    Separable ts ts' :=
  fun u hu u' hu' => h u (List.mem_cons_of_mem _ hu) u' (List.mem_cons_of_mem _ hu')

theorem detached_continued (hdigit : close.isDigit = false) :
    Detached (continued ts ++ close :: r) := by
  cases ts with
  | nil => exact detached_cons hdigit
  | cons t ts => exact detached_cons rfl

theorem continued_unique (hdigit : close.isDigit = false) (hcomma : close ≠ ',')
    (hts : Separable ts ts') (h : continued ts ++ close :: r = continued ts' ++ close :: r') :
    ts = ts' ∧ r = r' := by
  induction ts generalizing ts' with
  | nil =>
    cases ts' with
    | nil => exact ⟨rfl, (List.cons.inj h).2⟩
    | cons t' ts' => exact absurd (List.cons.inj h).1 hcomma
  | cons t ts ih =>
    cases ts' with
    | nil => exact absurd (List.cons.inj h).1.symm hcomma
    | cons t' ts' =>
      simp only [continued, List.cons_append, List.append_assoc] at h
      obtain ⟨rfl, hrest⟩ := hts t List.mem_cons_self t' List.mem_cons_self _ _
        (detached_continued hdigit) (detached_continued hdigit) (List.cons.inj h).2
      obtain ⟨rfl, rfl⟩ := ih hts.tail hrest
      exact ⟨rfl, rfl⟩

/-- Texts with commas between them can be read back up to the closing bracket, if none of them
begins with the bracket. -/
theorem separated_unique (hdigit : close.isDigit = false) (hcomma : close ≠ ',')
    (hts : Separable ts ts') (hopen : ∀ t ∈ ts, ∃ c cs, t = c :: cs ∧ c ≠ close)
    (hopen' : ∀ t ∈ ts', ∃ c cs, t = c :: cs ∧ c ≠ close)
    (h : separated ts ++ close :: r = separated ts' ++ close :: r') : ts = ts' ∧ r = r' := by
  cases ts with
  | nil =>
    cases ts' with
    | nil => exact ⟨rfl, (List.cons.inj h).2⟩
    | cons t' ts' =>
      obtain ⟨c, cs, rfl, hc⟩ := hopen' t' List.mem_cons_self
      rw [separated_cons] at h
      exact absurd (List.cons.inj h).1.symm hc
  | cons t ts =>
    cases ts' with
    | nil =>
      obtain ⟨c, cs, rfl, hc⟩ := hopen t List.mem_cons_self
      rw [separated_cons] at h
      exact absurd (List.cons.inj h).1 hc
    | cons t' ts' =>
      rw [separated_cons, separated_cons, List.append_assoc, List.append_assoc] at h
      obtain ⟨rfl, hrest⟩ := hts t List.mem_cons_self t' List.mem_cons_self _ _
        (detached_continued hdigit) (detached_continued hdigit) h
      obtain ⟨rfl, rfl⟩ := continued_unique hdigit hcomma hts.tail hrest
      exact ⟨rfl, rfl⟩

end Lists

/-! ### Values -/

theorem forall₂_of_writeItems {items : List Json} {ts : List (List Char)}
    (h : writeItems normalize items = some ts) :
    List.Forall₂ (fun v t => write normalize v = some t) items ts := by
  induction items generalizing ts with
  | nil =>
    cases h
    exact .nil
  | cons v vs ih =>
    obtain ⟨t, ht, hrest⟩ := Option.bind_eq_some_iff.1 h
    obtain ⟨us, hus, hts⟩ := Option.bind_eq_some_iff.1 hrest
    cases hts
    exact .cons ht (ih hus)

/-- Whether a written name and a text are those of a member. -/
def Writes (normalize : List Char → List Char) (m : String × Json) (e : String × List Char) :
    Prop :=
  e.1 = String.ofList (writeString normalize m.1) ∧ write normalize m.2 = some e.2

theorem forall₂_of_writeEach {members : List (String × Json)} {es : List (String × List Char)}
    (h : writeEach normalize members = some es) :
    List.Forall₂ (Writes normalize) members es := by
  induction members generalizing es with
  | nil =>
    cases h
    exact .nil
  | cons m ms ih =>
    obtain ⟨t, ht, hrest⟩ := Option.bind_eq_some_iff.1 h
    obtain ⟨ds, hds, hes⟩ := Option.bind_eq_some_iff.1 hrest
    cases hes
    exact .cons ⟨rfl, ht⟩ (ih hds)

/-- Whether a value can be read back from every text that begins with it, where no digit follows. -/
def Legible (normalize : List Char → List Char) (v : Json) : Prop :=
  ∀ w t t' r r', w.Normal normalize → w.Sorted → write normalize v = some t →
    write normalize w = some t' → Detached r → Detached r' → t ++ r = t' ++ r' → v = w ∧ r = r'

/-- In corresponding lists each item of the second has a counterpart in the first. -/
theorem exists_of_forall₂ {α β : Type} {R : α → β → Prop} {as : List α} {bs : List β}
    (h : List.Forall₂ R as bs) {b : β} (hb : b ∈ bs) : ∃ a ∈ as, R a b := by
  induction h with
  | nil => cases hb
  | cons hab _ ih =>
    rcases List.mem_cons.1 hb with rfl | hb
    · exact ⟨_, List.mem_cons_self, hab⟩
    · obtain ⟨a, ha, hab⟩ := ih hb
      exact ⟨a, List.mem_cons_of_mem _ ha, hab⟩

section Items

variable {items items' : List Json} {ts ts' : List (List Char)}

/-- Lists of values that are written alike are equal, if the values of the first are legible. -/
theorem items_eq (hlegible : ∀ v ∈ items, Legible normalize v)
    (hitems' : ∀ v ∈ items', v.Normal normalize ∧ v.Sorted)
    (h : List.Forall₂ (fun v t => write normalize v = some t) items ts)
    (h' : List.Forall₂ (fun v t => write normalize v = some t) items' ts) : items = items' := by
  induction items generalizing items' ts with
  | nil =>
    cases h
    cases h'
    rfl
  | cons v vs ih =>
    cases h with
    | cons hv hvs =>
    cases h' with
    | cons hw hws =>
      obtain ⟨hlegible, hrest⟩ := List.forall_mem_cons.1 hlegible
      obtain ⟨⟨hnormal, hsorted⟩, hothers⟩ := List.forall_mem_cons.1 hitems'
      obtain ⟨rfl, -⟩ := hlegible _ _ _ _ _ hnormal hsorted hv hw detached_nil detached_nil rfl
      rw [ih hrest hothers hvs hws]

theorem separable_items (hlegible : ∀ v ∈ items, Legible normalize v)
    (hitems' : ∀ v ∈ items', v.Normal normalize ∧ v.Sorted)
    (h : List.Forall₂ (fun v t => write normalize v = some t) items ts)
    (h' : List.Forall₂ (fun v t => write normalize v = some t) items' ts') : Separable ts ts' := by
  intro t ht t' ht' r r' hr hr' htext
  obtain ⟨v, hv, hwrite⟩ := exists_of_forall₂ h ht
  obtain ⟨w, hw, hwrite'⟩ := exists_of_forall₂ h' ht'
  obtain ⟨hnormal, hsorted⟩ := hitems' w hw
  obtain ⟨rfl, rfl⟩ := hlegible v hv w t t' r r' hnormal hsorted hwrite hwrite' hr hr' htext
  exact ⟨Option.some.inj (hwrite.symm.trans hwrite'), rfl⟩

/-- No value begins with the bracket that closes a list. -/
theorem items_begin (h : List.Forall₂ (fun v t => write normalize v = some t) items ts) :
    ∀ t ∈ ts, ∃ c cs, t = c :: cs ∧ c ≠ ']' := by
  intro t ht
  obtain ⟨v, -, hv⟩ := exists_of_forall₂ h ht
  obtain ⟨c, cs, rfl, hc⟩ := write_begins hv
  refine ⟨c, cs, rfl, ?_⟩
  rintro rfl
  have hmark : ']' = v.mark := hc
  cases v <;> simp [mark] at hmark

end Items

section Members

variable {members members' : List (String × Json)} {es es' : List (String × List Char)}
  {r r' : List Char}

/-- Members in the order of their names, in normal form, with what is written of them. -/
structure Written (normalize : List Char → List Char) (members : List (String × Json))
    (es : List (String × List Char)) : Prop where
  sorted : members.Pairwise fun a b => a.1 < b.1
  normal : ∀ m ∈ members, NormalText normalize m.1 ∧ m.2.Normal normalize
  values : ∀ m ∈ members, m.2.Sorted
  written : List.Forall₂ (Writes normalize) members es

/-- What is written of a member is one thing only. -/
theorem Writes.unique {m : String × Json} {e e' : String × List Char} (h : Writes normalize m e)
    (h' : Writes normalize m e') : e = e' :=
  Prod.ext (h.1.trans h'.1.symm) (Option.some.inj (h.2.symm.trans h'.2))

theorem map_fst_of_writes (h : List.Forall₂ (Writes normalize) members es) :
    es.map (·.1) = members.map fun m => String.ofList (writeString normalize m.1) := by
  induction h with
  | nil => rfl
  | cons he _ ih => rw [List.map_cons, List.map_cons, he.1, ih]

/-- No two names are written alike. -/
theorem Written.nodup (h : Written normalize members es) : (es.map (·.1)).Nodup := by
  rw [map_fst_of_writes h.written, List.Nodup, List.pairwise_map]
  -- a name in normal form is read back from what is written of it, and no name is below itself
  refine h.sorted.imp_of_mem ?_
  intro a b ha hb hlt heq
  have htext : writeString normalize a.1 ++ [] = writeString normalize b.1 ++ [] := by
    rw [String.ofList_injective heq]
  obtain ⟨hname, -⟩ := writeString_unique (h.normal a ha).1 (h.normal b hb).1 htext
  rw [hname] at hlt
  exact KeyOrder.irrefl b.1 hlt

/-- The text of a member between commas. -/
def memberText (e : String × List Char) : List Char := e.1.toList ++ ':' :: e.2

/-- The texts of the members of an object, in the order of their written names. -/
def memberTexts (es : List (String × List Char)) : List (List Char) :=
  (SortedMap.ofList es).entries.map memberText

theorem writeMembers_eq (es : List (String × List Char)) :
    writeMembers es = separated (memberTexts es) := rfl

/-- The order of the written names changes nothing about which members there are. -/
theorem Written.mem_memberTexts_iff (h : Written normalize members es) {t : List Char} :
    t ∈ memberTexts es ↔ ∃ m ∈ members, ∃ e, Writes normalize m e ∧ t = memberText e := by
  simp only [memberTexts, List.mem_map, SortedMap.mem_ofList_iff h.nodup]
  constructor
  · rintro ⟨e, he, rfl⟩
    obtain ⟨m, hm, hwrites⟩ := exists_of_forall₂ h.written he
    exact ⟨m, hm, e, hwrites, rfl⟩
  · rintro ⟨m, hm, e, he, rfl⟩
    obtain ⟨d, hd, hwrites⟩ := exists_of_forall₂ h.written.flip hm
    exact ⟨d, hd, by rw [Writes.unique hwrites he]⟩

/-- The text of a member begins with the quote of its name. -/
theorem Written.begin (h : Written normalize members es) :
    ∀ t ∈ memberTexts es, ∃ c cs, t = c :: cs ∧ c ≠ '}' := by
  intro t ht
  obtain ⟨m, -, e, he, rfl⟩ := h.mem_memberTexts_iff.1 ht
  rw [memberText, he.1, String.toList_ofList, writeString]
  exact ⟨'"', _, rfl, by decide⟩

section Legible

variable (h : Written normalize members es) (h' : Written normalize members' es')
  (hlegible : ∀ m ∈ members, Legible normalize m.2)
include h h' hlegible

/-- A member can be read back from a text that begins with it. -/
theorem memberText_unique {m m' : String × Json} {e e' : String × List Char} (hm : m ∈ members)
    (hm' : m' ∈ members') (he : Writes normalize m e) (he' : Writes normalize m' e')
    (hr : Detached r) (hr' : Detached r') (htext : memberText e ++ r = memberText e' ++ r') :
    m = m' ∧ r = r' := by
  simp only [memberText, he.1, he'.1, String.toList_ofList, List.append_assoc,
    List.cons_append] at htext
  obtain ⟨hname, hrest⟩ := writeString_unique (h.normal m hm).1 (h'.normal m' hm').1 htext
  obtain ⟨hvalue, hr⟩ := hlegible m hm m'.2 e.2 e'.2 r r' (h'.normal m' hm').2 (h'.values m' hm')
    he.2 he'.2 hr hr' (List.cons.inj hrest).2
  exact ⟨Prod.ext hname hvalue, hr⟩

theorem separable_members : Separable (memberTexts es) (memberTexts es') := by
  intro t ht t' ht' r r' hr hr' htext
  obtain ⟨m, hm, e, he, rfl⟩ := h.mem_memberTexts_iff.1 ht
  obtain ⟨m', hm', e', he', rfl⟩ := h'.mem_memberTexts_iff.1 ht'
  obtain ⟨rfl, rfl⟩ := memberText_unique h h' hlegible hm hm' he he' hr hr' htext
  exact ⟨by rw [Writes.unique he he'], rfl⟩

/-- Objects whose members are written alike have the same members. -/
theorem members_eq (htexts : memberTexts es = memberTexts es') : members = members' := by
  have hunique {m m' : String × Json} {e e' : String × List Char} (hm : m ∈ members)
      (hm' : m' ∈ members') (he : Writes normalize m e) (he' : Writes normalize m' e')
      (htext : memberText e = memberText e') : m = m' :=
    (memberText_unique h h' hlegible hm hm' he he' detached_nil detached_nil (by rw [htext])).1
  -- both lists are in order, so it is enough that they have the same members
  refine SortedMap.entries_eq_of_mem_iff h.sorted h'.sorted fun m => ⟨fun hm => ?_, fun hm' => ?_⟩
  · obtain ⟨e, -, he⟩ := exists_of_forall₂ h.written.flip hm
    have ht := h.mem_memberTexts_iff.2 ⟨m, hm, e, he, rfl⟩
    rw [htexts] at ht
    obtain ⟨m', hm', e', he', htext⟩ := h'.mem_memberTexts_iff.1 ht
    rwa [hunique hm hm' he he' htext]
  · obtain ⟨e', -, he'⟩ := exists_of_forall₂ h'.written.flip hm'
    have ht := h'.mem_memberTexts_iff.2 ⟨m, hm', e', he', rfl⟩
    rw [← htexts] at ht
    obtain ⟨m₁, hm₁, e, he, htext⟩ := h.mem_memberTexts_iff.1 ht
    rwa [← hunique hm₁ hm' he he' htext.symm]

end Legible

end Members

/-! ### Every value -/

theorem legible_arr {items : List Json} (hlegible : ∀ v ∈ items, Legible normalize v) :
    Legible normalize (.arr items) := by
  intro w t t' r r' hw hsorted ht ht' hr hr' h
  have hmark := mark_eq ht ht' h
  cases w with
  | arr items' =>
    cases hsorted with
    | arr hsorted =>
      obtain ⟨ts, hts, rfl⟩ := Option.map_eq_some_iff.1 ht
      obtain ⟨ts', hts', rfl⟩ := Option.map_eq_some_iff.1 ht'
      have hts := forall₂_of_writeItems hts
      have hts' := forall₂_of_writeItems hts'
      have hitems' : ∀ v ∈ items', v.Normal normalize ∧ v.Sorted :=
        fun v hv => ⟨hw.item hv, hsorted v hv⟩
      have h : separated ts ++ ']' :: r = separated ts' ++ ']' :: r' := by simpa using h
      obtain ⟨rfl, rfl⟩ := separated_unique (by decide) (by decide)
        (separable_items hlegible hitems' hts hts') (items_begin hts) (items_begin hts') h
      exact ⟨by rw [items_eq hlegible hitems' hts hts'], rfl⟩
  | _ => exact absurd hmark (by simp [mark])

theorem legible_obj {members : List (String × Json)}
    (hlegible : ∀ m ∈ members, Legible normalize m.2)
    (hnormal : Normal normalize (.obj members)) (hsorted : Sorted (.obj members)) :
    Legible normalize (.obj members) := by
  intro w t t' r r' hw hsorted' ht ht' hr hr' h
  have hmark := mark_eq ht ht' h
  cases w with
  | obj members' =>
    cases hsorted with
    | obj hsorted hmembers =>
      cases hsorted' with
      | obj hsorted' hmembers' =>
        obtain ⟨es, hes, rfl⟩ := Option.map_eq_some_iff.1 ht
        obtain ⟨es', hes', rfl⟩ := Option.map_eq_some_iff.1 ht'
        have hes : Written normalize members es :=
          ⟨hsorted, fun m hm => hnormal.member hm, hmembers, forall₂_of_writeEach hes⟩
        have hes' : Written normalize members' es' :=
          ⟨hsorted', fun m hm => hw.member hm, hmembers', forall₂_of_writeEach hes'⟩
        have h : separated (memberTexts es) ++ '}' :: r =
            separated (memberTexts es') ++ '}' :: r' := by
          simpa [writeMembers_eq] using h
        obtain ⟨htexts, rfl⟩ := separated_unique (by decide) (by decide)
          (separable_members hes hes' hlegible) hes.begin hes'.begin h
        exact ⟨by rw [members_eq hes hes' hlegible htexts], rfl⟩
  | _ => exact absurd hmark (by simp [mark])

/-- Every value in normal form can be read back. -/
theorem legible (v : Json) (hv : v.Normal normalize) (hsorted : v.Sorted) :
    Legible normalize v := by
  induction v using of_parts with
  | null =>
    -- here as below, the first characters leave only values of the same kind to compare with
    intro w t t' r r' hw _ ht ht' _ _ h
    have hmark := mark_eq ht ht' h
    cases w with
    | null =>
      cases ht
      cases ht'
      exact ⟨rfl, List.append_cancel_left h⟩
    | _ => exact absurd hmark (by simp [mark])
  | bool b =>
    intro w t t' r r' hw _ ht ht' _ _ h
    have hmark := mark_eq ht ht' h
    cases w with
    | bool b' =>
      cases b <;> cases b' <;> cases ht <;> cases ht'
      · exact ⟨rfl, List.append_cancel_left h⟩
      · exact absurd (List.cons.inj h).1 (by decide)
      · exact absurd (List.cons.inj h).1 (by decide)
      · exact ⟨rfl, List.append_cancel_left h⟩
    | _ => exact absurd hmark (by simp [mark])
  | int n =>
    intro w t t' r r' hw _ ht ht' hr hr' h
    have hmark := mark_eq ht ht' h
    cases w with
    | int n' =>
      cases ht
      cases ht'
      obtain ⟨rfl, rfl⟩ := writeInt_unique hr hr' h
      exact ⟨rfl, rfl⟩
    | _ => exact absurd hmark (by simp [mark])
  | real x =>
    -- the canonical form has no way to write it
    intro w t t' r r' _ _ ht
    cases ht
  | str s =>
    intro w t t' r r' hw _ ht ht' _ _ h
    have hmark := mark_eq ht ht' h
    cases w with
    | str s' =>
      cases ht
      cases ht'
      obtain ⟨rfl, rfl⟩ := writeString_unique (hv s List.mem_cons_self) (hw s' List.mem_cons_self) h
      exact ⟨rfl, rfl⟩
    | _ => exact absurd hmark (by simp [mark])
  | arr items ih =>
    cases hsorted with
    | arr hsorted => exact legible_arr fun v hmem => ih v hmem (hv.item hmem) (hsorted v hmem)
  | obj members ih =>
    refine legible_obj (fun m hm => ?_) hv hsorted
    cases hsorted with
    | obj _ hmembers => exact ih m hm (hv.member hm).2 (hmembers m hm)

/-- Two values in normal form, whose objects have their members in order, are equal if they have one
canonical form. -/
theorem write_injective {t : List Char} (hv : v.Normal normalize) (hw : w.Normal normalize)
    (hvsorted : v.Sorted) (hwsorted : w.Sorted) (ht : write normalize v = some t)
    (ht' : write normalize w = some t) : v = w :=
  (legible v hv hvsorted w t t [] [] hw hwsorted ht ht' detached_nil detached_nil rfl).1

end SecureUpdate.Json
