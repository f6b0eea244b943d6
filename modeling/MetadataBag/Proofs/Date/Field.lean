import Mathlib.Algebra.Group.Nat.Defs
import Mathlib.Data.List.Basic
import Mathlib.Tactic.Lemma
import Mathlib.Tactic.SplitIfs
import MetadataBag.Date.Normalizer

/-!
Fields of dates and times as they are written: decimal digits with leading zeros. Reading a
field looks no further than its width, and what is written is read back.
-/

namespace MetadataBag

/-! ### Digits -/

lemma Text.digit?_digitChar {n : Nat} (h : n < 10) : Text.digit? (Nat.digitChar n) = some n := by
  have hall : ∀ n < 10, Text.digit? (Nat.digitChar n) = some n := by decide
  exact hall n h

@[simp] lemma length_decimal (width n : Nat) : (decimal width n).length = width := by
  induction width generalizing n with
  | zero => rfl
  | succ width ih => rw [decimal, List.length_append, ih, List.length_singleton]

lemma isDigit_of_mem_decimal {width n : Nat} {c : Char} (h : c ∈ decimal width n) :
    Text.isDigit c := by
  induction width generalizing n with
  | zero => cases h
  | succ width ih =>
    rw [decimal, List.mem_append, List.mem_singleton] at h
    rcases h with h | rfl
    · exact ih h
    · rw [Text.isDigit, Text.digit?_digitChar (Nat.mod_lt n (by decide))]
      rfl

lemma number_decimal (width n : Nat) : Text.number (decimal width n) = n % 10 ^ width := by
  induction width generalizing n with
  | zero => exact (Nat.mod_one n).symm
  | succ width ih =>
    rw [decimal, Text.number_concat, ih, Text.digit?_digitChar (Nat.mod_lt n (by decide)),
      Option.getD_some, Nat.pow_succ, Nat.mul_comm _ 10, Nat.mod_mul, Nat.add_comm]

/-! ### Shapes -/

lemma readShape_append {ks : List DigitClass} {cs : List Char} (h : ks.length ≤ cs.length)
    (rest : List Char) :
    readShape ks (cs ++ rest) = (readShape ks cs).map fun r => (r.1, r.2 ++ rest) := by
  induction ks generalizing cs with
  | nil => rfl
  | cons k ks ih =>
    obtain _ | ⟨c, cs⟩ := cs
    · cases h
    rw [List.cons_append, readShape, readShape, ih (Nat.le_of_succ_le_succ h)]
    cases k.holds c <;> simp [Function.comp_def]

lemma readShape_any {cs : List Char} (h : ∀ c ∈ cs, Text.isDigit c) :
    readShape (List.replicate cs.length .any) cs = some (cs, []) := by
  induction cs with
  | nil => rfl
  | cons c cs ih =>
    have hc : DigitClass.any.holds c = true := h c List.mem_cons_self
    rw [List.length_cons, List.replicate_succ, readShape, if_pos hc,
      ih fun x hx => h x (List.mem_cons_of_mem c hx), Option.map_some]

/-! ### Fields -/

namespace Field

def width : Field → Nat
  | .year => 4
  | _ => 2

def Range (f : Field) (n : Nat) : Prop :=
  match f with
  | .year => n < 10000
  | .month => 1 ≤ n ∧ n ≤ 12
  | .day => 1 ≤ n ∧ n ≤ 31
  | .hour => n < 24
  | .minute => n < 60
  | .second => n < 60

lemma length_le_width {f : Field} {ks : List DigitClass} (h : ks ∈ f.shapes) :
    ks.length ≤ f.width := by
  have hall : ∀ ks ∈ f.shapes, ks.length ≤ f.width := by cases f <;> decide
  exact hall ks h

lemma findSome?_readShape_append {shapes : List (List DigitClass)} {cs : List Char}
    (h : ∀ ks ∈ shapes, ks.length ≤ cs.length) (rest : List Char) :
    shapes.findSome? (readShape · (cs ++ rest)) =
      (shapes.findSome? (readShape · cs)).map fun r => (r.1, r.2 ++ rest) := by
  induction shapes with
  | nil => rfl
  | cons ks shapes ih =>
    rw [List.findSome?_cons, List.findSome?_cons, readShape_append (h ks List.mem_cons_self)]
    cases readShape ks cs with
    | some r => rfl
    | none => exact ih fun ks hks => h ks (List.mem_cons_of_mem _ hks)

/-- What follows a field's width has no part in reading it. -/
lemma read_append (f : Field) {cs : List Char} (h : f.width ≤ cs.length) (rest : List Char) :
    f.read (cs ++ rest) = (f.read cs).map fun r => (r.1, r.2 ++ rest) := by
  have hshapes : ∀ ks ∈ f.shapes, ks.length ≤ cs.length := fun ks hks =>
    Nat.le_trans (length_le_width hks) h
  rw [read, read, findSome?_readShape_append hshapes]
  simp [Function.comp_def]

lemma read_year {n : Nat} (h : n < 10000) : year.read (decimal 4 n) = some (n, []) := by
  have hshape : readShape [.any, .any, .any, .any] (decimal 4 n) = some (decimal 4 n, []) := by
    have hdigits : ∀ c ∈ decimal 4 n, Text.isDigit c := fun _ => isDigit_of_mem_decimal
    have hread := readShape_any hdigits
    rwa [length_decimal] at hread
  have hnumber : Text.number (decimal 4 n) = n := by
    rw [number_decimal]
    exact Nat.mod_eq_of_lt h
  rw [read, shapes, List.findSome?_cons, hshape, Option.map_some, hnumber]

lemma read_decimal {f : Field} {n : Nat} (h : f.Range n) :
    f.read (decimal f.width n) = some (n, []) := by
  have hmonth : ∀ n ≤ 12, 1 ≤ n → month.read (decimal 2 n) = some (n, []) := by decide
  have hday : ∀ n ≤ 31, 1 ≤ n → day.read (decimal 2 n) = some (n, []) := by decide
  have hhour : ∀ n < 24, hour.read (decimal 2 n) = some (n, []) := by decide
  have hminute : ∀ n < 60, minute.read (decimal 2 n) = some (n, []) := by decide
  have hsecond : ∀ n < 60, second.read (decimal 2 n) = some (n, []) := by decide
  cases f with
  | year => exact read_year h
  | month => exact hmonth n h.2 h.1
  | day => exact hday n h.2 h.1
  | hour => exact hhour n h
  | minute => exact hminute n h
  | second => exact hsecond n h

/-- What a field is written as it is read as, whatever follows. -/
lemma read_decimal_append {f : Field} {n : Nat} (h : f.Range n) (rest : List Char) :
    f.read (decimal f.width n ++ rest) = some (n, rest) := by
  rw [read_append f (Nat.le_of_eq (length_decimal _ _).symm), read_decimal h]
  rfl

end Field

/-! ### Items -/

variable {is : List Item} {p : Parts} {cs : List Char}

lemma readItems_field {f : Field} {n : Nat} (h : f.Range n) :
    readItems (.field f :: is) p (decimal f.width n ++ cs) = readItems is (p.set f n) cs := by
  rw [readItems, Item.read, Field.read_decimal_append h]
  rfl

lemma readItems_literal (c : Char) :
    readItems (.literal c :: is) p (c :: cs) = readItems is p cs := by
  simp [readItems, Item.read]

/-- An offset that is no capital `Z` is read as its text. -/
lemma Item.read_offset_of_ne {c : Char} (h : c ≠ 'Z') (p : Parts) (cs : List Char) :
    Item.read .offset p (c :: cs) = (readOffsetText (c :: cs)).map
      fun r => ({ p with offset := some r.1.micros? }, r.2) := by
  rw [Item.read]
  intro rest heq
  exact absurd (List.cons.inj heq).1 h

/-! ### Dates and times of day -/

def Date.chars (separator : Char) (d : Date) : List Char :=
  decimal 4 d.year ++ separator :: (decimal 2 d.month ++ separator :: decimal 2 d.day)

def TimeOfDay.chars (t : TimeOfDay) : List Char :=
  decimal 2 t.hour ++ ':' :: (decimal 2 t.minute ++ ':' :: decimal 2 t.second)

def Parts.setDate (p : Parts) (d : Date) : Parts :=
  { p with year := d.year, month := d.month, day := d.day }

def Parts.setTime (p : Parts) (t : TimeOfDay) : Parts :=
  { p with hour := t.hour, minute := t.minute, second := t.second }

lemma Date.day_le_31 (d : Date) : d.day ≤ 31 := by
  refine Nat.le_trans d.day_le ?_
  unfold daysInMonth
  split_ifs <;> decide

lemma readItems_date (separator : Char) (d : Date) :
    readItems (Format.date separator ++ is) p (d.chars separator ++ cs) =
      readItems is (p.setDate d) cs := by
  have hyear : Field.year.Range d.year := Nat.lt_succ_of_le d.year_le
  have hmonth : Field.month.Range d.month := ⟨d.month_pos, d.month_le⟩
  have hday : Field.day.Range d.day := ⟨d.day_pos, d.day_le_31⟩
  have hchars : d.chars separator ++ cs =
      decimal Field.year.width d.year ++ separator ::
        (decimal Field.month.width d.month ++ separator ::
          (decimal Field.day.width d.day ++ cs)) := by
    simp [Date.chars, Field.width]
  rw [hchars]
  simp only [Format.date, List.cons_append, List.nil_append]
  rw [readItems_field hyear, readItems_literal, readItems_field hmonth, readItems_literal,
    readItems_field hday]
  rfl

lemma readItems_time (t : TimeOfDay) :
    readItems (Format.time ++ is) p (t.chars ++ cs) = readItems is (p.setTime t) cs := by
  have hhour : Field.hour.Range t.hour := t.hour_lt
  have hminute : Field.minute.Range t.minute := t.minute_lt
  have hsecond : Field.second.Range t.second := t.second_lt
  have hchars : t.chars ++ cs =
      decimal Field.hour.width t.hour ++ ':' ::
        (decimal Field.minute.width t.minute ++ ':' ::
          (decimal Field.second.width t.second ++ cs)) := by
    simp [TimeOfDay.chars, Field.width]
  rw [hchars]
  simp only [Format.time, List.cons_append, List.nil_append]
  rw [readItems_field hhour, readItems_literal, readItems_field hminute, readItems_literal,
    readItems_field hsecond]
  rfl

/-- The fields of a date and a time of day name them, to the second. -/
lemma Parts.civil?_setTime_setDate (p : Parts) (d : Date) (t : TimeOfDay) :
    ((p.setDate d).setTime t).civil? = some ⟨d, t.truncate⟩ := by
  have hdate : Date.of? d.year d.month d.day = some d := Date.of?_self d
  have htime : TimeOfDay.of? t.hour t.minute t.second = some t.truncate :=
    TimeOfDay.of?_self t.truncate
  simp only [Parts.civil?, Parts.setTime, Parts.setDate, hdate, htime]
  rfl

end MetadataBag
