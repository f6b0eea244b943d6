import Mathlib.Order.Monotone.Basic
import Mathlib.Tactic.Lemma
import MetadataBag.Date.Civil

/-!
The calendar as a line. Days have the numbers below `calendarDays`, moments those below
`calendarMicros`; every number below the bound belongs to one day or moment, and the searches
that turn numbers into dates find it.
-/

namespace MetadataBag

def calendarDays : Nat := 3652059

def calendarMicros : Nat := calendarDays * TimeOfDay.dayMicros

/-! ### Years and months -/

lemma daysBeforeMonth_succ {year month : Nat} (h : 1 ≤ month) :
    daysBeforeMonth year (month + 1) = daysBeforeMonth year month + daysInMonth year month := by
  obtain ⟨m, rfl⟩ := Nat.exists_eq_add_of_le' h
  rfl

lemma daysBeforeMonth_mono (year : Nat) : Monotone (daysBeforeMonth year) := by
  refine monotone_nat_of_le_succ fun month => ?_
  cases month with
  | zero => exact Nat.le_refl 0
  | succ m =>
    rw [daysBeforeMonth_succ (Nat.le_add_left 1 m)]
    exact Nat.le_add_right _ _

lemma daysBeforeMonth_thirteen (year : Nat) :
    daysBeforeMonth year 13 = if isLeap year then 366 else 365 := by
  simp only [daysBeforeMonth, daysInMonth]
  cases isLeap year <;> rfl

lemma isLeap_iff (year : Nat) :
    isLeap year = true ↔ 4 ∣ year ∧ (¬ 100 ∣ year ∨ 400 ∣ year) := by
  simp [isLeap, Nat.dvd_iff_mod_eq_zero]

/-- A year is as long as its months. -/
lemma daysBeforeYear_succ {year : Nat} (h : 1 ≤ year) :
    daysBeforeYear (year + 1) = daysBeforeYear year + daysBeforeMonth year 13 := by
  obtain ⟨y, rfl⟩ := Nat.exists_eq_add_of_le' h
  have h100 : 100 ∣ y + 1 → 4 ∣ y + 1 := Nat.dvd_trans (by decide)
  have h400 : 400 ∣ y + 1 → 100 ∣ y + 1 := Nat.dvd_trans (by decide)
  have hle : y / 100 ≤ y / 4 := Nat.div_le_div_left (by decide) (by decide)
  simp only [daysBeforeMonth_thirteen, daysBeforeYear, Nat.add_sub_cancel, isLeap_iff, Nat.succ_div]
  -- by the rules for leap years, the strongest first
  by_cases d400 : 400 ∣ y + 1
  · simp only [d400, h400 d400, h100 (h400 d400), if_true, or_true, and_true]
    omega
  by_cases d100 : 100 ∣ y + 1
  · simp only [d400, d100, h100 d100, if_true, if_false, not_true, or_self, and_false]
    omega
  by_cases d4 : 4 ∣ y + 1
  · simp only [d400, d100, d4, if_true, if_false, not_false_iff, true_or, and_true]
    omega
  · simp only [d400, d100, d4, if_false, false_and]
    omega

lemma daysBeforeYear_mono : Monotone daysBeforeYear := by
  refine monotone_nat_of_le_succ fun year => ?_
  rcases Nat.eq_zero_or_pos year with rfl | h
  · exact Nat.le_refl 0
  · rw [daysBeforeYear_succ h]
    exact Nat.le_add_right _ _

namespace Date

def dayOfYear (d : Date) : Nat := daysBeforeMonth d.year d.month + (d.day - 1)

lemma dayOfYear_lt (d : Date) : d.dayOfYear < daysBeforeMonth d.year (d.month + 1) := by
  rw [daysBeforeMonth_succ d.month_pos, dayOfYear]
  have := d.day_pos
  have := d.day_le
  omega

lemma dayNumber_eq (d : Date) : d.dayNumber = daysBeforeYear d.year + d.dayOfYear :=
  Nat.add_assoc _ _ _

lemma dayNumber_lt_succ (d : Date) : d.dayNumber < daysBeforeYear (d.year + 1) := by
  have hyear : daysBeforeMonth d.year (d.month + 1) ≤ daysBeforeMonth d.year 13 :=
    daysBeforeMonth_mono d.year (Nat.succ_le_succ d.month_le)
  rw [daysBeforeYear_succ d.year_pos, dayNumber_eq]
  have := d.dayOfYear_lt
  omega

lemma dayNumber_lt (d : Date) : d.dayNumber < calendarDays :=
  calc d.dayNumber < daysBeforeYear (d.year + 1) := d.dayNumber_lt_succ
    _ ≤ daysBeforeYear 10000 := daysBeforeYear_mono (Nat.succ_le_succ d.year_le)
    _ = calendarDays := rfl

/-! ### The searches -/

/-- The year found starts on the day or before it. -/
lemma daysBeforeYear_yearFrom_le {n year : Nat} (fuel : Nat) (h : daysBeforeYear year ≤ n) :
    daysBeforeYear (yearFrom n year fuel) ≤ n := by
  induction fuel generalizing year with
  | zero => exact h
  | succ fuel ih =>
    rw [yearFrom]
    split
    · exact h
    · rename_i hnext
      exact ih (Nat.le_of_not_lt hnext)

lemma le_yearFrom (n year fuel : Nat) : year ≤ yearFrom n year fuel := by
  induction fuel generalizing year with
  | zero => exact Nat.le_refl year
  | succ fuel ih =>
    rw [yearFrom]
    split
    · exact Nat.le_refl year
    · exact Nat.le_of_succ_le (ih (year + 1))

/-- The next year starts after the day, if the search goes far enough. -/
lemma lt_daysBeforeYear_yearFrom {n year fuel : Nat} (hle : daysBeforeYear year ≤ n)
    (hlt : n < daysBeforeYear (year + fuel)) :
    n < daysBeforeYear (yearFrom n year fuel + 1) := by
  induction fuel generalizing year with
  | zero => exact absurd hlt (Nat.not_lt.mpr hle)
  | succ fuel ih =>
    rw [yearFrom]
    split
    · assumption
    · rename_i hnext
      exact ih (Nat.le_of_not_lt hnext) (by rwa [Nat.add_assoc, Nat.add_comm 1])

lemma daysBeforeYear_start_le (n : Nat) : daysBeforeYear (n / 366 + 1) ≤ n := by
  simp only [daysBeforeYear]
  omega

/-- The search for a year goes far enough for all days of the calendar. -/
lemma lt_daysBeforeYear_stop {n : Nat} (h : n < calendarDays) :
    n < daysBeforeYear (n / 366 + 1 + 24) := by
  simp only [daysBeforeYear, calendarDays] at h ⊢
  omega

lemma daysBeforeMonth_monthOf_le (year n month : Nat) :
    daysBeforeMonth year (monthOf year n month) ≤ n := by
  induction month with
  | zero => exact Nat.zero_le n
  | succ month ih =>
    rw [monthOf]
    split
    · assumption
    · exact ih

lemma monthOf_pos (year n month : Nat) : 1 ≤ monthOf year n month := by
  induction month with
  | zero => exact Nat.le_refl 1
  | succ month ih =>
    rw [monthOf]
    split
    · exact Nat.le_add_left 1 month
    · exact ih

lemma monthOf_le (year n : Nat) {month : Nat} (h : 1 ≤ month) : monthOf year n month ≤ month := by
  induction month with
  | zero => exact absurd h (by decide)
  | succ month ih =>
    rw [monthOf]
    split
    · exact Nat.le_refl _
    · rcases Nat.eq_zero_or_pos month with rfl | hpos
      · exact Nat.le_refl 1
      · exact Nat.le_succ_of_le (ih hpos)

/-- No later month starts on the day or before it. -/
lemma lt_daysBeforeMonth_of_monthOf_lt {year n month m : Nat} (hm : monthOf year n month < m)
    (hmonth : m ≤ month) : n < daysBeforeMonth year m := by
  induction month with
  | zero => exact absurd (Nat.lt_of_lt_of_le hm hmonth) (by simp [monthOf])
  | succ month ih =>
    rw [monthOf] at hm
    split at hm
    · omega
    · rename_i hafter
      rcases Nat.le_succ_iff.mp hmonth with hle | rfl
      · exact ih hm hle
      · exact Nat.lt_of_not_le hafter

lemma yearFrom_dayNumber (d : Date) :
    yearFrom d.dayNumber (d.dayNumber / 366 + 1) 24 = d.year := by
  have hlow := daysBeforeYear_yearFrom_le 24 (daysBeforeYear_start_le d.dayNumber)
  have hhigh := lt_daysBeforeYear_yearFrom (daysBeforeYear_start_le d.dayNumber)
    (lt_daysBeforeYear_stop d.dayNumber_lt)
  have hstart : daysBeforeYear d.year ≤ d.dayNumber := by
    rw [dayNumber_eq]
    exact Nat.le_add_right _ _
  have := daysBeforeYear_mono.reflect_lt (Nat.lt_of_le_of_lt hlow d.dayNumber_lt_succ)
  have := daysBeforeYear_mono.reflect_lt (Nat.lt_of_le_of_lt hstart hhigh)
  omega

lemma monthOf_dayOfYear (d : Date) : monthOf d.year d.dayOfYear 12 = d.month := by
  have hstart : daysBeforeMonth d.year d.month ≤ d.dayOfYear := Nat.le_add_right _ _
  have := (daysBeforeMonth_mono d.year).reflect_lt
    (Nat.lt_of_le_of_lt (daysBeforeMonth_monthOf_le d.year d.dayOfYear 12) d.dayOfYear_lt)
  by_contra hne
  have := lt_daysBeforeMonth_of_monthOf_lt
    (show monthOf d.year d.dayOfYear 12 < d.month by omega) d.month_le
  omega

/-! ### Days -/

lemma of?_eq_some {year month day : Nat} {d : Date} (h : of? year month day = some d) :
    d.year = year ∧ d.month = month ∧ d.day = day := by
  rw [of?] at h
  split at h
  · cases h
    exact ⟨rfl, rfl, rfl⟩
  · cases h

@[simp] lemma ofDayNumber?_dayNumber (d : Date) : ofDayNumber? d.dayNumber = some d := by
  have hrest : d.dayNumber - daysBeforeYear d.year = d.dayOfYear := by
    rw [dayNumber_eq, Nat.add_sub_cancel_left]
  have hday : d.dayOfYear - daysBeforeMonth d.year d.month + 1 = d.day := by
    rw [dayOfYear, Nat.add_sub_cancel_left, Nat.sub_add_cancel d.day_pos]
  simp only [ofDayNumber?, yearFrom_dayNumber, hrest, monthOf_dayOfYear, hday, of?_self]

lemma dayNumber_injective : Function.Injective dayNumber := fun d d' h => by
  have hsome : some d = some d' := by
    rw [← ofDayNumber?_dayNumber d, ← ofDayNumber?_dayNumber d', h]
  exact Option.some.inj hsome

lemma dayNumber_of_ofDayNumber? {n : Nat} {d : Date} (h : ofDayNumber? n = some d) :
    d.dayNumber = n := by
  obtain ⟨hyear, hmonth, hday⟩ := of?_eq_some h
  have hn := daysBeforeYear_yearFrom_le 24 (daysBeforeYear_start_le n)
  have hrest := daysBeforeMonth_monthOf_le d.year (n - daysBeforeYear d.year) 12
  rw [← hyear] at hn hmonth hday
  rw [← hmonth] at hrest hday
  rw [dayNumber, hday]
  omega

lemma exists_ofDayNumber? {n : Nat} (h : n < calendarDays) : ∃ d, ofDayNumber? n = some d := by
  have hlow := daysBeforeYear_yearFrom_le 24 (daysBeforeYear_start_le n)
  have hhigh := lt_daysBeforeYear_yearFrom (daysBeforeYear_start_le n) (lt_daysBeforeYear_stop h)
  have hpos : 1 ≤ yearFrom n (n / 366 + 1) 24 :=
    Nat.le_trans (Nat.le_add_left 1 _) (le_yearFrom n _ 24)
  unfold ofDayNumber?
  generalize yearFrom n (n / 366 + 1) 24 = year at hlow hhigh hpos ⊢
  have hyear : year ≤ 9999 := by
    have hend : calendarDays = daysBeforeYear 10000 := rfl
    rw [hend] at h
    exact Nat.le_of_lt_succ (daysBeforeYear_mono.reflect_lt (Nat.lt_of_le_of_lt hlow h))
  rw [daysBeforeYear_succ hpos] at hhigh
  have hfirst := daysBeforeMonth_monthOf_le year (n - daysBeforeYear year) 12
  have hmpos := monthOf_pos year (n - daysBeforeYear year) 12
  have hmle := monthOf_le year (n - daysBeforeYear year) (show 1 ≤ 12 by decide)
  -- the month after it starts later: by the search, or as the first month of the next year
  have hlast : n - daysBeforeYear year <
      daysBeforeMonth year (monthOf year (n - daysBeforeYear year) 12 + 1) := by
    rcases Nat.lt_or_eq_of_le hmle with hlt | heq
    · exact lt_daysBeforeMonth_of_monthOf_lt (Nat.lt_succ_self _) hlt
    · rw [heq]
      exact Nat.sub_lt_left_of_lt_add hlow hhigh
  rw [daysBeforeMonth_succ hmpos] at hlast
  refine ⟨_, dif_pos ⟨hpos, hyear, hmpos, hmle, Nat.le_add_left 1 _, ?_⟩⟩
  omega

end Date

/-! ### Moments -/

namespace TimeOfDay

lemma micros_lt (t : TimeOfDay) : t.micros < dayMicros := by
  have := t.hour_lt
  have := t.minute_lt
  have := t.second_lt
  have := t.micro_lt
  simp only [micros, dayMicros]
  omega

lemma ofMicros_micros (day : Nat) (t : TimeOfDay) :
    ofMicros (day * dayMicros + t.micros) = t := by
  obtain ⟨h, m, s, u, hh, hm, hs, hu⟩ := t
  simp only [ofMicros, micros, dayMicros, mk.injEq]
  omega

lemma micros_ofMicros (n : Nat) : (ofMicros n).micros = n % dayMicros := by
  simp only [ofMicros, micros, dayMicros]
  omega

lemma micros_truncate (t : TimeOfDay) : t.truncate.micros = t.micros / 1000000 * 1000000 := by
  have := t.micro_lt
  simp only [truncate, micros]
  omega

end TimeOfDay

namespace DateTime

lemma micros_lt (t : DateTime) : t.micros < calendarMicros := by
  have := t.date.dayNumber_lt
  have := t.time.micros_lt
  simp only [micros, calendarMicros, calendarDays, TimeOfDay.dayMicros] at *
  omega

@[simp] lemma ofMicros?_micros (t : DateTime) : ofMicros? t.micros = some t := by
  have hday : t.micros / TimeOfDay.dayMicros = t.date.dayNumber := by
    have := t.time.micros_lt
    simp only [micros, TimeOfDay.dayMicros] at *
    omega
  rw [ofMicros?, if_neg (by omega), Int.toNat_natCast, hday, Date.ofDayNumber?_dayNumber,
    Option.map_some, micros, TimeOfDay.ofMicros_micros]

lemma micros_injective : Function.Injective micros := fun t t' h => by
  have hsome : some t = some t' := by
    rw [← ofMicros?_micros t, ← ofMicros?_micros t', h]
  exact Option.some.inj hsome

lemma micros_of_ofMicros? {n : Int} {t : DateTime} (h : ofMicros? n = some t) :
    (t.micros : Int) = n := by
  rw [ofMicros?] at h
  split at h
  · cases h
  obtain ⟨d, hd, rfl⟩ := Option.map_eq_some_iff.mp h
  have hday := Date.dayNumber_of_ofDayNumber? hd
  rw [micros, hday, TimeOfDay.micros_ofMicros, Nat.div_add_mod']
  omega

/-- The numbers of moments are those from the first midnight to the last. -/
lemma exists_ofMicros?_iff {n : Int} :
    (∃ t, ofMicros? n = some t) ↔ 0 ≤ n ∧ n < calendarMicros := by
  constructor
  · rintro ⟨t, ht⟩
    have := micros_of_ofMicros? ht
    have := t.micros_lt
    omega
  · rintro ⟨hpos, hlt⟩
    have hday : n.toNat / TimeOfDay.dayMicros < calendarDays := by
      simp only [calendarMicros, calendarDays, TimeOfDay.dayMicros] at *
      omega
    obtain ⟨d, hd⟩ := Date.exists_ofDayNumber? hday
    refine ⟨⟨d, TimeOfDay.ofMicros n.toNat⟩, ?_⟩
    rw [ofMicros?, if_neg (Int.not_lt.mpr hpos), hd, Option.map_some]

lemma micros_truncate (t : DateTime) : t.truncate.micros = t.micros / 1000000 * 1000000 := by
  simp only [micros, truncate, TimeOfDay.micros_truncate, TimeOfDay.dayMicros]
  omega

end DateTime

end MetadataBag
