import MetadataBag.Proofs.Date.Canonical

/-!
Canonical texts sort as time does.

Every field of a canonical text has a fixed width, so two of them are compared as their years
are, then as their months, and so on down to the seconds. The line of microseconds is ordered in
the same way: a year ends before the next one starts, and so does a month, and a day.
-/

namespace MetadataBag

/-! ### Texts of equal length -/

/-- What follows a difference has no part in the order. -/
lemma append_lt_append {as bs : List Char} (hlength : as.length = bs.length) (h : as < bs)
    (xs ys : List Char) : as ++ xs < bs ++ ys := by
  induction as generalizing bs with
  | nil =>
    rw [List.eq_nil_of_length_eq_zero hlength.symm] at h
    exact absurd h (List.lt_irrefl _)
  | cons a as ih =>
    obtain _ | ⟨b, bs⟩ := bs
    · cases hlength
    rw [List.cons_append, List.cons_append, List.cons_lt_cons_iff]
    rcases List.cons_lt_cons_iff.mp h with hlt | ⟨rfl, hlt⟩
    · exact .inl hlt
    · exact .inr ⟨rfl, ih (Nat.succ.inj hlength) hlt⟩

lemma digitChar_lt_digitChar {n m : Nat} (h : n < m) (hm : m < 10) :
    Nat.digitChar n < Nat.digitChar m := by
  have hall : ∀ m < 10, ∀ n < m, Nat.digitChar n < Nat.digitChar m := by decide
  exact hall m hm n h

/-- Numbers of one width sort as their digits do. -/
lemma decimal_lt_decimal {width n m : Nat} (h : n < m) (hm : m < 10 ^ width) :
    decimal width n < decimal width m := by
  induction width generalizing n m with
  | zero =>
    rw [Nat.pow_zero] at hm
    omega
  | succ width ih =>
    rw [decimal, decimal]
    rcases Nat.lt_or_eq_of_le (Nat.div_le_div_right (c := 10) (Nat.le_of_lt h)) with hlt | heq
    · have htens : m / 10 < 10 ^ width := by
        rw [Nat.pow_succ] at hm
        omega
      exact append_lt_append (by simp) (ih hlt htens) _ _
    · rw [heq]
      refine List.append_left_lt (List.cons_lt_cons_iff.mpr (.inl ?_))
      exact digitChar_lt_digitChar (by omega) (Nat.mod_lt m (by decide))

/-- A field decides the order, or leaves it to what follows. -/
lemma decimal_append_lt {width n m : Nat} {xs ys : List Char} (hm : m < 10 ^ width)
    (h : n < m ∨ n = m ∧ xs < ys) : decimal width n ++ xs < decimal width m ++ ys := by
  rcases h with hlt | ⟨rfl, hlt⟩
  · exact append_lt_append (by simp) (decimal_lt_decimal hlt hm) xs ys
  · exact List.append_left_lt hlt

lemma cons_lt_cons (c : Char) {xs ys : List Char} (h : xs < ys) : c :: xs < c :: ys :=
  List.cons_lt_cons_iff.mpr (.inr ⟨rfl, h⟩)

/-! ### Dates and times of day -/

namespace Date

/-- No day of a year comes after a day of a later year. -/
lemma year_le_of_dayNumber_lt {d e : Date} (h : d.dayNumber < e.dayNumber) : d.year ≤ e.year := by
  by_contra hlater
  have hnext : daysBeforeYear (e.year + 1) ≤ daysBeforeYear d.year :=
    daysBeforeYear_mono (Nat.lt_of_not_le hlater)
  have := e.dayNumber_lt_succ
  rw [d.dayNumber_eq] at h
  omega

/-- No day of a month comes after a day of a later month of the year. -/
lemma month_le_of_dayOfYear_lt {d e : Date} (hyear : d.year = e.year)
    (h : d.dayOfYear < e.dayOfYear) : d.month ≤ e.month := by
  by_contra hlater
  have hnext : daysBeforeMonth e.year (e.month + 1) ≤ daysBeforeMonth e.year d.month :=
    daysBeforeMonth_mono e.year (Nat.lt_of_not_le hlater)
  have := e.dayOfYear_lt
  rw [dayOfYear, hyear] at h
  omega

/-- Earlier days have smaller texts. -/
lemma chars_lt_chars (separator : Char) {d e : Date} (h : d.dayNumber < e.dayNumber) :
    d.chars separator < e.chars separator := by
  have hyear : e.year < 10 ^ 4 := Nat.lt_succ_of_le e.year_le
  have hmonth : e.month < 10 ^ 2 := Nat.lt_of_le_of_lt e.month_le (by decide)
  have hday : e.day < 10 ^ 2 := Nat.lt_of_le_of_lt e.day_le_31 (by decide)
  refine decimal_append_lt hyear ?_
  rcases Nat.lt_or_eq_of_le (year_le_of_dayNumber_lt h) with hlt | hsame
  · exact .inl hlt
  refine .inr ⟨hsame, cons_lt_cons _ (decimal_append_lt hmonth ?_)⟩
  rw [d.dayNumber_eq, e.dayNumber_eq, hsame, Nat.add_lt_add_iff_left] at h
  rcases Nat.lt_or_eq_of_le (month_le_of_dayOfYear_lt hsame h) with hlt | hmonths
  · exact .inl hlt
  refine .inr ⟨hmonths, cons_lt_cons _ (decimal_lt_decimal ?_ hday)⟩
  rw [dayOfYear, dayOfYear, hsame, hmonths] at h
  omega

lemma length_chars (separator : Char) (d : Date) : (d.chars separator).length = 10 := by
  simp [chars]

end Date

namespace TimeOfDay

/-- Times of day have smaller texts when they are at least a second earlier. -/
lemma chars_lt_chars {t u : TimeOfDay} (h : t.truncate.micros < u.truncate.micros) :
    t.chars < u.chars := by
  have hhour : u.hour < 10 ^ 2 := Nat.lt_trans u.hour_lt (by decide)
  have hminute : u.minute < 10 ^ 2 := Nat.lt_trans u.minute_lt (by decide)
  have hsecond : u.second < 10 ^ 2 := Nat.lt_trans u.second_lt (by decide)
  have := t.minute_lt
  have := u.minute_lt
  have := t.second_lt
  have := u.second_lt
  simp only [truncate, micros] at h
  have horder : t.hour < u.hour ∨ t.hour = u.hour ∧
      (t.minute < u.minute ∨ t.minute = u.minute ∧ t.second < u.second) := by
    omega
  refine decimal_append_lt hhour ?_
  rcases horder with hlt | ⟨hhours, hrest⟩
  · exact .inl hlt
  refine .inr ⟨hhours, cons_lt_cons _ (decimal_append_lt hminute ?_)⟩
  rcases hrest with hlt | ⟨hminutes, hlt⟩
  · exact .inl hlt
  · exact .inr ⟨hminutes, cons_lt_cons _ (decimal_lt_decimal hlt hsecond)⟩

lemma length_chars (t : TimeOfDay) : t.chars.length = 8 := by
  simp [chars]

end TimeOfDay

/-- Of two moments the earlier one has the earlier day, or the same day and the earlier time. -/
lemma DateTime.date_lt_or_time_lt {t u : DateTime} (h : t.micros < u.micros) :
    t.date.dayNumber < u.date.dayNumber ∨ t.date = u.date ∧ t.time.micros < u.time.micros := by
  have := u.time.micros_lt
  simp only [micros, TimeOfDay.dayMicros] at *
  rcases Nat.lt_or_ge t.date.dayNumber u.date.dayNumber with hlt | hge
  · exact .inl hlt
  · have hsame : t.date.dayNumber = u.date.dayNumber := by omega
    exact .inr ⟨Date.dayNumber_injective hsame, by omega⟩

/-! ### Instants -/

namespace Instant

lemma micros_injective : Function.Injective micros := by
  rintro ⟨t⟩ ⟨u⟩ h
  exact congrArg mk (DateTime.micros_injective h)

lemma length_text (i : Instant) : i.text.length = 20 := by
  rw [text, String.length_ofList, chars_eq]
  simp [Date.length_chars, TimeOfDay.length_chars]

/-- Instants at least a second earlier have smaller texts. -/
lemma text_lt_text {i j : Instant} (h : i.truncate.micros < j.truncate.micros) :
    i.text < j.text := by
  rw [text, text, String.lt_iff, String.toList_ofList, String.toList_ofList, chars_eq, chars_eq]
  rcases DateTime.date_lt_or_time_lt h with hdate | ⟨hdate, htime⟩
  · have hchars : i.utc.date.chars '-' < j.utc.date.chars '-' := Date.chars_lt_chars '-' hdate
    exact append_lt_append (by simp [Date.length_chars]) hchars _ _
  · have hsame : i.utc.date = j.utc.date := hdate
    have hchars : i.utc.time.chars < j.utc.time.chars := TimeOfDay.chars_lt_chars htime
    rw [hsame]
    refine List.append_left_lt (cons_lt_cons 'T' ?_)
    exact append_lt_append (by simp [TimeOfDay.length_chars]) hchars _ _

/-- The order of canonical texts is the order of time, to the second. -/
lemma text_lt_text_iff (i j : Instant) :
    i.text < j.text ↔ i.truncate.micros < j.truncate.micros := by
  refine ⟨fun h => ?_, text_lt_text⟩
  rcases Nat.lt_trichotomy i.truncate.micros j.truncate.micros with hlt | heq | hgt
  · exact hlt
  · rw [← text_truncate, micros_injective heq, text_truncate] at h
    exact absurd h (String.lt_irrefl _)
  · exact absurd (text_lt_text hgt) (String.lt_asymm h)

lemma text_inj (i j : Instant) : i.text = j.text ↔ i.truncate = j.truncate := by
  constructor
  · intro h
    have hlt := text_lt_text_iff i j
    have hgt := text_lt_text_iff j i
    simp only [h, String.lt_irrefl, false_iff, Nat.not_lt] at hlt hgt
    exact micros_injective (Nat.le_antisymm hgt hlt)
  · intro h
    rw [← text_truncate, h, text_truncate]

/-- **Canonical texts sort as time does.** Two dates or timestamps, each told in its own zone or
in a default one, that have instants have texts of twenty characters. One text is before the
other just if its instant is earlier, and the texts are equal just if the instants are, which is
if both moments lie in the same second. -/
theorem text_order_is_time_order (zone zone' : LocalZone) (v w : When) {i j : Instant}
    (hv : v.instant zone = .ok i) (hw : w.instant zone' = .ok j) :
    ∃ s t, v.text zone = .ok s ∧ w.text zone' = .ok t ∧
      s.length = 20 ∧ t.length = 20 ∧
      (s < t ↔ i.micros < j.micros) ∧
      (s = t ↔ i = j) ∧
      (t < s ↔ j.micros < i.micros) ∧
      (s = t ↔ v.moment zone / 1000000 = w.moment zone' / 1000000) := by
  have hequal : i.text = j.text ↔ i = j := by
    rw [text_inj, truncate_of_instant hv, truncate_of_instant hw]
  have hsecond : i = j ↔ v.moment zone / 1000000 = w.moment zone' / 1000000 := by
    have := micros_of_instant hv
    have := micros_of_instant hw
    rw [← micros_injective.eq_iff]
    omega
  refine ⟨i.text, j.text, by rw [When.text, hv]; rfl, by rw [When.text, hw]; rfl,
    length_text i, length_text j, ?_, hequal, ?_, hequal.trans hsecond⟩
  · rw [text_lt_text_iff, truncate_of_instant hv, truncate_of_instant hw]
  · rw [text_lt_text_iff, truncate_of_instant hv, truncate_of_instant hw]

def thousandYears : Date := (Date.of? 1000 1 1).get (by decide)

def afterMidnight : Timestamp where
  civil := ⟨thousandYears, (TimeOfDay.of? 0 30 0).get (by decide)⟩
  zone := some (.fixed 3600000000)

def lastHalfHour : Instant :=
  ⟨(Date.of? 999 12 31).get (by decide), (TimeOfDay.of? 23 30 0).get (by decide)⟩

theorem text_order_is_time_order_thousand_years :
    (When.time afterMidnight).instant .universal = .ok lastHalfHour ∧
      (When.date thousandYears).instant (.region "Asia/Tokyo") = .ok (.ofDate thousandYears) ∧
      ∃ s t, (When.time afterMidnight).text .universal = .ok s ∧
        (When.date thousandYears).text (.region "Asia/Tokyo") = .ok t ∧
        s.length = t.length ∧ s < t ∧ s ≠ t := by
  have htold : (When.time afterMidnight).instant .universal = .ok lastHalfHour := by decide +kernel
  have hday : (When.date thousandYears).instant (.region "Asia/Tokyo") =
      .ok (.ofDate thousandYears) := rfl
  obtain ⟨s, t, hs, ht, hlength, hlength', hlt, heq, -, -⟩ :=
    text_order_is_time_order .universal (.region "Asia/Tokyo") _ _ htold hday
  have hdiffer : lastHalfHour ≠ .ofDate thousandYears := by decide +kernel
  refine ⟨htold, hday, s, t, hs, ht, hlength.trans hlength'.symm, hlt.mpr ?_, ?_⟩
  · decide +kernel
  · exact mt heq.mp hdiffer

end Instant

end MetadataBag
