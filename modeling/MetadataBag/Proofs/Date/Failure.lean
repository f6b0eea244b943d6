import MetadataBag.Bag
import MetadataBag.Proofs.Date.Canonical

/-!
When reading a date fails. A text without an accepted format is no failure, it names no instant;
a text with one fails exactly if the time it tells lies outside the calendar. That can happen on
the calendar's first day and its last day only.
-/

namespace MetadataBag

def InCalendar (n : Int) : Prop := 0 ≤ n ∧ n < calendarMicros

/-- Whether a time without an offset has an instant. -/
def LocalZone.Fits (civil : DateTime) : LocalZone → Prop
  | .given z => InCalendar (civil.micros - z.offset civil false)
  | .system s => ∃ n, s.ahead civil false = .ok n ∧ InCalendar (civil.micros - n * 1000000)

def Placement.Fits (zone : LocalZone) (civil : DateTime) (offset : Option Int) :
    Placement → Prop
  | .universal => True
  | .midday => True
  | .offset => InCalendar (civil.micros - offset.getD 0)
  | .defaultZone => zone.Fits civil

/-- What the first accepted format reads, and how it is placed. -/
def Format.reading? (s : String) : Option (Placement × DateTime × Option Int) :=
  accepted.findSome? fun f => (f.read (normalizeOffset s.toList)).map fun r => (f.placement, r)

/-- The text has an accepted format, and tells a time that has no instant. -/
def Unplaceable (zone : LocalZone) (s : String) : Prop :=
  ∃ p civil offset, Format.reading? s = some (p, civil, offset) ∧ ¬ p.Fits zone civil offset

/-! ### Instants out of range -/

namespace Instant

lemma exists_ofOffset_eq_ok_iff {civil : DateTime} {offset : Int} :
    (∃ i, ofOffset civil offset = .ok i) ↔ InCalendar (civil.micros - offset) := by
  rw [InCalendar, ← DateTime.exists_ofMicros?_iff]
  constructor
  · rintro ⟨i, hi⟩
    rw [← ofOffset_eq_ok_iff.mp hi, micros, DateTime.ofMicros?_micros]
    exact ⟨i.utc, rfl⟩
  · rintro ⟨t, ht⟩
    exact ⟨⟨t⟩, ofOffset_eq_ok_iff.mpr (DateTime.micros_of_ofMicros? ht)⟩

lemma exists_ofNaive_eq_ok_iff {zone : LocalZone} {civil : DateTime} :
    (∃ i, ofNaive zone civil false = .ok i) ↔ zone.Fits civil := by
  cases zone with
  | given z => exact exists_ofOffset_eq_ok_iff
  | system s =>
    constructor
    · rintro ⟨i, hi⟩
      obtain ⟨n, hn, hi⟩ := bind_ok hi
      exact ⟨n, hn, exists_ofOffset_eq_ok_iff.mp ⟨i, hi⟩⟩
    · rintro ⟨n, hn, hfits⟩
      obtain ⟨i, hi⟩ := exists_ofOffset_eq_ok_iff.mpr hfits
      exact ⟨i, by rw [ofNaive, ofSystem, hn]; exact hi⟩

lemma exists_placed_iff (p : Placement) (zone : LocalZone) (civil : DateTime)
    (offset : Option Int) :
    (∃ i, p.instant zone civil offset = .ok i) ↔ p.Fits zone civil offset := by
  cases p with
  | universal => exact iff_of_true ⟨_, rfl⟩ trivial
  | midday => exact iff_of_true ⟨_, rfl⟩ trivial
  | offset => exact exists_ofOffset_eq_ok_iff
  | defaultZone => exact exists_ofNaive_eq_ok_iff

lemma parse_fails_iff (zone : LocalZone) (s : String) :
    (∃ e, parse zone s = .error e) ↔ Unplaceable zone s := by
  have hparse : parse zone s = match Format.reading? s with
      | none => .ok none
      | some (p, civil, offset) => (p.instant zone civil offset).map some := rfl
  rw [hparse, Unplaceable]
  rcases Format.reading? s with _ | ⟨p, civil, offset⟩
  · simp
  -- a text with an accepted format fails with its placement
  have hplaced := exists_placed_iff p zone civil offset
  rcases hi : p.instant zone civil offset with e | i
  · rw [hi] at hplaced
    have hunfit : ¬ p.Fits zone civil offset := by
      rw [← hplaced]
      rintro ⟨i, hi⟩
      cases hi
    simp only [hi]
    exact iff_of_true ⟨e, rfl⟩ ⟨p, civil, offset, rfl, hunfit⟩
  · have hfits : p.Fits zone civil offset := hplaced.mp ⟨i, hi⟩
    simp only [hi]
    refine iff_of_false (fun ⟨e, he⟩ => by cases he) ?_
    rintro ⟨p', civil', offset', heq, hunfit⟩
    cases heq
    exact hunfit hfits

end Instant

/-! ### Offsets shorter than a day -/

def ShortOffset (n : Int) : Prop := -dayMicros < n ∧ n < dayMicros

instance (n : Int) : Decidable (ShortOffset n) := inferInstanceAs (Decidable (_ ∧ _))

/-- A given zone is less than a day from universal time; the system's clock, which never is more,
can be told on all days but the first and the last. -/
def LocalZone.Ordinary : LocalZone → Prop
  | .given z => ∀ civil fold, ShortOffset (z.offset civil fold)
  | .system s => ∀ civil, civil.date ≠ Date.first → civil.date ≠ Date.last →
      ∃ n, s.ahead civil false = .ok n

def Parts.Short (p : Parts) : Prop := ∀ o, p.offset = some (some o) → ShortOffset o

lemma OffsetText.micros?_short {o : OffsetText} {n : Int} (h : o.micros? = some n) :
    ShortOffset n := by
  unfold micros? at h
  obtain ⟨size, hsize, hn⟩ := Option.bind_eq_some_iff.mp h
  -- the size is a sum of hours, minutes and seconds, and its sign comes later
  have hpos : 0 ≤ size := by
    simp only [hourMicros, minuteMicros, secondMicros] at hsize
    split at hsize
    · cases hsize
      omega
    · split at hsize
      · cases hsize
        omega
      · cases hsize
  split at hn
  · rename_i hday
    cases hn
    simp only [ShortOffset, dayMicros] at hday ⊢
    split <;> omega
  · cases hn

lemma Parts.short_set {p : Parts} (hp : p.Short) (f : Field) (n : Nat) : (p.set f n).Short := by
  cases f <;> exact hp

lemma Item.read_short {i : Item} {p p' : Parts} {cs rest : List Char} (hp : p.Short)
    (h : i.read p cs = some (p', rest)) : p'.Short := by
  cases i with
  | field f =>
    obtain ⟨r, -, hr⟩ := Option.map_eq_some_iff.mp h
    cases hr
    exact Parts.short_set hp f r.1
  | literal c =>
    simp only [Item.read] at h
    split at h
    · cases h
    · split at h <;> cases h
      exact hp
  | blank =>
    simp only [Item.read] at h
    split at h
    · cases h
    · split at h <;> cases h
      exact hp
  -- the letter stands for universal time, any other offset is checked against a day
  | offset =>
    simp only [Item.read] at h
    split at h
    · cases h
      intro o ho
      cases ho
      simp [ShortOffset, dayMicros]
    · obtain ⟨r, -, hr⟩ := Option.map_eq_some_iff.mp h
      cases hr
      exact fun o ho => OffsetText.micros?_short (Option.some.inj ho)

/-- Whatever the items of a format read, the offset among it is shorter than a day. -/
lemma readItems_short {is : List Item} {p p' : Parts} {cs rest : List Char} (hp : p.Short)
    (h : readItems is p cs = some (p', rest)) : p'.Short := by
  induction is generalizing p cs with
  | nil =>
    cases h
    exact hp
  | cons i is ih =>
    obtain ⟨r, hr, hrest⟩ := Option.bind_eq_some_iff.mp h
    exact ih (Item.read_short hp hr) hrest

lemma Format.read_short {f : Format} {cs : List Char} {civil : DateTime} {o : Int}
    (h : f.read cs = some (civil, some o)) : ShortOffset o := by
  unfold Format.read at h
  split at h
  · rename_i p hp
    have hshort : p.Short := readItems_short (fun o ho => by cases ho) hp
    obtain ⟨c, -, hc⟩ := Option.bind_eq_some_iff.mp h
    split at hc
    · cases hc
    · cases hc
    · rename_i o' ho'
      cases hc
      exact hshort o ho'
  · cases h

lemma Format.reading?_short {s : String} {p : Placement} {civil : DateTime} {o : Int}
    (h : reading? s = some (p, civil, some o)) : ShortOffset o := by
  obtain ⟨f, -, hf⟩ := List.exists_of_findSome?_eq_some h
  obtain ⟨r, hr, heq⟩ := Option.map_eq_some_iff.mp hf
  cases heq
  exact Format.read_short hr

/-! ### The ends of the calendar -/

/-- At an offset shorter than a day only the first day and the last day lie outside in part. -/
lemma inCalendar_of_short {civil : DateTime} {n : Int} (hn : ShortOffset n)
    (hfirst : civil.date ≠ Date.first) (hlast : civil.date ≠ Date.last) :
    InCalendar (civil.micros - n) := by
  have hpos : civil.date.dayNumber ≠ 0 := fun h =>
    hfirst (Date.dayNumber_injective (h.trans (by decide : 0 = Date.first.dayNumber)))
  have hend : civil.date.dayNumber ≠ 3652058 := fun h =>
    hlast (Date.dayNumber_injective (h.trans (by decide : 3652058 = Date.last.dayNumber)))
  have hday := civil.date.dayNumber_lt
  have htime := civil.time.micros_lt
  simp only [ShortOffset, dayMicros, InCalendar, calendarMicros, calendarDays, DateTime.micros,
    TimeOfDay.dayMicros] at *
  omega

lemma LocalZone.Ordinary.fits {zone : LocalZone} (hzone : zone.Ordinary) {civil : DateTime}
    (hfirst : civil.date ≠ Date.first) (hlast : civil.date ≠ Date.last) : zone.Fits civil := by
  cases zone with
  | given z => exact inCalendar_of_short (hzone civil false) hfirst hlast
  | system s =>
    obtain ⟨n, hn⟩ := hzone civil hfirst hlast
    refine ⟨n, hn, inCalendar_of_short ?_ hfirst hlast⟩
    obtain ⟨hleast, hmost⟩ := s.short hn
    simp only [ShortOffset, dayMicros]
    omega

lemma fits_of_short {zone : LocalZone} (hzone : zone.Ordinary) {p : Placement}
    {civil : DateTime} {offset : Option Int} (hoffset : ∀ o ∈ offset, ShortOffset o)
    (hfirst : civil.date ≠ Date.first) (hlast : civil.date ≠ Date.last) :
    p.Fits zone civil offset := by
  cases p with
  | universal => trivial
  | midday => trivial
  | offset =>
    refine inCalendar_of_short ?_ hfirst hlast
    cases offset with
    | none => simp [ShortOffset, dayMicros]
    | some o => exact hoffset o rfl
  | defaultZone => exact hzone.fits hfirst hlast

namespace Bag

lemma getDate_fails_iff (b : Bag) (r : Registry) (p : Property) :
    (∃ e, b.getDate r p = .error e) ↔
      accepts p [.date] ∧ ∃ s ∈ b.get? r (some (.property p)), Unplaceable b.zone s := by
  unfold getDate
  by_cases ha : accepts p [.date] = true
  · rw [if_pos ha]
    cases b.get? r (some (.property p)) with
    | none => simp
    | some s => simpa [ha] using Instant.parse_fails_iff b.zone s
  · rw [if_neg ha]
    simp [ha]

/-- **Reading a date fails at the ends of the calendar only.** In any zone and on any system, of
all texts exactly those fail that have an accepted format and tell a time that has no instant
within the calendar; a property fails exactly if it is one of dates and its first value is such a
text. In an ordinary zone such a text tells a time on the first day or on the last. -/
theorem date_read_fails_iff_outside_calendar (zone : LocalZone) :
    (∀ text : Option String,
      (∃ e, text.elim (.ok none) (Instant.parse zone) = .error e) ↔
        ∃ s ∈ text, Unplaceable zone s) ∧
    (∀ (b : Bag) (r : Registry) (p : Property),
      (∃ e, b.getDate r p = .error e) ↔
        accepts p [.date] ∧ ∃ s ∈ b.get? r (some (.property p)), Unplaceable b.zone s) ∧
    (zone.Ordinary → ∀ s, Unplaceable zone s →
      ∃ p civil offset, Format.reading? s = some (p, civil, offset) ∧
        (civil.date = Date.first ∨ civil.date = Date.last)) := by
  refine ⟨fun text => ?_, getDate_fails_iff, fun hzone s hs => ?_⟩
  · cases text with
    | none => simp
    | some s => simpa using Instant.parse_fails_iff zone s
  · obtain ⟨p, civil, offset, hread, hunfit⟩ := hs
    refine ⟨p, civil, offset, hread, ?_⟩
    by_contra hinner
    rw [not_or] at hinner
    refine hunfit (fits_of_short hzone (fun o ho => ?_) hinner.1 hinner.2)
    cases ho
    exact Format.reading?_short hread

theorem date_read_fails_iff_outside_calendar_first_hour :
    (LocalZone.given (.fixed 7200000000)).Ordinary ∧
    Unplaceable (.given (.fixed 7200000000)) "0001-01-01 01:00:00" ∧
    ∃ p civil offset, Format.reading? "0001-01-01 01:00:00" = some (p, civil, offset) ∧
      (civil.date = Date.first ∨ civil.date = Date.last) := by
  have hzone : (LocalZone.given (.fixed 7200000000)).Ordinary :=
    fun _ _ => (by decide : ShortOffset 7200000000)
  obtain ⟨hparse, -, hends⟩ :=
    date_read_fails_iff_outside_calendar (.given (.fixed 7200000000))
  have hfails : ∃ e, (some "0001-01-01 01:00:00").elim (.ok none)
      (Instant.parse (.given (.fixed 7200000000))) = .error e :=
    ⟨.instantRange, by decide +kernel⟩
  obtain ⟨s, hs, hout⟩ := (hparse (some "0001-01-01 01:00:00")).mp hfails
  cases hs
  exact ⟨hzone, hout, hends hzone _ hout⟩

def born : Property := .ofKey "x:born" (some "urn:x") .date false false

def bornTooEarly : Bag :=
  ((empty .markup .universal).add .empty (some (.property born))
    (some "0001-01-01T00:00:00+00:01")).bag

theorem date_read_fails_before_first_midnight :
    (¬ ∀ (zone : LocalZone) (text : Option String),
      ∃ i, text.elim (.ok none) (Instant.parse zone) = .ok i) ∧
    ¬ ∀ (b : Bag) (r : Registry) (p : Property), ∃ i, b.getDate r p = .ok i := by
  have htext : Instant.parse .universal "0001-01-01T00:00:00+00:01" = .error .instantRange := by
    decide +kernel
  have hbag : bornTooEarly.getDate .empty born = .error .instantRange := by
    decide +kernel
  refine ⟨fun hall => ?_, fun hall => ?_⟩
  · obtain ⟨i, hi⟩ := hall .universal (some "0001-01-01T00:00:00+00:01")
    rw [Option.elim_some, htext] at hi
    cases hi
  · obtain ⟨i, hi⟩ := hall bornTooEarly .empty born
    rw [hbag] at hi
    cases hi

end Bag

end MetadataBag
