import MetadataBag.Proofs.Date.Calendar
import MetadataBag.Proofs.Date.Field

/-!
The canonical text of an instant. It is read back, in every zone, as the instant to the second,
so writing loses fractions of a second and nothing else, and normalizing a text that has been
normalized changes nothing.
-/

namespace MetadataBag

/-! ### Moments -/

/-- The offset of a civil time in microseconds, where it can be told. -/
def LocalZone.offset : LocalZone → DateTime → Bool → Int
  | .given z, t, fold => z.offset t fold
  | .system s, t, fold => (s.ahead t fold).toOption.getD 0 * 1000000

/-- The offset at which a timestamp is told; one without a zone is told in the default zone. -/
def Timestamp.offsetIn (t : Timestamp) (zone : LocalZone) : Int :=
  match t.zone with
  | some z => z.offset t.civil t.fold
  | none => zone.offset t.civil t.fold

/-- Where a date or a timestamp lies on the line of microseconds, even beyond the calendar. -/
def When.moment (zone : LocalZone) : When → Int
  | .date d => DateTime.micros ⟨d, TimeOfDay.midday⟩
  | .time t => t.civil.micros - t.offsetIn zone

namespace Instant

def truncate (i : Instant) : Instant := ⟨i.utc.truncate⟩

def toWhen (i : Instant) : When := .time { civil := i.utc, zone := some (.fixed 0) }

/-- The canonical text of the instant that a text names. -/
def normalize (zone : LocalZone) (s : String) : Except Error (Option String) :=
  match parse zone s with
  | .ok (some i) => (i.toWhen.text zone).map some
  | .ok none => .ok none
  | .error e => .error e

/-- A clock ahead of universal time shows a later time. -/
lemma ofOffset_eq_ok_iff {civil : DateTime} {offset : Int} {i : Instant} :
    ofOffset civil offset = .ok i ↔ (i.micros : Int) = civil.micros - offset := by
  rw [ofOffset, DateTime.shift, ← Int.sub_eq_add_neg]
  constructor
  · intro h
    split at h
    · cases h
    · rename_i utc hutc
      cases h
      exact DateTime.micros_of_ofMicros? hutc
  · intro h
    rw [← h, micros, DateTime.ofMicros?_micros]

lemma ofNaive_eq_ok {zone : LocalZone} {civil : DateTime} {fold : Bool} {i : Instant}
    (h : ofNaive zone civil fold = .ok i) :
    (i.micros : Int) = civil.micros - Timestamp.offsetIn ⟨civil, fold, none⟩ zone := by
  cases zone with
  | given z => exact ofOffset_eq_ok_iff.mp h
  | system s =>
    obtain ⟨n, hn, hi⟩ := bind_ok h
    have hoffset : Timestamp.offsetIn ⟨civil, fold, none⟩ (.system s) = n * 1000000 := by
      simp only [Timestamp.offsetIn, LocalZone.offset, hn]
      rfl
    rw [hoffset]
    exact ofOffset_eq_ok_iff.mp hi

/-- The instant of a date or a timestamp is its moment, rounded down to a second. -/
lemma micros_of_instant {zone : LocalZone} {w : When} {i : Instant}
    (h : w.instant zone = .ok i) :
    (i.micros : Int) = w.moment zone / 1000000 * 1000000 := by
  cases w with
  | date d =>
    cases h
    have hmidday : TimeOfDay.midday.micros = 43200000000 := rfl
    simp only [micros, ofDate, When.moment, DateTime.micros, TimeOfDay.dayMicros, hmidday]
    omega
  | time t =>
    obtain ⟨civil, fold, own⟩ := t
    obtain ⟨j, hj, rfl⟩ := map_ok h
    -- before it is cut to the second the instant is the moment itself
    have hmoment : (j.micros : Int) = When.moment zone (.time ⟨civil, fold, own⟩) := by
      cases own with
      | none => exact ofNaive_eq_ok hj
      | some z => exact ofOffset_eq_ok_iff.mp hj
    rw [← hmoment, micros, micros, DateTime.micros_truncate]
    omega

lemma truncate_of_instant {zone : LocalZone} {w : When} {i : Instant}
    (h : w.instant zone = .ok i) : i.truncate = i := by
  cases w with
  | date d =>
    cases h
    rfl
  | time t =>
    obtain ⟨j, -, rfl⟩ := map_ok h
    rfl

lemma instant_toWhen (zone : LocalZone) (i : Instant) :
    i.toWhen.instant zone = .ok i.truncate := by
  have hzero : ofZone i.utc false (.fixed 0) = .ok i :=
    ofOffset_eq_ok_iff.mpr (Int.sub_zero _).symm
  simp only [toWhen, When.instant, hzero]
  rfl

/-! ### Canonical texts -/

lemma text_truncate (i : Instant) : i.truncate.text = i.text := rfl

lemma text_toWhen (zone : LocalZone) (i : Instant) : i.toWhen.text zone = .ok i.text := by
  rw [When.text, instant_toWhen, ← text_truncate]
  rfl

lemma chars_eq (i : Instant) :
    i.chars = i.utc.date.chars '-' ++ 'T' :: (i.utc.time.chars ++ ['Z']) := by
  simp [chars, Date.chars, TimeOfDay.chars]

lemma dropColonBackwards_cons {c : Char} (h : Text.isDigit c = false) (cs : List Char) :
    dropColonBackwards (c :: cs) = c :: cs := by
  unfold dropColonBackwards
  split
  · rename_i heq
    obtain ⟨rfl, rfl⟩ := List.cons.inj heq
    simp [h]
  · rfl

/-- A text that does not end in a line break is looked at from its end. -/
lemma normalizeOffset_concat_of_ne {c : Char} (hbreak : c ≠ '\n') (cs : List Char) :
    normalizeOffset (cs ++ [c]) = (dropColonBackwards (c :: cs.reverse)).reverse := by
  unfold normalizeOffset
  rw [List.reverse_concat]
  split
  · rename_i heq
    exact absurd (List.cons.inj heq).1 hbreak
  · rfl

/-- Only a text that ends in an offset loses a colon. -/
lemma normalizeOffset_concat {c : Char} (hdigit : Text.isDigit c = false) (hbreak : c ≠ '\n')
    (cs : List Char) : normalizeOffset (cs ++ [c]) = cs ++ [c] := by
  rw [normalizeOffset_concat_of_ne hbreak, dropColonBackwards_cons hdigit, List.reverse_cons,
    List.reverse_reverse]

/-- The first accepted format reads the canonical text. -/
lemma read_chars (i : Instant) :
    Format.read ⟨Format.date '-' ++ [.literal 'T'] ++ Format.time ++ [.literal 'Z'], .universal⟩
      i.chars = some (i.utc.truncate, none) := by
  have hitems : readItems
      (Format.date '-' ++ [.literal 'T'] ++ Format.time ++ [.literal 'Z']) {} i.chars =
        some ((Parts.setDate {} i.utc.date).setTime i.utc.time, []) := by
    rw [chars_eq, List.append_assoc, List.append_assoc, readItems_date, List.singleton_append,
      readItems_literal, readItems_time, readItems_literal]
    rfl
  rw [Format.read, hitems]
  simp only [Parts.civil?_setTime_setDate]
  rfl

/-- The canonical text names the instant to the second, in every zone. -/
lemma parse_text (zone : LocalZone) (i : Instant) :
    parse zone i.text = .ok (some i.truncate) := by
  -- the text ends in a letter, so it has no offset to normalize
  have hend : normalizeOffset i.chars = i.chars := by
    rw [chars_eq, ← List.cons_append, ← List.append_assoc]
    exact normalizeOffset_concat rfl (by decide) _
  have haccepted : ∃ fs, Format.accepted =
      ⟨Format.date '-' ++ [.literal 'T'] ++ Format.time ++ [.literal 'Z'], .universal⟩ :: fs :=
    ⟨_, rfl⟩
  obtain ⟨fs, hfs⟩ := haccepted
  rw [parse, text, String.toList_ofList, hend, readBy, hfs, List.findSome?_cons, read_chars]
  rfl

lemma normalize_of_parse {zone : LocalZone} {s : String} {i : Instant}
    (h : parse zone s = .ok (some i)) : normalize zone s = .ok (some i.text) := by
  unfold normalize
  simp only [h, text_toWhen]
  rfl

/-- **The canonical text names its instant.** Whatever a date or a timestamp is told in, its
text is read back in every zone as its moment rounded down to a second, and that instant has the
same text. Normalizing the text of a text's instant changes nothing. -/
theorem canonical_text_names_instant (zone zone' : LocalZone) :
    (∀ (w : When) (i : Instant), w.instant zone = .ok i →
      (i.micros : Int) = w.moment zone / 1000000 * 1000000 ∧
      w.text zone = .ok i.text ∧
      parse zone' i.text = .ok (some i) ∧
      i.toWhen.text zone' = .ok i.text) ∧
    ∀ (s : String) (i : Instant), parse zone s = .ok (some i) →
      normalize zone s = .ok (some i.text) ∧ normalize zone' i.text = .ok (some i.text) := by
  refine ⟨fun w i hw => ⟨micros_of_instant hw, ?_, ?_, text_toWhen zone' i⟩,
    fun s i hs => ⟨normalize_of_parse hs, ?_⟩⟩
  · rw [When.text, hw]
    rfl
  · rw [parse_text, truncate_of_instant hw]
  · have hagain := normalize_of_parse (parse_text zone' i)
    rwa [text_truncate] at hagain

def lastSummerNight : Date := (Date.of? 2021 10 31).get (by decide)

def halfPastTwo : Timestamp where
  civil := ⟨lastSummerNight, (TimeOfDay.of? 2 30 0 500000).get (by decide)⟩
  fold := true

def halfPastOne : Instant := ⟨lastSummerNight, (TimeOfDay.of? 1 30 0).get (by decide)⟩

def beforeHalfPastOne : Instant :=
  ⟨lastSummerNight, (TimeOfDay.of? 1 29 59 500000).get (by decide)⟩

theorem canonical_text_names_instant_paris :
    (When.time halfPastTwo).instant (.region "Europe/Paris") = .ok halfPastOne ∧
      parse .universal halfPastOne.text = .ok (some halfPastOne) ∧
      parse .universal "2021-10-31 02:30:00+01:00:00.5" = .ok (some beforeHalfPastOne) ∧
      normalize (.region "Asia/Tokyo") beforeHalfPastOne.text =
        .ok (some beforeHalfPastOne.text) := by
  have htold : (When.time halfPastTwo).instant (.region "Europe/Paris") = .ok halfPastOne := by
    decide +kernel
  have hread : parse .universal "2021-10-31 02:30:00+01:00:00.5" =
      .ok (some beforeHalfPastOne) := by
    decide +kernel
  have hpast := (canonical_text_names_instant (.region "Europe/Paris") .universal).1 _ _ htold
  have hbefore := (canonical_text_names_instant .universal (.region "Asia/Tokyo")).2 _ _ hread
  exact ⟨htold, hpast.2.2.1, hread, hbefore.2⟩

end Instant

end MetadataBag
