import MetadataBag.Proofs.Date.Failure
import MetadataBag.Proofs.Date.Offset

/-!
Times as text and as values. A civil time to the second, written out, is read as the instant of
the timestamp with the same civil time, whichever of the accepted forms it has; what a zone adds
below a second is kept by reading, and dropped from a value.
-/

namespace MetadataBag

inductive Joint where
  | letter
  | blank
  deriving DecidableEq, Repr

def Joint.char : Joint → Char
  | .letter => 'T'
  | .blank => ' '

def Joint.item : Joint → Item
  | .letter => .literal 'T'
  | .blank => .blank

/-- An offset from universal time as clocks have it, in hours and minutes. -/
structure ClockOffset where
  negative : Bool
  hours : Nat
  minutes : Nat
  hours_lt : hours < 24
  minutes_lt : minutes < 60
  deriving Repr

namespace ClockOffset

def micros (o : ClockOffset) : Int :=
  let size := o.hours * hourMicros + o.minutes * minuteMicros
  if o.negative then -size else size

def sign (o : ClockOffset) : Char := if o.negative then '-' else '+'

lemma sign_eq (o : ClockOffset) : o.sign = '+' ∨ o.sign = '-' := by
  unfold sign
  cases o.negative <;> simp

def chars (o : ClockOffset) (colon : Bool) : List Char :=
  o.sign :: (decimal 2 o.hours ++ (if colon then [':'] else []) ++ decimal 2 o.minutes)

end ClockOffset

def DateTime.chars (t : DateTime) (j : Joint) : List Char :=
  t.date.chars '-' ++ j.char :: t.time.chars

/-! ### The pre-pass -/

/-- The seconds of a time of day are no minutes of an offset: a colon stands before its hours. -/
lemma normalizeOffset_chars (t : DateTime) (j : Joint) :
    normalizeOffset (t.chars j) = t.chars j := by
  have hsplit : t.chars j = (t.date.chars '-' ++ j.char :: decimal 2 t.time.hour) ++
      ':' :: (decimal 2 t.time.minute ++ ':' :: decimal 2 t.time.second) := by
    simp [DateTime.chars, TimeOfDay.chars]
  rw [hsplit]
  exact normalizeOffset_fields (.inr rfl) (length_decimal 2 _) (length_decimal 2 _)
    (fun _ => isDigit_of_mem_decimal) _

/-- A date is no offset, whatever separates its fields. -/
lemma normalizeOffset_date (d : Date) {separator : Char} (h : separator = '-' ∨ separator = ':') :
    normalizeOffset (d.chars separator) = d.chars separator :=
  normalizeOffset_fields h (length_decimal 2 _) (length_decimal 2 _)
    (fun _ => isDigit_of_mem_decimal) _

namespace ClockOffset

def tail (o : ClockOffset) : OffsetTail where
  sign := o.sign
  hours := (Nat.digitChar (o.hours / 10 % 10), Nat.digitChar (o.hours % 10))
  minutes := (Nat.digitChar (o.minutes / 10 % 10), Nat.digitChar (o.minutes % 10))
  isSign := o.sign_eq
  isDigit c hc := by
    have hdecimal : c ∈ decimal 2 o.hours ++ decimal 2 o.minutes := hc
    exact (List.mem_append.mp hdecimal).elim isDigit_of_mem_decimal isDigit_of_mem_decimal

lemma chars_tail (o : ClockOffset) (colon : Bool) : o.tail.chars colon = o.chars colon := rfl

end ClockOffset

/-- An offset loses its colon. -/
lemma normalizeOffset_clockOffset (cs : List Char) (o : ClockOffset) (colon : Bool) :
    normalizeOffset (cs ++ o.chars colon) = cs ++ o.chars false := by
  have hoffset := normalizeOffset_offset cs o.tail colon (.inl rfl)
  rwa [List.append_nil, List.append_nil] at hoffset

/-! ### The formats -/

/-- What the fields of a civil time have given. -/
def Parts.told (t : DateTime) : Parts := (Parts.setDate {} t.date).setTime t.time

lemma decimal_two (n : Nat) :
    decimal 2 n = [Nat.digitChar (n / 10 % 10), Nat.digitChar (n % 10)] := rfl

lemma dropWhile_isBlank_time (t : TimeOfDay) (cs : List Char) :
    (t.chars ++ cs).dropWhile Text.isBlank = t.chars ++ cs := by
  have hall : ∀ n < 24, Text.isBlank (Nat.digitChar (n / 10 % 10)) = false := by decide
  simp [TimeOfDay.chars, decimal_two, hall t.hour t.hour_lt]

lemma readItems_joint (j : Joint) {is : List Item} {p : Parts} {cs : List Char}
    (h : cs.dropWhile Text.isBlank = cs) :
    readItems (j.item :: is) p (j.char :: cs) = readItems is p cs := by
  cases j with
  | letter => exact readItems_literal 'T'
  | blank =>
    have hblank : Text.isBlank ' ' = true := by decide
    simp [readItems, Joint.item, Joint.char, Item.read, hblank, h]

lemma readItems_chars (t : DateTime) (j : Joint) (is : List Item) (cs : List Char) :
    readItems (Format.date '-' ++ [j.item] ++ Format.time ++ is) {} (t.chars j ++ cs) =
      readItems is (.told t) cs := by
  have hchars : t.chars j ++ cs = t.date.chars '-' ++ (j.char :: (t.time.chars ++ cs)) := by
    simp [DateTime.chars]
  rw [hchars, List.append_assoc, List.append_assoc, readItems_date, List.singleton_append,
    readItems_joint j (dropWhile_isBlank_time t.time cs), readItems_time]
  rfl

namespace Format

variable {t : DateTime} {j : Joint} {is : List Item} {cs : List Char}

lemma read_chars_eq_none (h : readItems is (.told t) cs = none) (p : Placement) :
    read ⟨date '-' ++ [j.item] ++ time ++ is, p⟩ (t.chars j ++ cs) = none := by
  rw [read, readItems_chars, h]

lemma read_chars_eq_some {o : Option Int}
    (h : readItems is (.told t) cs = some ({ Parts.told t with offset := o.map some }, []))
    (p : Placement) :
    read ⟨date '-' ++ [j.item] ++ time ++ is, p⟩ (t.chars j ++ cs) = some (t.truncate, o) := by
  have hcivil : Parts.civil? { Parts.told t with offset := o.map some } = some t.truncate :=
    Parts.civil?_setTime_setDate {} t.date t.time
  rw [read, readItems_chars, h]
  simp only [hcivil]
  cases o <;> rfl

/-- Where a date is not followed by what a format wants, the format does not accept the text. -/
lemma read_withTime_eq_none {i : Item} {d : Date} (h : ∀ p, i.read p cs = none) :
    ∀ f ∈ withTime i, f.read (d.chars '-' ++ cs) = none := by
  have hitems : ∀ more,
      readItems (date '-' ++ [i] ++ time ++ more) {} (d.chars '-' ++ cs) = none := by
    intro more
    rw [List.append_assoc, List.append_assoc, readItems_date, List.singleton_append, readItems, h]
    rfl
  intro f hf
  simp only [withTime, List.mem_cons, List.not_mem_nil, or_false] at hf
  rcases hf with rfl | rfl | rfl
  · simp only [read, hitems]
  · simp only [read, hitems]
  · have hplain := hitems []
    rw [List.append_nil] at hplain
    simp only [read, hplain]

end Format

/-! ### Offsets -/

lemma OffsetText.micros?_of_whole {o : OffsetText} (h : o.seconds = none) {n : Int}
    (hn : o.hours * hourMicros + o.minutes * minuteMicros = n) (hday : n < dayMicros) :
    o.micros? = some (if o.negative then -n else n) := by
  unfold micros?
  simp only [h, hn, Option.bind_some, if_pos hday]

namespace ClockOffset

lemma micros?_eq (o : ClockOffset) :
    OffsetText.micros? { negative := o.negative, hours := o.hours, colon := false,
                         minutes := o.minutes } = some o.micros := by
  refine OffsetText.micros?_of_whole rfl rfl ?_
  have := o.hours_lt
  have := o.minutes_lt
  simp only [hourMicros, minuteMicros, dayMicros]
  omega

lemma read_chars (o : ClockOffset) (p : Parts) :
    Item.read .offset p (o.chars false) = some ({ p with offset := some (some o.micros) }, []) := by
  have hshape : ∀ n < 60, readShape sixtieth (decimal 2 n) = some (decimal 2 n, []) := by decide
  have hnumber : ∀ n < 60, Text.number (decimal 2 n) = n := by decide
  have hminutes : readShape sixtieth [o.tail.minutes.1, o.tail.minutes.2] =
      some (decimal 2 o.minutes, []) := hshape _ o.minutes_lt
  have hhours : Text.number [o.tail.hours.1, o.tail.hours.2] = o.hours :=
    hnumber _ (Nat.lt_trans o.hours_lt (by decide))
  have hnegative : decide (o.tail.sign = '-') = o.negative := by
    have hsign : o.tail.sign = if o.negative then '-' else '+' := rfl
    rw [hsign]
    cases o.negative <;> rfl
  rw [← chars_tail, OffsetTail.read_chars, hminutes, Option.map_some, hhours,
    hnumber _ o.minutes_lt, hnegative, micros?_eq]

end ClockOffset

/-! ### Readings -/

namespace Format

lemma reading?_ofList (cs : List Char) : reading? (String.ofList cs) =
    accepted.findSome? fun f => (f.read (normalizeOffset cs)).map fun r => (f.placement, r) := by
  rw [reading?, String.toList_ofList]

variable {t : DateTime} {j : Joint} {cs : List Char}

/-- The formats with the other joint do not come in between. -/
lemma findSome?_accepted {a : Placement × DateTime × Option Int}
    (h : (withTime j.item).findSome? (fun f => (f.read (t.chars j ++ cs)).map fun r =>
      (f.placement, r)) = some a) :
    accepted.findSome? (fun f => (f.read (t.chars j ++ cs)).map fun r => (f.placement, r)) =
      some a := by
  rw [accepted, List.findSome?_append, List.findSome?_append]
  cases j with
  | letter =>
    have hletter : withTime Joint.letter.item = withTime (.literal 'T') := rfl
    rw [← hletter, h]
    rfl
  | blank =>
    -- the forms with a letter come first and do not accept a blank
    have hnone : (withTime (.literal 'T')).findSome? (fun f =>
        (f.read (t.chars .blank ++ cs)).map fun r => (f.placement, r)) = none := by
      rw [List.findSome?_eq_none_iff]
      intro f hf
      have hchars : t.chars .blank ++ cs = t.date.chars '-' ++ ' ' :: (t.time.chars ++ cs) := by
        simp [DateTime.chars, Joint.char]
      rw [hchars, read_withTime_eq_none (fun p => by simp [Item.read]) f hf]
      rfl
    have hblank : withTime Joint.blank.item = withTime .blank := rfl
    rw [hnone, ← hblank, h]
    rfl

lemma reading?_local (t : DateTime) (j : Joint) :
    reading? (String.ofList (t.chars j)) = some (.defaultZone, t.truncate, none) := by
  have hletter : readItems [.literal 'Z'] (.told t) [] = none := rfl
  have hoffset : readItems [.offset] (.told t) [] = none := rfl
  have hend : readItems [] (.told t) [] = some (.told t, []) := rfl
  rw [reading?_ofList, normalizeOffset_chars, ← List.append_nil (t.chars j)]
  refine findSome?_accepted ?_
  have hplain := read_chars_eq_some (j := j) (o := none) hend .defaultZone
  rw [List.append_nil (date '-' ++ [j.item] ++ time)] at hplain
  simp only [withTime, List.findSome?_cons, read_chars_eq_none hletter, read_chars_eq_none hoffset,
    hplain, Option.map_none, Option.map_some]

lemma reading?_universal (t : DateTime) (j : Joint) :
    reading? (String.ofList (t.chars j ++ ['Z'])) = some (.universal, t.truncate, none) := by
  have hletter : readItems [.literal 'Z'] (.told t) ['Z'] = some (.told t, []) := rfl
  rw [reading?_ofList, Instant.normalizeOffset_concat rfl (by decide)]
  refine findSome?_accepted ?_
  simp only [withTime, List.findSome?_cons,
    read_chars_eq_some (j := j) (o := none) hletter .universal, Option.map_some]

lemma reading?_offset (t : DateTime) (j : Joint) (o : ClockOffset) (colon : Bool) :
    reading? (String.ofList (t.chars j ++ o.chars colon)) =
      some (.offset, t.truncate, some o.micros) := by
  -- a sign is not the letter that the first form wants
  have hsign : ¬ (o.sign = 'Z' ∨ o.sign.toLower = 'Z'.toLower) := by
    unfold ClockOffset.sign
    cases o.negative <;> decide
  have hletter : readItems [.literal 'Z'] (.told t) (o.chars false) = none := by
    rw [readItems, ClockOffset.chars, Item.read, if_neg hsign]
    rfl
  have hoffset : readItems [.offset] (.told t) (o.chars false) =
      some ({ Parts.told t with offset := (some o.micros).map some }, []) := by
    rw [readItems, ClockOffset.read_chars]
    rfl
  rw [reading?_ofList, normalizeOffset_clockOffset]
  refine findSome?_accepted ?_
  simp only [withTime, List.findSome?_cons, read_chars_eq_none hletter,
    read_chars_eq_some (j := j) hoffset .offset, Option.map_none, Option.map_some]

lemma read_day (d : Date) (separator : Char) :
    read ⟨date separator, .midday⟩ (d.chars separator) = some (⟨d, TimeOfDay.midnight⟩, none) := by
  have hitems : readItems (date separator) {} (d.chars separator) =
      some (Parts.setDate {} d, []) := by
    have hdate : readItems (date separator ++ []) {} (d.chars separator ++ []) =
        readItems [] (Parts.setDate {} d) [] := readItems_date separator d
    rwa [List.append_nil, List.append_nil] at hdate
  have hcivil : (Parts.setDate {} d).civil? = some ⟨d, TimeOfDay.midnight⟩ :=
    Parts.civil?_setTime_setDate {} d TimeOfDay.midnight
  rw [read, hitems]
  simp only [hcivil]
  rfl

/-- A format that begins with a date as usual does not accept one with colons. -/
lemma read_colons_eq_none (d : Date) (more : List Item) (p : Placement) :
    read ⟨date '-' ++ more, p⟩ (d.chars ':') = none := by
  have hyear : Field.year.Range d.year := Nat.lt_succ_of_le d.year_le
  have hwidth : decimal 4 d.year = decimal Field.year.width d.year := rfl
  have hitems : readItems (date '-' ++ more) {} (d.chars ':') = none := by
    simp only [date, Date.chars, List.cons_append]
    rw [hwidth, readItems_field hyear]
    rfl
  rw [read, hitems]

lemma reading?_day (d : Date) {separator : Char} (h : separator = '-' ∨ separator = ':') :
    reading? (String.ofList (d.chars separator)) =
      some (.midday, ⟨d, TimeOfDay.midnight⟩, none) := by
  rw [reading?_ofList, normalizeOffset_date d h, accepted, List.findSome?_append,
    List.findSome?_append]
  rcases h with rfl | rfl
  · have hnone : ∀ i : Item, (∀ p, i.read p [] = none) → (withTime i).findSome? (fun f =>
        (f.read (d.chars '-')).map fun r => (f.placement, r)) = none := by
      intro i hi
      rw [List.findSome?_eq_none_iff]
      intro f hf
      rw [← List.append_nil (d.chars '-'), read_withTime_eq_none hi f hf]
      rfl
    rw [hnone _ fun _ => rfl, hnone _ fun _ => rfl, List.findSome?_cons, read_day d '-']
    rfl
  · -- with colons only the last of the formats accepts it
    have hnone : ∀ i : Item, (withTime i).findSome? (fun f =>
        (f.read (d.chars ':')).map fun r => (f.placement, r)) = none := by
      intro i
      simp only [withTime, List.append_assoc, List.findSome?_cons, read_colons_eq_none,
        Option.map_none, List.findSome?_nil]
    have hday := read_colons_eq_none d [] .midday
    rw [List.append_nil] at hday
    rw [hnone, hnone, List.findSome?_cons, hday, List.findSome?_cons, read_day d ':']
    rfl

end Format

/-! ### Whole seconds -/

lemma DateTime.truncate_eq_self {t : DateTime} (h : t.time.micro = 0) : t.truncate = t := by
  obtain ⟨d, ⟨hour, minute, second, micro, hh, hm, hs, hu⟩⟩ := t
  cases h
  rfl

lemma DateTime.micros_mod (t : DateTime) : t.micros % 1000000 = t.time.micro := by
  have := t.time.micro_lt
  simp only [micros, TimeOfDay.micros, TimeOfDay.dayMicros]
  omega

/-- A time is told in a zone by a whole number of seconds. -/
def Zone.WholeAt (z : Zone) (civil : DateTime) (fold : Bool) : Prop :=
  1000000 ∣ z.offset civil fold

/-- Zones with a name know whole seconds only. -/
lemma Zone.wholeAt_named (name : String) (ahead : DateTime → Bool → Int) (civil : DateTime)
    (fold : Bool) : (Zone.named name ahead).WholeAt civil fold := Int.dvd_mul_left _ _

/-- The system's clock tells whole seconds only. -/
def LocalZone.WholeAt (civil : DateTime) (fold : Bool) : LocalZone → Prop
  | .given z => z.WholeAt civil fold
  | .system _ => True

namespace Instant

lemma truncate_of_ofOffset {t : DateTime} {offset : Int} {i : Instant} (ht : t.time.micro = 0)
    (ho : 1000000 ∣ offset) (h : ofOffset t offset = .ok i) : i.truncate = i := by
  have hmicros := ofOffset_eq_ok_iff.mp h
  have ht' := t.micros_mod
  have hi := i.utc.micros_mod
  have hmicro : i.utc.time.micro = 0 := by
    obtain ⟨seconds, rfl⟩ := ho
    rw [micros] at hmicros
    omega
  rw [truncate, DateTime.truncate_eq_self hmicro]

/-- A time without a fraction of a second has none in a zone of whole seconds. -/
lemma truncate_of_ofNaive {zone : LocalZone} {t : DateTime} {i : Instant}
    (ht : t.time.micro = 0) (hzone : zone.WholeAt t false)
    (h : ofNaive zone t false = .ok i) : i.truncate = i := by
  cases zone with
  | given z => exact truncate_of_ofOffset ht hzone h
  | system s =>
    obtain ⟨n, -, hi⟩ := bind_ok h
    exact truncate_of_ofOffset ht (Int.dvd_mul_left _ _) hi

lemma map_truncate {x : Except Error Instant} (h : ∀ i, x = .ok i → i.truncate = i) :
    x.map truncate = x := by
  cases x with
  | error e => rfl
  | ok i => exact congrArg Except.ok (h i rfl)

lemma parse_of_reading? {zone : LocalZone} {s : String} {p : Placement} {civil : DateTime}
    {offset : Option Int} (h : Format.reading? s = some (p, civil, offset)) :
    parse zone s = (p.instant zone civil offset).map some := by
  have hparse : parse zone s = match Format.reading? s with
      | none => .ok none
      | some (p, civil, offset) => (p.instant zone civil offset).map some := rfl
  rw [hparse, h]

variable (zone : LocalZone) {t : DateTime}

lemma parse_local (ht : t.time.micro = 0) (j : Joint) :
    parse zone (String.ofList (t.chars j)) = (ofNaive zone t false).map some := by
  rw [parse_of_reading? (Format.reading?_local t j), DateTime.truncate_eq_self ht]
  rfl

lemma parse_universal (j : Joint) : parse zone (String.ofList (t.chars j ++ ['Z'])) =
    ((When.time { civil := t, zone := some (.fixed 0) }).instant zone).map some := by
  have hvalue : (When.time { civil := t, zone := some (.fixed 0) }).instant zone =
      .ok ⟨t.truncate⟩ := instant_toWhen zone ⟨t⟩
  rw [parse_of_reading? (Format.reading?_universal t j), hvalue]
  rfl

lemma parse_offset (ht : t.time.micro = 0) (j : Joint) (o : ClockOffset) (colon : Bool) :
    parse zone (String.ofList (t.chars j ++ o.chars colon)) =
      ((When.time { civil := t, zone := some (.fixed o.micros) }).instant zone).map some := by
  have hwhole : 1000000 ∣ o.micros := by
    unfold ClockOffset.micros hourMicros minuteMicros
    dsimp only
    split <;> omega
  have hvalue : (When.time { civil := t, zone := some (.fixed o.micros) }).instant zone =
      (ofOffset t o.micros).map truncate := rfl
  rw [parse_of_reading? (Format.reading?_offset t j o colon), DateTime.truncate_eq_self ht,
    hvalue, map_truncate fun i => truncate_of_ofOffset ht hwhole]
  rfl

lemma parse_day (d : Date) {separator : Char} (h : separator = '-' ∨ separator = ':') :
    parse zone (String.ofList (d.chars separator)) = ((When.date d).instant zone).map some := by
  rw [parse_of_reading? (Format.reading?_day d h)]
  rfl

/-- **Texts and values agree.** A civil time to the second is read as the instant of its
timestamp: with the sign of universal time or an offset in every zone, and on its own wherever
the zone tells it by whole seconds. In any other zone the timestamp's instant is the one that is
read, without its fraction of a second. A day is read as the day. Where there is no instant,
reading fails as the value does. -/
theorem text_and_value_agree (zone : LocalZone) (t : DateTime) (ht : t.time.micro = 0)
    (j : Joint) :
    (zone.WholeAt t false → parse zone (String.ofList (t.chars j)) =
      ((When.time { civil := t }).instant zone).map some) ∧
    (parse zone (String.ofList (t.chars j))).map (Option.map truncate) =
      ((When.time { civil := t }).instant zone).map some ∧
    parse zone (String.ofList (t.chars j ++ ['Z'])) =
      ((When.time { civil := t, zone := some (.fixed 0) }).instant zone).map some ∧
    (∀ (o : ClockOffset) (colon : Bool),
      parse zone (String.ofList (t.chars j ++ o.chars colon)) =
        ((When.time { civil := t, zone := some (.fixed o.micros) }).instant zone).map some) ∧
    ∀ (d : Date) (separator : Char), separator = '-' ∨ separator = ':' →
      parse zone (String.ofList (d.chars separator)) = ((When.date d).instant zone).map some := by
  have hvalue : (When.time { civil := t }).instant zone =
      (ofNaive zone t false).map truncate := rfl
  refine ⟨fun hzone => ?_, ?_, parse_universal zone j, parse_offset zone ht j,
    fun d _ h => parse_day zone d h⟩
  · rw [parse_local zone ht j, hvalue, map_truncate fun i => truncate_of_ofNaive ht hzone]
  · rw [parse_local zone ht j, hvalue]
    cases ofNaive zone t false <;> rfl

/-- Half past two in the night in which summer time begins: in Paris there is no such time. -/
def skippedHour : DateTime :=
  ⟨(Date.of? 2021 3 28).get (by decide), (TimeOfDay.of? 2 30 0).get (by decide)⟩

def minusHalfPastFive : ClockOffset := ⟨true, 5, 30, by decide, by decide⟩

theorem text_and_value_agree_paris :
    skippedHour.time.micro = 0 ∧
    parse (.region "Europe/Paris") "2021-03-28 02:30:00" =
      ((When.time { civil := skippedHour }).instant (.region "Europe/Paris")).map some ∧
    parse (.region "Europe/Paris") "2021-03-28T02:30:00-05:30" =
      ((When.time { civil := skippedHour, zone := some (.fixed (-19800000000)) }).instant
        (.region "Europe/Paris")).map some ∧
    parse (.given (.fixed 1)) "0001:01:01" =
      ((When.date Date.first).instant .universal).map some := by
  have hmicro : skippedHour.time.micro = 0 := by decide
  have hzone : (LocalZone.region "Europe/Paris").WholeAt skippedHour false :=
    Zone.wholeAt_named _ _ _ _
  have hblank : String.ofList (skippedHour.chars .blank) = "2021-03-28 02:30:00" := by
    decide +kernel
  have hoffset : String.ofList (skippedHour.chars .letter ++ minusHalfPastFive.chars true) =
      "2021-03-28T02:30:00-05:30" := by
    decide +kernel
  have hday : String.ofList (Date.first.chars ':') = "0001:01:01" := by decide +kernel
  have hlocal := (text_and_value_agree (.region "Europe/Paris") skippedHour hmicro .blank).1
  have htold := (text_and_value_agree (.region "Europe/Paris") skippedHour hmicro .letter).2
  have hdays := (text_and_value_agree (.given (.fixed 1)) skippedHour hmicro .blank).2.2.2.2
  rw [hblank] at hlocal
  have hfive := htold.2.2.1 minusHalfPastFive true
  rw [hoffset] at hfive
  have hfirst := hdays Date.first ':' (Or.inr rfl)
  rw [hday] at hfirst
  exact ⟨hmicro, hlocal hzone, hfive, hfirst⟩

def newYear : DateTime := ⟨(Date.of? 2021 1 1).get (by decide), TimeOfDay.midnight⟩

/-- In a zone half a second ahead of universal time a text is read half a second before it, and
the value of the same time a whole second. -/
theorem half_seconds_tell_text_from_value :
    newYear.time.micro = 0 ∧
    String.ofList (newYear.chars .letter) = "2021-01-01T00:00:00" ∧
    parse (.given (.fixed 500000)) "2021-01-01T00:00:00" ≠
      ((When.time { civil := newYear }).instant (.given (.fixed 500000))).map some := by
  decide +kernel

end Instant

end MetadataBag
