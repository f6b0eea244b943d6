import MetadataBag.Date.Civil
import MetadataBag.Error

/-!
Time zones. A zone has a fixed offset, or a name and an offset for every civil time; of a civil
time that occurs twice or never, the fold tells which of two offsets is meant. Times without a
zone are told in a given one or in the system's.

Which names there are, and which clock the system has, is not known here. The regions at the end
are some of a zone table, with the rules of the present day for all years.
-/

namespace MetadataBag

inductive Zone where
  /-- An offset in microseconds east of the prime meridian. -/
  | fixed (micros : Int)
  /-- A name, and for a civil time and its fold the seconds that clocks are ahead. -/
  | named (name : String) (ahead : DateTime → Bool → Int)

/-- The offset of a civil time in microseconds. -/
def Zone.offset : Zone → DateTime → Bool → Int
  | .fixed micros, _, _ => micros
  | .named _ ahead, t, fold => ahead t fold * 1000000

/-- The system's zone: the seconds that its clocks are ahead of universal time when they show a
time, or why that cannot be told. -/
structure SystemZone where
  ahead : DateTime → Bool → Except Error Int
  short : ∀ {t fold n}, ahead t fold = .ok n → -86400 < n ∧ n < 86400

/-- What times without an offset are told in. -/
inductive LocalZone where
  | given (z : Zone)
  | system (s : SystemZone)

/-- A system on universal time. To tell the offset it looks into the day before the time, or with
fold 1 into the day after. -/
def SystemZone.universal : SystemZone where
  ahead t fold :=
    if !fold && t.date = Date.first then .error (.yearRange 0)
    else if fold && t.date = Date.last then .error (.yearRange 10000)
    else .ok 0
  short := by
    intro t fold n h
    split at h
    · cases h
    · split at h
      · cases h
      · cases h
        decide

def LocalZone.universal : LocalZone := .system .universal

/-- The zones of a zone table by their names; an unknown name is no failure. -/
abbrev ZoneTable := String → Except Error (Option Zone)

/-- The zone of a configured name. Without a name, and where the name is not known, it is the
system's. -/
def LocalZone.load (table : ZoneTable) (system : SystemZone) :
    Option String → Except Error LocalZone
  | none => .ok (.system system)
  | some name =>
    if name = "" then .ok (.system system)
    else (table name).map fun z => (z.map given).getD (.system system)

/-- A civil time, its fold, and the zone it is told in, if it is told in one. -/
structure Timestamp where
  civil : DateTime
  fold : Bool := false
  zone : Option Zone := none

/-- The offset of a timestamp that has a zone. -/
def Timestamp.offset? (t : Timestamp) : Option Int :=
  t.zone.map fun z => z.offset t.civil t.fold

/-! ### Regions -/

/-- Which Sunday of a month. -/
inductive Sunday where
  | first
  | second
  | last
  deriving DecidableEq, Repr

/-- A change of the clock: a Sunday of a month and the second of that day, by the clock before. -/
structure Change where
  month : Nat
  sunday : Sunday
  second : Nat
  deriving DecidableEq, Repr

/-- Summer time: its offset in seconds, and the changes at its start and its end. -/
structure Summer where
  offset : Int
  start : Change
  finish : Change
  deriving DecidableEq, Repr

/-- A region with a summer time between two Sundays of each year, or with none; offsets are seconds
east of the prime meridian. -/
structure Region where
  name : String
  standard : Int
  summer : Option Summer := none
  deriving DecidableEq, Repr

namespace Change

/-- The day of the month of a change: counted from the first Sunday on, or the last Sunday. -/
def day (c : Change) (year : Nat) : Nat :=
  let firstOfMonth := daysBeforeYear year + daysBeforeMonth year c.month
  let firstSunday := 7 - firstOfMonth % 7
  match c.sunday with
  | .first => firstSunday
  | .second => firstSunday + 7
  | .last => firstSunday + (daysInMonth year c.month - firstSunday) / 7 * 7

/-- Seconds from the first midnight of year 1 to the change, by the clock before it. -/
def seconds (c : Change) (year : Nat) : Int :=
  ((daysBeforeYear year + daysBeforeMonth year c.month + (c.day year - 1)) * 86400 + c.second : Nat)

end Change

def Region.inSummer (r : Region) (s : Summer) (year : Nat) (second : Int) (fold : Bool) : Bool :=
  let gap := s.offset - r.standard
  let start := s.start.seconds year + if fold then 0 else gap
  let finish := s.finish.seconds year - if fold then gap else 0
  -- in the south summer lies over the turn of the year
  if start < finish then decide (start ≤ second ∧ second < finish)
  else !decide (finish ≤ second ∧ second < start)

/-- The seconds that a region's clocks are ahead when they show a time. They are set by the clock
before the change: a time that occurs twice has the earlier offset with fold 0 and the later with
fold 1, and one that is skipped has the offset before the change with fold 0. -/
def Region.ahead (r : Region) (t : DateTime) (fold : Bool) : Int :=
  match r.summer with
  | none => r.standard
  | some s =>
    if r.inSummer s t.date.year (t.micros / 1000000 : Nat) fold then s.offset else r.standard

def Region.zone (r : Region) : Zone := .named r.name r.ahead

/-- Central European time and its neighbours change at one o'clock universal time. -/
def europeanSummer (standard : Int) : Summer where
  offset := standard + 3600
  start := ⟨3, .last, (3600 + standard).toNat⟩
  finish := ⟨10, .last, (7200 + standard).toNat⟩

/-- North American clocks change at two o'clock. -/
def americanSummer (standard : Int) : Summer where
  offset := standard + 3600
  start := ⟨3, .second, 7200⟩
  finish := ⟨11, .first, 7200⟩

/-- South-east Australian clocks change at two o'clock standard time. -/
def australianSummer (standard : Int) : Summer where
  offset := standard + 3600
  start := ⟨10, .first, 7200⟩
  finish := ⟨4, .first, 10800⟩

/-- Regions with the rules of the present day. -/
def regions : List Region :=
  [ { name := "UTC", standard := 0 },
    { name := "GMT", standard := 0 },
    { name := "Etc/UTC", standard := 0 },
    { name := "Etc/GMT", standard := 0 },
    { name := "Etc/GMT+5", standard := -18000 },
    { name := "Asia/Kolkata", standard := 19800 },
    { name := "Asia/Kathmandu", standard := 20700 },
    { name := "Asia/Tokyo", standard := 32400 },
    { name := "Asia/Shanghai", standard := 28800 },
    { name := "Asia/Singapore", standard := 28800 },
    { name := "Pacific/Kiritimati", standard := 50400 },
    { name := "Europe/London", standard := 0, summer := some (europeanSummer 0) },
    { name := "Europe/Paris", standard := 3600, summer := some (europeanSummer 3600) },
    { name := "Europe/Berlin", standard := 3600, summer := some (europeanSummer 3600) },
    { name := "America/New_York", standard := -18000, summer := some (americanSummer (-18000)) },
    { name := "America/Chicago", standard := -21600, summer := some (americanSummer (-21600)) },
    { name := "America/Denver", standard := -25200, summer := some (americanSummer (-25200)) },
    { name := "America/Los_Angeles", standard := -28800, summer := some (americanSummer (-28800)) },
    { name := "Australia/Sydney", standard := 36000, summer := some (australianSummer 36000) } ]

def Zone.named? (name : String) : Option Zone :=
  (regions.find? fun r => r.name = name).map Region.zone

/-- The table that knows these regions and no other zone. -/
def ZoneTable.ofRegions : ZoneTable := fun name => .ok (Zone.named? name)

def LocalZone.region (name : String) : LocalZone := ((Zone.named? name).map given).getD universal

end MetadataBag
