import MetadataBag.Date.Format
import MetadataBag.Date.Zone

/-!
Dates and times of day as instants, and instants as text.

Reading takes the first accepted format. Writing gives universal time to the second in twenty
characters. Times without an offset are told in a default zone or in the system's.
-/

namespace MetadataBag

/-- A point in time, told in universal time. -/
structure Instant where
  utc : DateTime
  deriving DecidableEq, Repr, Inhabited

/-- Microseconds since the first midnight of year 1. -/
def Instant.micros (i : Instant) : Nat := i.utc.micros

inductive When where
  | date (d : Date)
  | time (t : Timestamp)

/-- The instant at which a clock `offset` microseconds ahead of universal time shows a time. -/
def Instant.ofOffset (civil : DateTime) (offset : Int) : Except Error Instant :=
  match civil.shift (-offset) with
  | none => .error .instantRange
  | some utc => .ok ⟨utc⟩

def Instant.ofZone (civil : DateTime) (fold : Bool) (z : Zone) : Except Error Instant :=
  ofOffset civil (z.offset civil fold)

def Instant.ofSystem (s : SystemZone) (civil : DateTime) (fold : Bool) : Except Error Instant :=
  (s.ahead civil fold).bind fun n => ofOffset civil (n * 1000000)

def Instant.ofNaive (zone : LocalZone) (civil : DateTime) (fold : Bool) : Except Error Instant :=
  match zone with
  | .given z => ofZone civil fold z
  | .system s => ofSystem s civil fold

/-- Calendar dates are placed at midday. -/
def Instant.ofDate (d : Date) : Instant := ⟨⟨d, TimeOfDay.midday⟩⟩

/-- The instant of a date or a timestamp, to the second; the rest is dropped. -/
def When.instant (zone : LocalZone) : When → Except Error Instant
  | .date d => .ok (.ofDate d)
  | .time t =>
    (match t.zone with
      | some z => Instant.ofZone t.civil t.fold z
      | none => Instant.ofNaive zone t.civil t.fold).map fun (i : Instant) => ⟨i.utc.truncate⟩

/-- The last `width` decimal digits of a number. -/
def decimal : Nat → Nat → List Char
  | 0, _ => []
  | width + 1, n => decimal width (n / 10) ++ [Nat.digitChar (n % 10)]

def Instant.chars (i : Instant) : List Char :=
  let d := i.utc.date
  let t := i.utc.time
  decimal 4 d.year ++ '-' :: decimal 2 d.month ++ '-' :: decimal 2 d.day ++ 'T' ::
    decimal 2 t.hour ++ ':' :: decimal 2 t.minute ++ ':' :: decimal 2 t.second ++ ['Z']

/-- The canonical text `yyyy-mm-ddThh:mm:ssZ`. -/
def Instant.text (i : Instant) : String := String.ofList i.chars

def When.text (zone : LocalZone) (w : When) : Except Error String :=
  (w.instant zone).map Instant.text

/-- Places what a format has read on the time line. -/
def Placement.instant (p : Placement) (zone : LocalZone) (civil : DateTime)
    (offset : Option Int) : Except Error Instant :=
  match p with
  | .universal => .ok ⟨civil⟩
  | .midday => .ok (.ofDate civil.date)
  | .offset => Instant.ofOffset civil (offset.getD 0)
  | .defaultZone => Instant.ofNaive zone civil false

/-- The instant of the first format that accepts a text. -/
def Instant.readBy (formats : List Format) (zone : LocalZone) (cs : List Char) :
    Except Error (Option Instant) :=
  match formats.findSome? fun f => (f.read cs).map fun r => (f.placement, r) with
  | none => .ok none
  | some (p, civil, offset) => (p.instant zone civil offset).map some

/-- The instant that a text names, if it has an accepted format. -/
def Instant.parse (zone : LocalZone) (s : String) : Except Error (Option Instant) :=
  readBy Format.accepted zone (normalizeOffset s.toList)

end MetadataBag
