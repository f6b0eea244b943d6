/-!
Calendar dates and times of day of the years 1 to 9999, and the line of microseconds they lie on.
-/

namespace MetadataBag

def isLeap (year : Nat) : Bool := year % 4 = 0 && (year % 100 ≠ 0 || year % 400 = 0)

def daysInMonth (year month : Nat) : Nat :=
  if month = 2 then if isLeap year then 29 else 28
  else if month = 4 ∨ month = 6 ∨ month = 9 ∨ month = 11 then 30
  else 31

/-- Days from the first day of year 1 to the first day of a year. -/
def daysBeforeYear (year : Nat) : Nat :=
  365 * (year - 1) + (year - 1) / 4 - (year - 1) / 100 + (year - 1) / 400

def daysBeforeMonth (year : Nat) : Nat → Nat
  | 0 => 0
  | 1 => 0
  | month + 2 => daysBeforeMonth year (month + 1) + daysInMonth year (month + 1)

/-- A day of the proleptic Gregorian calendar. -/
structure Date where
  year : Nat
  month : Nat
  day : Nat
  year_pos : 1 ≤ year
  year_le : year ≤ 9999
  month_pos : 1 ≤ month
  month_le : month ≤ 12
  day_pos : 1 ≤ day
  day_le : day ≤ daysInMonth year month
  deriving DecidableEq, Repr

namespace Date

def of? (year month day : Nat) : Option Date :=
  if h : 1 ≤ year ∧ year ≤ 9999 ∧ 1 ≤ month ∧ month ≤ 12 ∧ 1 ≤ day ∧
      day ≤ daysInMonth year month then
    some ⟨year, month, day, h.1, h.2.1, h.2.2.1, h.2.2.2.1, h.2.2.2.2.1, h.2.2.2.2.2⟩
  else none

@[simp] theorem of?_self (d : Date) : of? d.year d.month d.day = some d := by
  obtain ⟨y, m, n, h₁, h₂, h₃, h₄, h₅, h₆⟩ := d
  simp [of?, h₁, h₂, h₃, h₄, h₅, h₆]

def first : Date := ⟨1, 1, 1, by decide, by decide, by decide, by decide, by decide, by decide⟩
def last : Date := ⟨9999, 12, 31, by decide, by decide, by decide, by decide, by decide, by decide⟩

instance : Inhabited Date := ⟨first⟩

def dayNumber (d : Date) : Nat :=
  daysBeforeYear d.year + daysBeforeMonth d.year d.month + (d.day - 1)

/-- The year in which a day lies, looked for upwards from a year that is not after it. -/
def yearFrom (n : Nat) (year : Nat) : Nat → Nat
  | 0 => year
  | fuel + 1 => if n < daysBeforeYear (year + 1) then year else yearFrom n (year + 1) fuel

/-- The month in which the `n`-th day of a year lies, looked for downwards. -/
def monthOf (year n : Nat) : Nat → Nat
  | 0 => 1
  | month + 1 =>
    if daysBeforeMonth year (month + 1) ≤ n then month + 1 else monthOf year n month

/-- The date of a day number. No year has more than 366 days, and up to year 9999 the search
upwards takes less than 24 steps. -/
def ofDayNumber? (n : Nat) : Option Date :=
  let year := yearFrom n (n / 366 + 1) 24
  let rest := n - daysBeforeYear year
  let month := monthOf year rest 12
  of? year month (rest - daysBeforeMonth year month + 1)

end Date

structure TimeOfDay where
  hour : Nat
  minute : Nat
  second : Nat
  micro : Nat
  hour_lt : hour < 24
  minute_lt : minute < 60
  second_lt : second < 60
  micro_lt : micro < 1000000
  deriving DecidableEq, Repr

namespace TimeOfDay

def of? (hour minute second : Nat) (micro : Nat := 0) : Option TimeOfDay :=
  if h : hour < 24 ∧ minute < 60 ∧ second < 60 ∧ micro < 1000000 then
    some ⟨hour, minute, second, micro, h.1, h.2.1, h.2.2.1, h.2.2.2⟩
  else none

@[simp] theorem of?_self (t : TimeOfDay) : of? t.hour t.minute t.second t.micro = some t := by
  obtain ⟨h, m, s, u, h₁, h₂, h₃, h₄⟩ := t
  simp [of?, h₁, h₂, h₃, h₄]

def midnight : TimeOfDay := ⟨0, 0, 0, 0, by decide, by decide, by decide, by decide⟩
def midday : TimeOfDay := ⟨12, 0, 0, 0, by decide, by decide, by decide, by decide⟩

instance : Inhabited TimeOfDay := ⟨midnight⟩

/-- Microseconds since midnight. -/
def micros (t : TimeOfDay) : Nat :=
  ((t.hour * 60 + t.minute) * 60 + t.second) * 1000000 + t.micro

def dayMicros : Nat := 86400000000

def ofMicros (n : Nat) : TimeOfDay where
  hour := n % dayMicros / 3600000000
  minute := n % 3600000000 / 60000000
  second := n % 60000000 / 1000000
  micro := n % 1000000
  hour_lt := by simp only [dayMicros]; omega
  minute_lt := by omega
  second_lt := by omega
  micro_lt := by omega

def truncate (t : TimeOfDay) : TimeOfDay := { t with micro := 0, micro_lt := by decide }

end TimeOfDay

structure DateTime where
  date : Date
  time : TimeOfDay
  deriving DecidableEq, Repr, Inhabited

namespace DateTime

/-- Microseconds since the first midnight of year 1. -/
def micros (t : DateTime) : Nat := t.date.dayNumber * TimeOfDay.dayMicros + t.time.micros

def ofMicros? (n : Int) : Option DateTime :=
  if n < 0 then none
  else
    (Date.ofDayNumber? (n.toNat / TimeOfDay.dayMicros)).map fun d => ⟨d, TimeOfDay.ofMicros n.toNat⟩

/-- Moves along the line of microseconds; none beyond the years 1 to 9999. -/
def shift (t : DateTime) (micros : Int) : Option DateTime := ofMicros? (t.micros + micros)

def truncate (t : DateTime) : DateTime := { t with time := t.time.truncate }

end DateTime

end MetadataBag
