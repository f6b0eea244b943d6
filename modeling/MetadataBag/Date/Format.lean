import MetadataBag.Text.Digit
import MetadataBag.Text.Blank
import MetadataBag.Date.Civil

/-!
Lenient formats of date texts. A field takes the first of its shapes that the text starts with;
letters match in either case; a blank in a format matches one or more blanks. A format accepts a
text if it uses it up and the fields name a day, a time of day and an offset below 24 hours.
-/

namespace MetadataBag

/-- The characters that may stand at one place of a field. -/
inductive DigitClass where
  | range (first last : Char)
  | any
  | space
  deriving DecidableEq, Repr

def DigitClass.holds : DigitClass → Char → Bool
  | .range first last, c => decide (first ≤ c ∧ c ≤ last)
  | .any, c => Text.isDigit c
  | .space, c => c = ' '

inductive Field where
  | year
  | month
  | day
  | hour
  | minute
  | second
  deriving DecidableEq, Repr

/-- The shapes of a field, in the order in which they are tried. -/
def Field.shapes : Field → List (List DigitClass)
  | .year => [[.any, .any, .any, .any]]
  | .month => [[.range '1' '1', .range '0' '2'], [.range '0' '0', .range '1' '9'], [.range '1' '9']]
  | .day =>
    [[.range '3' '3', .range '0' '1'], [.range '1' '2', .any], [.range '0' '0', .range '1' '9'],
     [.range '1' '9'], [.space, .range '1' '9']]
  | .hour => [[.range '2' '2', .range '0' '3'], [.range '0' '1', .any], [.any]]
  | .minute => [[.range '0' '5', .any], [.any]]
  | .second => [[.range '6' '6', .range '0' '1'], [.range '0' '5', .any], [.any]]

/-- Reads one character per class; gives the characters and the rest. -/
def readShape : List DigitClass → List Char → Option (List Char × List Char)
  | [], cs => some ([], cs)
  | _ :: _, [] => none
  | k :: ks, c :: cs =>
    if k.holds c then (readShape ks cs).map fun r => (c :: r.1, r.2) else none

/-- Reads a number in the first shape that fits; a space counts as a leading zero. -/
def Field.read (f : Field) (cs : List Char) : Option (Nat × List Char) :=
  (f.shapes.findSome? (readShape · cs)).map fun r => (Text.number r.1, r.2)

/-- An offset as it is written: sign, hours and minutes, and perhaps seconds and a fraction of up
to six digits. The colons are kept to tell mixed forms. -/
structure OffsetText where
  negative : Bool
  hours : Nat
  colon : Bool
  minutes : Nat
  /-- Whether a colon stands in front of the seconds, the seconds, and the microseconds. -/
  seconds : Option (Bool × Nat × Nat) := none
  deriving DecidableEq, Repr

def twoDigits : List DigitClass := [.any, .any]
def sixtieth : List DigitClass := [.range '0' '5', .any]

def readColon : List Char → Bool × List Char
  | ':' :: rest => (true, rest)
  | cs => (false, cs)

def readDigits : Nat → List Char → List Char × List Char
  | 0, cs => ([], cs)
  | _ + 1, [] => ([], [])
  | n + 1, c :: cs =>
    if Text.isDigit c then ((c :: (readDigits n cs).1), (readDigits n cs).2) else ([], c :: cs)

/-- Reads a fraction of a second as microseconds; without one the text stays as it is. -/
def readFraction (cs : List Char) : Nat × List Char :=
  match cs with
  | '.' :: rest =>
    match readDigits 6 rest with
    | ([], _) => (0, cs)
    | (ds, rest') => (Text.number ds * Nat.pow 10 (6 - ds.length), rest')
  | _ => (0, cs)

/-- Reads the seconds of an offset; without them the text stays as it is. -/
def readOffsetSeconds (cs : List Char) : Option (Bool × Nat × Nat) × List Char :=
  let (colon, rest) := readColon cs
  match readShape sixtieth rest with
  | none => (none, cs)
  | some (ds, rest') =>
    let (micros, rest'') := readFraction rest'
    (some (colon, Text.number ds, micros), rest'')

def readOffsetText (cs : List Char) : Option (OffsetText × List Char) :=
  match cs with
  | [] => none
  | sign :: rest =>
    if sign = '+' ∨ sign = '-' then do
      let (hs, rest) ← readShape twoDigits rest
      let (colon, rest) := readColon rest
      let (ms, rest) ← readShape sixtieth rest
      let (seconds, rest) := readOffsetSeconds rest
      some ({ negative := decide (sign = '-'), hours := Text.number hs, colon,
              minutes := Text.number ms, seconds }, rest)
    else none

def hourMicros : Int := 3600000000
def minuteMicros : Int := 60000000
def secondMicros : Int := 1000000
def dayMicros : Int := 86400000000

/-- The offset in microseconds. Colons stand between all parts or between none, and an offset is
shorter than a day. -/
def OffsetText.micros? (o : OffsetText) : Option Int :=
  let whole := o.hours * hourMicros + o.minutes * minuteMicros
  let size? : Option Int := match o.seconds with
    | none => some whole
    | some (colon, s, u) => if colon = o.colon then some (whole + s * secondMicros + u) else none
  size?.bind fun size =>
    if size < dayMicros then some (if o.negative then -size else size) else none

inductive Item where
  | field (f : Field)
  | literal (c : Char)
  | blank
  /-- An offset, or a capital `Z` for the offset zero. -/
  | offset
  deriving DecidableEq, Repr

/-- What the fields of a text have given so far. An offset that is no offset is kept as such: the
text then has the shape of the format, and still names no time. -/
structure Parts where
  year : Nat := 1900
  month : Nat := 1
  day : Nat := 1
  hour : Nat := 0
  minute : Nat := 0
  second : Nat := 0
  offset : Option (Option Int) := none
  deriving DecidableEq, Repr

def Parts.set (p : Parts) (f : Field) (n : Nat) : Parts :=
  match f with
  | .year => { p with year := n }
  | .month => { p with month := n }
  | .day => { p with day := n }
  | .hour => { p with hour := n }
  | .minute => { p with minute := n }
  | .second => { p with second := n }

def Item.read (i : Item) (p : Parts) (cs : List Char) : Option (Parts × List Char) :=
  match i with
  | .field f => (f.read cs).map fun r => (p.set f r.1, r.2)
  | .literal l =>
    match cs with
    | [] => none
    | c :: rest => if c = l ∨ c.toLower = l.toLower then some (p, rest) else none
  | .blank =>
    match cs with
    | [] => none
    | c :: rest => if Text.isBlank c then some (p, rest.dropWhile Text.isBlank) else none
  | .offset =>
    match cs with
    | 'Z' :: rest => some ({ p with offset := some (some 0) }, rest)
    | _ => (readOffsetText cs).map fun r => ({ p with offset := some r.1.micros? }, r.2)

def readItems : List Item → Parts → List Char → Option (Parts × List Char)
  | [], p, cs => some (p, cs)
  | i :: is, p, cs => (i.read p cs).bind fun r => readItems is r.1 r.2

/-- How the civil time of a text is placed on the time line. -/
inductive Placement where
  /-- As universal time. -/
  | universal
  /-- By the offset in the text. -/
  | offset
  /-- In the default zone. -/
  | defaultZone
  /-- As midday of the day, universal time. -/
  | midday
  deriving DecidableEq, Repr

structure Format where
  items : List Item
  placement : Placement
  deriving DecidableEq, Repr

def Parts.civil? (p : Parts) : Option DateTime := do
  let date ← Date.of? p.year p.month p.day
  let time ← TimeOfDay.of? p.hour p.minute p.second
  some ⟨date, time⟩

/-- The civil time and the offset that a whole text gives. -/
def Format.read (f : Format) (cs : List Char) : Option (DateTime × Option Int) :=
  match readItems f.items {} cs with
  | some (p, []) => do
    let civil ← p.civil?
    match p.offset with
    | none => some (civil, none)
    | some none => none
    | some (some o) => some (civil, some o)
  | _ => none

namespace Format

def date (separator : Char) : List Item :=
  [.field .year, .literal separator, .field .month, .literal separator, .field .day]

def time : List Item :=
  [.field .hour, .literal ':', .field .minute, .literal ':', .field .second]

/-- The formats with date and time, for one thing between the two. -/
def withTime (between : Item) : List Format :=
  [ ⟨date '-' ++ [between] ++ time ++ [.literal 'Z'], .universal⟩,
    ⟨date '-' ++ [between] ++ time ++ [.offset], .offset⟩,
    ⟨date '-' ++ [between] ++ time, .defaultZone⟩ ]

def accepted : List Format :=
  withTime (.literal 'T') ++ withTime .blank ++ [⟨date '-', .midday⟩, ⟨date ':', .midday⟩]

end Format

/-- Drops the colon of an offset `±hh:mm` at the end of a text, reading backwards. -/
def dropColonBackwards : List Char → List Char
  | m₂ :: m₁ :: ':' :: h₂ :: h₁ :: sign :: rest =>
    if [m₂, m₁, h₂, h₁].all Text.isDigit && (sign = '+' || sign = '-') then
      m₂ :: m₁ :: h₂ :: h₁ :: sign :: rest
    else m₂ :: m₁ :: ':' :: h₂ :: h₁ :: sign :: rest
  | cs => cs

/-- Writes an offset `±hh:mm` at the end, or before a line break at the end, without its colon. -/
def normalizeOffset (cs : List Char) : List Char :=
  match cs.reverse with
  | '\n' :: rest => ('\n' :: dropColonBackwards rest).reverse
  | rest => (dropColonBackwards rest).reverse

end MetadataBag
