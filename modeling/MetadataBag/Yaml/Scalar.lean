import MetadataBag.Decimal.Integer
import MetadataBag.Decimal.Real
import MetadataBag.Error
import MetadataBag.Text.Fields
import MetadataBag.Value

/-!
Scalars of YAML: the tag that the text of a plain scalar has, and the value that a text has
under a tag.
-/

namespace MetadataBag.Yaml

inductive Tag where
  | null
  | bool
  | int
  | float
  | binary
  | timestamp
  | omap
  | pairs
  | set
  | str
  | seq
  | map
  /-- The key under which another mapping is merged. -/
  | merge
  /-- The key of a mapping that stands for a scalar. -/
  | value
  /-- A tag that no value has. -/
  | unknown
  deriving DecidableEq, Repr

namespace Tag

/-- What the names of the common tags begin with. -/
def lead : String := "tag:yaml.org,2002:"

def named : List (String × Tag) :=
  [ ("null", null), ("bool", bool), ("int", int), ("float", float), ("binary", binary),
    ("timestamp", timestamp), ("omap", omap), ("pairs", pairs), ("set", set), ("str", str),
    ("seq", seq), ("map", map), ("merge", merge), ("value", value) ]

def ofName (name : String) : Tag :=
  ((named.find? fun e => lead ++ e.1 = name).map (·.2)).getD unknown

end Tag

/-! ### Shapes of plain scalars -/

/-- A word in lower case, with a capital, or in upper case. -/
def spellings (word : String) : List (List Char) :=
  [word.toList, word.capitalize.toList, (word.map Char.toUpper).toList]

def truths : List (String × Bool) :=
  [("yes", true), ("no", false), ("true", true), ("false", false), ("on", true), ("off", false)]

def isTruth (cs : List Char) : Bool := truths.any fun e => (spellings e.1).contains cs

def isNull (cs : List Char) : Bool := cs = [] || cs = ['~'] || (spellings "null").contains cs

def isDigitOrBar (c : Char) : Bool := c.isDigit || c = '_'

/-- Digits and underscores that begin with a digit. -/
def isDigits : List Char → Bool
  | [] => false
  | c :: rest => c.isDigit && rest.all isDigitOrBar

def isSixtieth : List Char → Bool
  | [a] => a.isDigit
  | [a, b] => decide ('0' ≤ a ∧ a ≤ '5') && b.isDigit
  | _ => false

/-- One of the characters and at least one in all. -/
def consistsOf (p : Char → Bool) (cs : List Char) : Bool := cs ≠ [] && cs.all p

def isInteger (cs : List Char) : Bool :=
  match (Decimal.splitSign cs).2 with
  | '0' :: 'b' :: rest => consistsOf (fun c => c = '0' || c = '1' || c = '_') rest
  | '0' :: 'x' :: rest => consistsOf (fun c => (hexValue? c).isSome || c = '_') rest
  | '0' :: rest => rest.all fun c => decide ('0' ≤ c ∧ c ≤ '7') || c = '_'
  | rest =>
    match Text.fields ':' rest with
    | first :: more => isDigits first && more.all isSixtieth
    | [] => false
where
  /-- The value of a hexadecimal digit. -/
  hexValue? (c : Char) : Option Nat :=
    if c.isDigit then some (c.toNat - 48)
    else if 'a' ≤ c ∧ c ≤ 'f' then some (c.toNat - 87)
    else if 'A' ≤ c ∧ c ≤ 'F' then some (c.toNat - 55)
    else none

def isExponent : List Char → Bool
  | [] => true
  | e :: sign :: digits =>
    (e = 'e' || e = 'E') && (sign = '-' || sign = '+') && consistsOf Char.isDigit digits
  | _ => false

def isFloat (cs : List Char) : Bool :=
  let rest := (Decimal.splitSign cs).2
  let hasSign := rest.length < cs.length
  match rest with
  | '.' :: word =>
    (spellings "inf").contains word ||
      !hasSign && (["nan".toList, "NaN".toList, "NAN".toList].contains word ||
        match word with
        | c :: word => c.isDigit && isExponent (word.dropWhile isDigitOrBar)
        | [] => false)
  | _ =>
    let whole := rest.takeWhile (· ≠ '.')
    match rest.drop whole.length with
    | [] => false
    | _ :: fraction =>
      match Text.fields ':' whole with
      | [digits] => isDigits digits && isExponent (fraction.dropWhile isDigitOrBar)
      | first :: more => isDigits first && more.all isSixtieth && fraction.all isDigitOrBar
      | [] => false

/-! ### Timestamps -/

def oneOrTwo : List Char → Option (List Char × List Char)
  | a :: b :: rest =>
    if a.isDigit then if b.isDigit then some ([a, b], rest) else some ([a], b :: rest) else none
  | [a] => if a.isDigit then some ([a], []) else none
  | [] => none

def two : List Char → Option (List Char × List Char)
  | a :: b :: rest => if a.isDigit && b.isDigit then some ([a, b], rest) else none
  | _ => none

def four (cs : List Char) : Option (List Char × List Char) := do
  let (a, rest) ← two cs
  let (b, rest) ← two rest
  some (a ++ b, rest)

def after (c : Char) : List Char → Option (List Char)
  | d :: rest => if c = d then some rest else none
  | [] => none

/-- An offset in minutes, none where a time has none. -/
def zoneOf : List Char → Option (Option Int)
  | ['Z'] => some (some 0)
  | sign :: rest =>
    if sign = '+' ∨ sign = '-' then do
      let (hours, rest) ← oneOrTwo rest
      let minutes ← match rest with
        | [] => some 0
        | _ => do
          let (minutes, rest) ← two (← after ':' rest)
          if rest = [] then some (Text.number minutes) else none
      let size : Int := Text.number hours * 60 + minutes
      some (some (if sign = '-' then -size else size))
    else none
  | [] => some none

/-- A timestamp as it is written. -/
structure Written where
  /-- Year, month and day in digits. -/
  day : List (List Char)
  /-- Hours, minutes, seconds and the digits of a fraction, and the offset in minutes. -/
  time : Option (List (List Char) × List Char × Option Int) := none

def Written.ofChars (cs : List Char) : Option Written := do
  let (y, rest) ← four cs
  let (m, rest) ← oneOrTwo (← after '-' rest)
  let (d, rest) ← oneOrTwo (← after '-' rest)
  match rest with
  | [] => some { day := [y, m, d] }
  | c :: rest =>
    let rest ←
      if c = 't' ∨ c = 'T' then some rest
      else if c = ' ' ∨ c = '\t' then some (rest.dropWhile fun c => c = ' ' || c = '\t')
      else none
    let (h, rest) ← oneOrTwo rest
    let (mi, rest) ← two (← after ':' rest)
    let (s, rest) ← two (← after ':' rest)
    let (fraction, rest) := match rest with
      | '.' :: rest => (rest.takeWhile Char.isDigit, rest.dropWhile Char.isDigit)
      | _ => ([], rest)
    let tail := rest.dropWhile fun c => c = ' ' || c = '\t'
    let zone ← zoneOf tail
    if tail = [] ∧ rest ≠ [] then none
    else some { day := [y, m, d], time := some ([h, mi, s], fraction, zone) }

/-- Whether a plain scalar is a timestamp: a day alone has two digits for month and day. -/
def isTimestamp (cs : List Char) : Bool :=
  match Written.ofChars cs with
  | none => false
  | some w => w.time.isSome || (w.day.drop 1).all fun part => part.length = 2

/-- The tag of a plain scalar. A line break at the end does not count. -/
def Tag.ofPlain (text : String) : Tag :=
  let cs := match text.toList.reverse with
    | '\n' :: c :: rest => (c :: rest).reverse
    | _ => text.toList
  -- a text can have several of the shapes; the first one counts
  if isTruth cs then .bool
  else if isFloat cs then .float
  else if isInteger cs then .int
  else if cs = ['<', '<'] then .merge
  else if isNull cs then .null
  else if isTimestamp cs then .timestamp
  else if cs = ['='] then .value
  else if cs = ['&'] ∨ cs = ['!'] ∨ cs = ['*'] then .unknown
  else .str

/-! ### Values -/

def invalid {α : Type} (reason : String) : Except Error α := .error (.scalar reason)

def truthOf (s : String) : Except Error Value :=
  let key := s.map Char.toLower
  match truths.find? fun e => e.1 = key with
  | some (_, b) => .ok (.bool b)
  | none => .error (.notTruth key)

def baseNumber (base : Nat) (cs : List Char) : Except Error Int :=
  let digits := cs.map isInteger.hexValue?
  if cs = [] || digits.any (fun d => (d.map fun n => decide (n < base)) != some true) then
    invalid "no digits of the base"
  else .ok (digits.foldl (fun n d => base * n + d.getD 0) 0 : Nat)

/-- Decimal digits with a sign, and blanks around them, as a number. -/
def decimalOf (cs : List Char) : Except Error Int :=
  let trimmed := ((cs.dropWhile Text.isBlank).reverse.dropWhile Text.isBlank).reverse
  match Decimal.signed? trimmed with
  | none => invalid "no decimal digits"
  | some n =>
    if Decimal.digitLimit < n.digits.length then .error (.digitsRead n.digits.length)
    else .ok n.value

/-- The number of several parts, each a sixtieth of the one before. -/
def sexagesimal : List (List Char) → Int → Except Error Int
  | [], n => .ok n
  | part :: rest, n => do
    let d ← decimalOf part
    sexagesimal rest (60 * n + d)

/-- A text as a whole number: binary, octal, hexadecimal, decimal, or in sixtieths. -/
def integerOf (s : String) : Except Error Value :=
  match s.toList.filter (· ≠ '_') with
  | [] => .error .emptyScalar
  | c :: rest =>
    let (negative, cs) := Decimal.splitSign (c :: rest)
    let size : Except Error Int := match cs with
      | [] => .error .emptyScalar
      | ['0'] => .ok 0
      | '0' :: 'b' :: digits => baseNumber 2 digits
      | '0' :: 'x' :: digits => baseNumber 16 digits
      | '0' :: digits => baseNumber 8 digits
      | _ =>
        if cs.contains ':' then sexagesimal (Text.fields ':' cs) 0 else decimalOf cs
    size.map fun n => .integer (if negative then -n else n)

/-- The sum of several parts, the last whole and each one before it sixty times the next. -/
def sexagesimalReal : List (List Char) → Nat → Float → Except Error Float
  | [], _, x => .ok x
  | part :: rest, base, x =>
    match Decimal.real? part with
    | none => invalid "no number"
    | some d => sexagesimalReal rest (base * 60) (x + d * Decimal.nearest base 0)

def realOf (s : String) : Except Error Value :=
  match (s.toList.filter (· ≠ '_')).map Char.toLower with
  | [] => .error .emptyScalar
  | c :: rest =>
    let (negative, cs) := Decimal.splitSign (c :: rest)
    let size : Except Error Float :=
      if cs = ".inf".toList then .ok (1.0 / 0.0)
      else if cs = ".nan".toList then .ok (0.0 / 0.0)
      else if cs.contains ':' then sexagesimalReal (Text.fields ':' cs).reverse 1 0.0
      else
        match Decimal.real? cs with
        | none => invalid "no number"
        | some x => .ok x
    size.map fun x => .real (if negative then -x else x)

def dateOf (day : List (List Char)) : Option Date :=
  match day with
  | [y, m, d] => Date.of? (Text.number y) (Text.number m) (Text.number d)
  | _ => none

/-- The first six digits of a fraction as microseconds. -/
def microsOf (fraction : List Char) : Nat :=
  let digits := fraction.take 6
  Text.number digits * Nat.pow 10 (6 - digits.length)

def timestampOf (s : String) : Except Error Value :=
  let cs := match s.toList.reverse with
    | '\n' :: rest => rest.reverse
    | _ => s.toList
  match Written.ofChars cs with
  | none => .error (.noMember "no timestamp")
  | some w =>
    match w.time with
    | none =>
      match dateOf w.day with
      | none => invalid "no day of the calendar"
      | some d => .ok (.date d)
    | some (parts, fraction, offset) =>
      let time := match parts.map Text.number with
        | [h, m, sec] => TimeOfDay.of? h m sec (microsOf fraction)
        | _ => none
      let offsetFits := (offset.map fun o => decide (o.natAbs < 1440)).getD true
      match offsetFits, dateOf w.day, time with
      | true, some d, some t =>
        .ok (.timestamp { civil := ⟨d, t⟩, zone := offset.map fun o => .fixed (o * 60000000) })
      | _, _, _ => invalid "no point in time"

/-- The value of a character of sixty-four digits. -/
def sixBits? (c : Char) : Option Nat :=
  if 'A' ≤ c ∧ c ≤ 'Z' then some (c.toNat - 65)
  else if 'a' ≤ c ∧ c ≤ 'z' then some (c.toNat - 71)
  else if c.isDigit then some (c.toNat + 4)
  else if c = '+' then some 62
  else if c = '/' then some 63
  else none

/-- Decodes groups of four digits, `held` digits of the group at hand being read, of which `bits`
are not yet used. Other characters are skipped; enough padding ends the text. -/
def bytesFrom (held bits pads : Nat) (done : List UInt8) : List Char → Option (List UInt8)
  | [] => if held = 0 then some done.reverse else none
  | '=' :: rest =>
    if 2 ≤ held ∧ 4 ≤ held + pads + 1 then some done.reverse
    else bytesFrom held bits (if 2 ≤ held then pads + 1 else pads) done rest
  | c :: rest =>
    match sixBits? c with
    | none => bytesFrom held bits pads done rest
    | some d =>
      match held with
      | 0 => bytesFrom 1 d 0 done rest
      | 1 => bytesFrom 2 (d % 16) 0 (UInt8.ofNat (bits * 4 + d / 16) :: done) rest
      | 2 => bytesFrom 3 (d % 4) 0 (UInt8.ofNat (bits * 16 + d / 4) :: done) rest
      | _ => bytesFrom 0 0 0 (UInt8.ofNat (bits * 64 + d) :: done) rest

def binaryOf (s : String) : Except Error Value :=
  if s.toList.any fun c => 0x80 ≤ c.toNat then .error (.yaml "bytes beyond the digits")
  else
    match bytesFrom 0 0 0 [] s.toList with
    | none => .error (.yaml "an incomplete group of digits")
    | some bs => .ok (.bytes bs)

/-- The value of a text under a tag of scalars; none for other tags. -/
def scalarOf (tag : Tag) (s : String) : Option (Except Error Value) :=
  match tag with
  | .null => some (.ok .null)
  | .bool => some (truthOf s)
  | .int => some (integerOf s)
  | .float => some (realOf s)
  | .binary => some (binaryOf s)
  | .timestamp => some (timestampOf s)
  | .str => some (.ok (.text s))
  | _ => none

end MetadataBag.Yaml
