import MetadataBag.Toml.Text
import MetadataBag.Value
import MetadataBag.Decimal.Real

/-!
Scalars of a TOML document that are no texts: truth values, dates and times, whole numbers and
real numbers. A scalar ends where no longer one begins; what follows is for others to judge.
-/

namespace MetadataBag.Toml

/-! ### Numbers -/

/-- Digits that may have one underscore before each. -/
def moreDigits (p : Char → Bool) : List Char → List Char × List Char
  | [] => ([], [])
  | ['_'] => ([], ['_'])
  | '_' :: d :: rest =>
    if p d then
      let (ds, rest) := moreDigits p rest
      (d :: ds, rest)
    else ([], '_' :: d :: rest)
  | d :: rest =>
    if p d then
      let (ds, rest) := moreDigits p rest
      (d :: ds, rest)
    else ([], d :: rest)

/-- One digit or more, with single underscores between. -/
def digits? (p : Char → Bool) (cs : List Char) : Option (List Char × List Char) :=
  match cs with
  | [] => none
  | d :: rest =>
    if p d then
      let (ds, rest) := moreDigits p rest
      some (d :: ds, rest)
    else none

def base? (c : Char) : Option Nat :=
  if c = 'x' then some 16 else if c = 'b' then some 2 else if c = 'o' then some 8 else none

def isDigitOf (base : Nat) (c : Char) : Bool :=
  match hexDigit? c with
  | some n => n < base
  | none => false

def numberIn (base : Nat) (cs : List Char) : Nat :=
  cs.foldl (fun n c => base * n + (hexDigit? c).getD 0) 0

def based? (cs : List Char) : Option (Nat × List Char) :=
  match cs with
  | '0' :: b :: rest =>
    (base? b).bind fun base =>
      (digits? (isDigitOf base) rest).map fun r => (numberIn base r.1, r.2)
  | _ => none

/-- The whole part of a decimal number: no zero stands before other digits. -/
def whole? (cs : List Char) : Option (List Char × List Char) :=
  match cs with
  | '0' :: rest => some (['0'], rest)
  | _ => digits? Char.isDigit cs

/-- A point and digits. -/
def fraction (cs : List Char) : List Char × List Char :=
  match cs with
  | '.' :: rest =>
    match digits? Char.isDigit rest with
    | some (ds, rest) => ('.' :: ds, rest)
    | none => ([], cs)
  | _ => ([], cs)

def exponent (cs : List Char) : List Char × List Char :=
  match cs with
  | e :: rest =>
    if e = 'e' ∨ e = 'E' then
      let (sign, digits) := match rest with
        | '-' :: rest => (['-'], rest)
        | '+' :: rest => ([], rest)
        | _ => ([], rest)
      match digits? Char.isDigit digits with
      | some (ds, rest) => ('e' :: sign ++ ds, rest)
      | none => ([], cs)
    else ([], cs)
  | [] => ([], [])

/-- A decimal number: a real one if it has a point or an exponent. Whole numbers have a limited
number of digits. -/
def decimal? (cs : List Char) : Option (Except Error Value × List Char) :=
  let (negative, unsigned) := Decimal.splitSign cs
  (whole? unsigned).map fun (whole, rest) =>
    let (point, rest) := fraction rest
    let (power, rest) := exponent rest
    if point = [] ∧ power = [] then
      let n : Int := numberIn 10 whole
      (if Decimal.digitLimit < whole.length then .error (.digitsRead whole.length)
        else .ok (.integer (if negative then -n else n)), rest)
    else
      let x := (Decimal.unsigned? (whole ++ point ++ power)).getD 0
      (.ok (.real (if negative then -x else x)), rest)

/-- The words for what is not finite. -/
def special? (cs : List Char) : Option (Float × List Char) :=
  let (negative, unsigned) := Decimal.splitSign cs
  let signed (x : Float) : Float := if negative then -x else x
  match unsigned with
  | 'i' :: 'n' :: 'f' :: rest => some (signed (1.0 / 0.0), rest)
  | 'n' :: 'a' :: 'n' :: rest => some (signed (0.0 / 0.0), rest)
  | _ => none

/-! ### Dates and times -/

def fixed? : Nat → Nat → List Char → Option (Nat × List Char)
  | 0, n, cs => some (n, cs)
  | count + 1, n, c :: rest =>
    if c.isDigit then fixed? count (10 * n + (c.toNat - 0x30)) rest else none
  | _ + 1, _, [] => none

def behind? (c : Char) (cs : List Char) : Option (List Char) :=
  match cs with
  | d :: rest => if c = d then some rest else none
  | [] => none

def pair? (bound : Nat) (cs : List Char) : Option (Nat × List Char) :=
  (fixed? 2 0 cs).filter fun r => r.1 < bound

/-- The first six digits behind a point, as millionths. -/
def micros (cs : List Char) : Nat × List Char :=
  match cs with
  | '.' :: rest =>
    let ds := rest.takeWhile Char.isDigit
    if ds = [] then (0, cs)
    else
      let six := ds.take 6
      (numberIn 10 six * Nat.pow 10 (6 - six.length), rest.dropWhile Char.isDigit)
  | _ => (0, cs)

def time? (cs : List Char) : Option (TimeOfDay × List Char) := do
  let (h, cs) ← pair? 24 cs
  let cs ← behind? ':' cs
  let (m, cs) ← pair? 60 cs
  let cs ← behind? ':' cs
  let (s, cs) ← pair? 60 cs
  let (u, cs) := micros cs
  let t ← TimeOfDay.of? h m s u
  some (t, cs)

def offset (cs : List Char) : Option Zone × List Char :=
  let signed (sign : Int) (rest : List Char) : Option (Zone × List Char) := do
    let (h, rest) ← pair? 24 rest
    let rest ← behind? ':' rest
    let (m, rest) ← pair? 60 rest
    some (.fixed (sign * ((h * 60 + m) * 60000000 : Nat)), rest)
  let zone : Option (Zone × List Char) := match cs with
    | 'Z' :: rest | 'z' :: rest => some (.fixed 0, rest)
    | '+' :: rest => signed 1 rest
    | '-' :: rest => signed (-1) rest
    | _ => none
  match zone with
  | some (z, rest) => (some z, rest)
  | none => (none, cs)

def timeOfDate? (cs : List Char) : Option (TimeOfDay × List Char) :=
  match cs with
  | c :: rest => if c = 'T' ∨ c = 't' ∨ c = ' ' then time? rest else none
  | [] => none

def dateParts? (cs : List Char) : Option ((Nat × Nat × Nat) × List Char) := do
  let (y, cs) ← fixed? 4 0 cs
  let cs ← behind? '-' cs
  let (m, cs) ← pair? 13 cs
  let cs ← behind? '-' cs
  let (d, cs) ← pair? 32 cs
  if m = 0 ∨ d = 0 then none else some ((y, m, d), cs)

/-- A date, or a date and time. A day that its month does not have is an error. -/
def date? (cs : List Char) : Option (Except Error Value × List Char) :=
  (dateParts? cs).map fun ((y, m, d), cs) =>
    match Date.of? y m d with
    | none => (fault "no such day", cs)
    | some date =>
      match timeOfDate? cs with
      | none => (.ok (.date date), cs)
      | some (time, cs) =>
        let (zone, cs) := offset cs
        (.ok (.timestamp { civil := ⟨date, time⟩, fold := false, zone }), cs)

/-! ### Scalars -/

/-- Forms of scalars in the order in which they are tried. -/
def forms : List (List Char → Option (Except Error Value × List Char)) :=
  [ date?,
    fun cs => (time? cs).map fun r => (.ok (.time r.1), r.2),
    fun cs => (based? cs).map fun r => (.ok (.integer r.1), r.2),
    decimal?,
    fun cs => (special? cs).map fun r => (.ok (.real r.1), r.2) ]

def scalar (cs : List Char) : Except Error (Value × List Char) :=
  match cs with
  | 't' :: 'r' :: 'u' :: 'e' :: rest => .ok (.bool true, rest)
  | 'f' :: 'a' :: 'l' :: 's' :: 'e' :: rest => .ok (.bool false, rest)
  | _ =>
    match forms.findSome? fun form => form cs with
    | some (v, rest) => v.map fun v => (v, rest)
    | none => fault "no value"

end MetadataBag.Toml
