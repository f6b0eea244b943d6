import MetadataBag.Decimal.Binary

/-!
Numbers of expressions: how they are read, written, rounded and divided with a remainder.
-/

namespace MetadataBag.XPath

def isBlank (c : Char) : Bool := c = ' ' || c = '\t' || c = '\n' || c = '\r'

namespace Number

def infinity : Float := 1.0 / 0.0
def nan : Float := 0.0 / 0.0

def ofBool (b : Bool) : Float := if b then 1 else 0

/-! ### Reading -/

def addDigit (x : Float) (c : Char) : Float := x * 10 + Float.ofNat (c.toNat - 0x30)

/-- The number of a run of digits, digit by digit. -/
def ofDigits (cs : List Char) : Float := cs.foldl addDigit 0

/-- The most digits of a fraction that count behind its leading zeros. -/
def fractionLimit : Nat := 20

def ofFraction (cs : List Char) : Float :=
  let zeros := (cs.takeWhile (· = '0')).length
  let digits := (cs.drop zeros).take fractionLimit
  ofDigits digits / Decimal.nearest 1 (zeros + digits.length)

/-- An exponent stops growing from a million on. -/
def exponentLimit : Nat := 1000000

def exponentOf (cs : List Char) : Nat :=
  cs.foldl (fun n c => if n < exponentLimit then n * 10 + (c.toNat - 0x30) else n) 0

/-- The power of ten of an exponent, and what follows it. -/
def readExponent : List Char → Float × List Char
  | [] => (1, [])
  | e :: rest =>
    if e = 'e' ∨ e = 'E' then
      let (negative, rest) := match rest with
        | '-' :: rest => (true, rest)
        | '+' :: rest => (false, rest)
        | _ => (false, rest)
      let n : Int := exponentOf (rest.takeWhile Char.isDigit)
      (Decimal.nearest 1 (if negative then -n else n), rest.dropWhile Char.isDigit)
    else (1, e :: rest)

/-- The number at the front of a text, and the rest. There is a digit before the point or
behind it. -/
def read? (cs : List Char) : Option (Float × List Char) :=
  let whole := cs.takeWhile Char.isDigit
  let rest := cs.dropWhile Char.isDigit
  let (fraction, rest) := match rest with
    | '.' :: rest => (rest.takeWhile Char.isDigit, rest.dropWhile Char.isDigit)
    | _ => ([], rest)
  if whole = [] ∧ fraction = [] then none
  else
    let (power, rest) := readExponent rest
    some ((ofDigits whole + ofFraction fraction) * power, rest)

/-- The number that a text as a whole stands for, blanks around it aside. -/
def ofText (s : String) : Float :=
  let cs := s.toList.dropWhile isBlank
  let (negative, cs) := match cs with
    | '-' :: rest => (true, rest)
    | _ => (false, cs)
  match read? cs with
  | none => nan
  | some (x, rest) => if rest.all isBlank then (if negative then -x else x) else nan

/-! ### Writing -/

/-- Drops zeros behind the point, and a point with nothing behind it. -/
def trimmed (cs : List Char) : List Char :=
  if cs.contains '.' then
    match cs.reverse.dropWhile (· = '0') with
    | '.' :: rest => rest.reverse
    | rest => rest.reverse
  else cs

/-- The digits that a number is written with. -/
def precision : Nat := 15

/-- One digit, a point, digits up to the precision, and an exponent of two digits or more. -/
def exponential (r : Decimal.Ratio) : List Char :=
  let guess := r.magnitude
  let digits (e : Int) : Nat := (r.scale (precision - 1 - e)).round
  let e := if digits guess = Nat.pow 10 precision then guess + 1 else guess
  let es := Nat.toDigits 10 e.natAbs
  trimmed (Decimal.pointed (Nat.toDigits 10 (digits e)) (precision - 1)) ++
    'e' :: (if e < 0 then '-' else '+') :: (List.replicate (2 - es.length) '0' ++ es)

/-- The decimal places at which a number has its full precision. -/
def places (x : Float) : Nat :=
  let e := (Float.log10 x).toInt64.toInt
  if 0 < e then (precision - 1 - e).toNat else (precision - e).toNat

/-- Whole numbers of 32 bits are written without exponent, but for the greatest and the least. -/
def isShort (negative : Bool) (r : Decimal.Ratio) : Bool :=
  r.num % r.den = 0 && r.num / r.den < (if negative then Nat.pow 2 31 else Nat.pow 2 31 - 1)

/-- The text of a positive number that is not whole or is too big for 32 bits. -/
def body (x : Float) (r : Decimal.Ratio) : List Char :=
  if 1e9 < x || x < 1e-5 then exponential r else trimmed (r.fixed (places x))

def text (x : Float) : String :=
  match Decimal.Binary.ofFloat x with
  | .nan => "NaN"
  | .infinite negative => if negative then "-Infinity" else "Infinity"
  | .finite negative m q =>
    let r := Decimal.Ratio.binary m q
    let sign := if negative then ['-'] else []
    if m = 0 then "0"
    else if isShort negative r then
      String.ofList (sign ++ Nat.toDigits 10 (r.num / r.den))
    else String.ofList (sign ++ body x.abs r)

/-! ### Arithmetic -/

/-- The nearest whole number; a half goes up. Small numbers become a zero of their own sign. -/
def round (x : Float) : Float :=
  if -0.5 ≤ x && x < 0.5 then x * 0
  else if 0.5 ≤ x - x.floor then x.floor + 1 else x.floor

/-- The float `m * 2^q`, for a product that is one. -/
def ofProduct (m : Nat) (q : Int) : Float :=
  let extra := m.log2 - 52
  (Float.ofNat (m / Nat.pow 2 extra)).scaleB (q + extra)

/-- The remainder of a division that rounds toward zero; it has the sign of the dividend. -/
def remainder (a b : Float) : Float :=
  match Decimal.Binary.ofFloat a, Decimal.Binary.ofFloat b with
  | .finite _ _ _, .infinite _ => a
  | .finite negative m q, .finite _ n p =>
    if n = 0 then nan
    else
      let low := min q p
      let r := m * Nat.pow 2 (q - low).toNat % (n * Nat.pow 2 (p - low).toNat)
      let x := ofProduct r low
      if negative then -x else x
  | _, _ => nan

end Number

end MetadataBag.XPath
