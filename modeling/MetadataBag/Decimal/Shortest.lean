import MetadataBag.Decimal.Binary

/-!
The shortest decimal that reads back as a given binary number, and its text. The numbers that
read back lie between the midpoints to the two neighbours, the midpoints included if `m` is even.
-/

namespace MetadataBag.Decimal

/-- The number `digits * 10^exponent`. -/
structure Scientific where
  digits : Nat
  exponent : Int
  deriving Repr, DecidableEq

/-- The midpoints around `m * 2^q`. The neighbour below a power of two is nearer. -/
def midpoints (m : Nat) (q : Int) : Ratio × Ratio :=
  let below := if m = Nat.pow 2 52 ∧ -1074 < q then 4 * m - 1 else 4 * m - 2
  (Ratio.binary below (q - 2), Ratio.binary (4 * m + 2) (q - 2))

def Ratio.le (a b : Ratio) : Bool := a.num * b.den ≤ b.num * a.den
def Ratio.lt (a b : Ratio) : Bool := a.num * b.den < b.num * a.den

/-- Whether `x` reads back as `m * 2^q`. -/
def readsBack (m : Nat) (q : Int) (x : Ratio) : Bool :=
  let (low, high) := midpoints m q
  if m % 2 = 0 then low.le x && x.le high else low.lt x && x.lt high

/-- Of the two neighbours of `v` on the grid of step `10^e`, the nearest that reads back. -/
def onGrid (m : Nat) (q : Int) (e : Int) : Option Nat :=
  let scaled := (Ratio.binary m q).scale (-e)
  let lower := scaled.num / scaled.den
  let back (d : Nat) : Bool := d != 0 && readsBack m q ((Ratio.mk d 1).scale e)
  let nearest := scaled.round
  let other := if nearest = lower then lower + 1 else lower
  if back nearest then some nearest else if back other then some other else none

/-- Tries grids with one more digit each, from `count` digits on. -/
def searchGrids (m : Nat) (q : Int) (top : Int) (count : Nat) : Nat → Scientific
  | 0 => ⟨m, q⟩
  | fuel + 1 =>
    let e := top + 1 - count
    match onGrid m q e with
    | some d => ⟨d, e⟩
    | none => searchGrids m q top (count + 1) fuel

def dropTrailingZeros (s : Scientific) : Nat → Scientific
  | 0 => s
  | fuel + 1 =>
    if s.digits % 10 = 0 ∧ s.digits ≠ 0 then
      dropTrailingZeros ⟨s.digits / 10, s.exponent + 1⟩ fuel
    else s

/-- The shortest decimal that reads back as `m * 2^q`, for positive `m`. -/
def shortest (m : Nat) (q : Int) : Scientific :=
  dropTrailingZeros (searchGrids m q (Ratio.binary m q).magnitude 1 17) 20

/-- How a number is laid out: positional between two magnitudes, else with an exponent. -/
structure Layout where
  /-- The least position of the decimal point that is written positionally. -/
  least : Int
  /-- The greatest such position. -/
  greatest : Int
  exponentDigits : Nat

/-- Positional from `0.0001` up to below `10^16`; exponents have a sign and two digits or more. -/
def Layout.real : Layout := ⟨-3, 16, 2⟩

def Layout.render (l : Layout) (s : Scientific) : List Char :=
  let ds := Nat.toDigits 10 s.digits
  let point : Int := ds.length + s.exponent
  if l.least ≤ point ∧ point ≤ l.greatest then
    if point ≤ 0 then '0' :: '.' :: (List.replicate (-point).toNat '0' ++ ds)
    else if s.exponent < 0 then
      ds.take point.toNat ++ '.' :: ds.drop point.toNat
    else ds ++ List.replicate s.exponent.toNat '0' ++ ['.', '0']
  else
    let mantissa := match ds with
      | [d] => [d]
      | d :: rest => d :: '.' :: rest
      | [] => []
    let e := point - 1
    let es := Nat.toDigits 10 e.natAbs
    mantissa ++ 'e' :: (if e < 0 then '-' else '+') ::
      (List.replicate (l.exponentDigits - es.length) '0' ++ es)

/-- The text of a real number: the fewest digits that read back. -/
def realText (x : Float) : String :=
  match Binary.ofFloat x with
  | .nan => "nan"
  | .infinite negative => if negative then "-inf" else "inf"
  | .finite negative m q =>
    let body := if m = 0 then ['0', '.', '0'] else Layout.real.render (shortest m q)
    String.ofList (if negative then '-' :: body else body)

end MetadataBag.Decimal
