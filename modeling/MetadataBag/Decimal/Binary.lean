/-!
Binary floating-point numbers of 64 bits as exact numbers `m * 2^q`, and exact decimal
rounding of them.
-/

namespace MetadataBag.Decimal

/-- What the 64 bits of a floating-point number stand for. -/
inductive Binary where
  | nan
  | infinite (negative : Bool)
  | finite (negative : Bool) (m : Nat) (q : Int)
  deriving Repr, DecidableEq

def Binary.ofBits (bits : UInt64) : Binary :=
  let negative := bits >>> 63 != 0
  let exponent := ((bits >>> 52) &&& 0x7ff).toNat
  let fraction := (bits &&& 0xfffffffffffff).toNat
  if exponent = 0x7ff then
    if fraction = 0 then .infinite negative else .nan
  else if exponent = 0 then .finite negative fraction (-1074)
  else .finite negative (fraction + Nat.pow 2 52) (exponent - 1075)

def Binary.ofFloat (x : Float) : Binary := ofBits x.toBits

structure Ratio where
  num : Nat
  den : Nat
  deriving Repr

/-- The number `m * 2^q`. -/
def Ratio.binary (m : Nat) (q : Int) : Ratio :=
  if 0 ≤ q then ⟨m * Nat.pow 2 q.toNat, 1⟩ else ⟨m, Nat.pow 2 (-q).toNat⟩

def Ratio.scale (r : Ratio) (e : Int) : Ratio :=
  if 0 ≤ e then ⟨r.num * Nat.pow 10 e.toNat, r.den⟩ else ⟨r.num, r.den * Nat.pow 10 (-e).toNat⟩

/-- The nearest natural number; a half goes to the even neighbour. -/
def Ratio.round (r : Ratio) : Nat :=
  let floor := r.num / r.den
  let twice := 2 * (r.num % r.den)
  if twice < r.den then floor
  else if r.den < twice then floor + 1
  else if floor % 2 = 0 then floor else floor + 1

/-- The exponent `e` with `10^e ≤ r < 10^(e+1)` of a positive number. -/
def Ratio.magnitude (r : Ratio) : Int :=
  let digits (n : Nat) : Int := (Nat.toDigits 10 n).length
  let guess := digits r.num - digits r.den
  let s := r.scale (-guess)
  if s.num < s.den then guess - 1 else guess

/-- Digits of a number with `places` digits after the point, padded to at least one before. -/
def pointed (digits : List Char) (places : Nat) : List Char :=
  let padded := List.replicate (places + 1 - digits.length) '0' ++ digits
  if places = 0 then padded
  else padded.take (padded.length - places) ++ '.' :: padded.drop (padded.length - places)

/-- A number with a fixed count of decimal places. -/
def Ratio.fixed (r : Ratio) (places : Nat) : List Char :=
  pointed (Nat.toDigits 10 (r.scale places).round) places

/-- A float that is the nearest to `m * 10^e`. -/
def nearest (m : Nat) (e : Int) : Float :=
  let size : Int := (Nat.toDigits 10 m).length + e
  if m = 0 then 0
  else if 310 < size then 1.0 / 0.0
  else if size < -400 then 0
  else Float.ofScientific m (decide (e < 0)) e.natAbs

end MetadataBag.Decimal
