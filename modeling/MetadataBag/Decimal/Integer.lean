import MetadataBag.Text.Digit

/-!
Whole numbers as decimal text. Texts of more than `digitLimit` digits are neither written
nor read; leading zeros count.
-/

namespace MetadataBag.Decimal

def digitLimit : Nat := 4300

/-- The decimal text of a number, unless it has too many digits. -/
def integerText? (n : Int) : Option String :=
  if n.natAbs < Nat.pow 10 digitLimit then some (toString n) else none

/-- A text that is an optional sign and decimal digits of any script. -/
structure Signed where
  negative : Bool
  digits : List Char

/-- Splits off the sign; the rest must be one digit or more. -/
def signed? (cs : List Char) : Option Signed :=
  let s : Signed := match cs with
    | '-' :: rest => ⟨true, rest⟩
    | '+' :: rest => ⟨false, rest⟩
    | _ => ⟨false, cs⟩
  if !s.digits.isEmpty && s.digits.all Text.isDigit then some s else none

def Signed.value (s : Signed) : Int :=
  if s.negative then -(Text.number s.digits : Int) else Text.number s.digits

end MetadataBag.Decimal
