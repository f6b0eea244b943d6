import MetadataBag.Decimal.Binary
import MetadataBag.Text.Digit
import MetadataBag.Text.Blank

/-!
Real numbers from decimal text: sign, digits with at most one point, and an exponent; or one of
the words for what is not finite. Letters count in either case.
-/

namespace MetadataBag.Decimal

/-- Splits off a sign; tells whether it is a minus. -/
def splitSign : List Char → Bool × List Char
  | '-' :: rest => (true, rest)
  | '+' :: rest => (false, rest)
  | cs => (false, cs)

/-- The exponent behind the letter for it, or zero at the end of a text. -/
def exponent? : List Char → Option Int
  | [] => some 0
  | e :: rest =>
    if e = 'e' ∨ e = 'E' then
      let (negative, digits) := splitSign rest
      if digits ≠ [] && digits.all Text.isDigit then
        some (if negative then -(Text.number digits : Int) else Text.number digits)
      else none
    else none

def unsigned? (cs : List Char) : Option Float :=
  let word := cs.map Char.toLower
  if word = "inf".toList ∨ word = "infinity".toList then some (1.0 / 0.0)
  else if word = "nan".toList then some (0.0 / 0.0)
  else
    let whole := cs.takeWhile Text.isDigit
    let rest := cs.drop whole.length
    let (fraction, rest) := match rest with
      | '.' :: rest => (rest.takeWhile Text.isDigit, rest.dropWhile Text.isDigit)
      | _ => ([], rest)
    if whole = [] ∧ fraction = [] then none
    else
      (exponent? rest).map fun e =>
        nearest (Text.number (whole ++ fraction)) (e - fraction.length)

/-- A text with blanks cut off at both ends as a number. -/
def real? (cs : List Char) : Option Float :=
  let trimmed := ((cs.dropWhile Text.isBlank).reverse.dropWhile Text.isBlank).reverse
  let (negative, rest) := splitSign trimmed
  (unsigned? rest).map fun x => if negative then -x else x

end MetadataBag.Decimal
