import MetadataBag.Text.Printable

/-!
Texts in quotes, as messages show them. The quote is `'`, or `"` where the text holds `'` but
no `"`; what is not printable is an escape of two, four or eight hexadecimal digits.
-/

namespace MetadataBag.Text

/-- The last `width` hexadecimal digits of a number, in lower case. -/
def hexDigits : Nat → Nat → List Char
  | 0, _ => []
  | width + 1, n => hexDigits width (n / 16) ++ [Nat.digitChar (n % 16)]

def quoteMark (cs : List Char) : Char :=
  if cs.contains '\'' && !cs.contains '"' then '"' else '\''

def quotedChar (mark c : Char) : List Char :=
  if c = mark ∨ c = '\\' then ['\\', c]
  else if c = '\n' then ['\\', 'n']
  else if c = '\r' then ['\\', 'r']
  else if c = '\t' then ['\\', 't']
  else if isPrintable c then [c]
  else if c.toNat ≤ 0xff then '\\' :: 'x' :: hexDigits 2 c.toNat
  else if c.toNat ≤ 0xffff then '\\' :: 'u' :: hexDigits 4 c.toNat
  else '\\' :: 'U' :: hexDigits 8 c.toNat

def quoted (s : String) : String :=
  let mark := quoteMark s.toList
  String.ofList (mark :: s.toList.flatMap (quotedChar mark) ++ [mark])

def quotedBytes (bs : List UInt8) : String :=
  let cs := bs.map fun b => Char.ofNat b.toNat
  let mark := quoteMark cs
  let body := cs.flatMap fun c =>
    if c = mark ∨ c = '\\' ∨ c = '\n' ∨ c = '\r' ∨ c = '\t' ∨ (0x20 ≤ c.toNat ∧ c.toNat < 0x7f)
    then quotedChar mark c
    else '\\' :: 'x' :: hexDigits 2 c.toNat
  String.ofList ('b' :: mark :: body ++ [mark])

end MetadataBag.Text
