/-!
References to resources, as far as they are recognised: which texts are one. A reference has a
scheme or is relative; it may have an authority, a path, a query and a fragment. Each part is
skipped from the left, and the reference is one if nothing is left over.
-/

namespace MetadataBag.Uri

def isAlpha (c : Char) : Bool := c.isAlpha
def isDigit (c : Char) : Bool := c.isDigit

def isHex (c : Char) : Bool :=
  c.isDigit || decide ('a' ≤ c ∧ c ≤ 'f') || decide ('A' ≤ c ∧ c ≤ 'F')

/-- Characters that stand for themselves everywhere. -/
def isPlain (c : Char) : Bool := isAlpha c || isDigit c || c ∈ ['-', '.', '_', '~']

def isDelimiter (c : Char) : Bool := c ∈ ['!', '$', '&', '\'', '(', ')', '*', '+', ',', ';', '=']

def inHost (c : Char) : Bool := isPlain c || isDelimiter c
def inUser (c : Char) : Bool := inHost c || c = ':'
def inSegment (c : Char) : Bool := inUser c || c = '@'
def inPath (c : Char) : Bool := inSegment c || c = '/'
def inQuery (c : Char) : Bool := inPath c || c = '?'
def inFragment (c : Char) : Bool := inQuery c || c = '[' || c = ']'

/-- Skips characters of a class, and percent signs with two hexadecimal digits. -/
def skip (ok : Char → Bool) : List Char → List Char
  | '%' :: a :: b :: rest => if isHex a && isHex b then skip ok rest else '%' :: a :: b :: rest
  | c :: rest => if ok c then skip ok rest else c :: rest
  | [] => []

/-- Whether a text goes on with a character of a class or with an encoded one. -/
def startsWith (ok : Char → Bool) (cs : List Char) : Bool :=
  decide ((skip ok cs).length < cs.length)

def afterScheme? : List Char → Option (List Char)
  | [] => none
  | c :: rest =>
    if isAlpha c then
      match rest.dropWhile fun c => isAlpha c || isDigit c || c ∈ ['+', '-', '.'] with
      | ':' :: rest => some rest
      | _ => none
    else none

/-- The rest after the user of an authority, or the whole without one. -/
def afterUser (cs : List Char) : List Char :=
  match skip inUser cs with
  | '@' :: rest => rest
  | _ => cs

def afterByte? : List Char → Option (List Char)
  | a :: rest =>
    if !isDigit a then none
    else
      match rest with
      | b :: c :: rest' =>
        if !isDigit b then some rest
        else if !isDigit c then if a ≠ '0' then some (c :: rest') else none
        else if a = '1' || a = '2' && (decide (b ≤ '4') || b = '5') then some rest'
        else none
      | [b] => if !isDigit b then some rest else if a ≠ '0' then some [] else none
      | [] => some []
  | [] => none

def afterDotByte? : List Char → Option (List Char)
  | '.' :: rest => afterByte? rest
  | _ => none

/-- The rest after four decimal bytes with dots between them. -/
def afterAddress? (cs : List Char) : Option (List Char) :=
  (((afterByte? cs).bind afterDotByte?).bind afterDotByte?).bind afterDotByte?

/-- The rest after a host: an address in brackets, four bytes, or a name, which may be empty. -/
def afterHost? (cs : List Char) : Option (List Char) :=
  match cs with
  | '[' :: rest =>
    match rest.dropWhile (· ≠ ']') with
    | _ :: rest => some rest
    | [] => none
  | _ =>
    match afterAddress? cs with
    | some rest => some rest
    | none => some (skip inHost cs)

/-- The number behind a host has 31 bits. -/
def greatestService : Nat := 2147483647

/-- The rest after a service number, if there is a colon for one. -/
def afterService? : List Char → Option (List Char)
  | ':' :: rest =>
    let digits := rest.takeWhile isDigit
    if digits = [] then none
    else if greatestService < digits.foldl (fun n c => 10 * n + (c.toNat - 48)) 0 then none
    else some (rest.dropWhile isDigit)
  | cs => some cs

def afterAuthority? (cs : List Char) : Option (List Char) :=
  (afterHost? (afterUser cs)).bind afterService?

/-- The rest after a path that is empty or starts with a slash. -/
def afterRooted (cs : List Char) : List Char :=
  match cs with
  | '/' :: _ => skip inPath cs
  | _ => cs

/-- The rest after a path whose first segment has no colon. -/
def afterUnschemed? (cs : List Char) : Option (List Char) :=
  if !startsWith inSegment cs then some cs
  else
    let noColon (c : Char) : Bool := inSegment c && c ≠ ':'
    if startsWith noColon cs then some (afterRooted (skip noColon cs)) else none

/-- The rest after authority and path. `first` skips a path that starts with no slash. -/
def afterPath? (first : List Char → Option (List Char)) (cs : List Char) : Option (List Char) :=
  match cs with
  | '/' :: '/' :: rest => (afterAuthority? rest).map afterRooted
  | '/' :: rest => some (if startsWith inSegment rest then skip inPath rest else rest)
  | _ => first cs

def afterQuery (cs : List Char) : List Char :=
  let rest := match cs with
    | '?' :: rest => skip inQuery rest
    | _ => cs
  match rest with
  | '#' :: rest => skip inFragment rest
  | _ => rest

def isReference (cs : List Char) : Bool :=
  let complete (rest : Option (List Char)) : Bool := rest.map afterQuery = some []
  complete ((afterScheme? cs).bind (afterPath? fun rest => some (skip inPath rest))) ||
    complete (afterPath? afterUnschemed? cs)

end MetadataBag.Uri
