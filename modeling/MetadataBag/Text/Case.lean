import MetadataBag.Text.CaseTable

/-!
Upper and lower case of texts. A capital sigma at the end of a word becomes the final sigma.
-/

namespace MetadataBag.Text

private def image (table : List CaseRun) (c : Char) : Char :=
  ((table.findSome? (CaseRun.image? · c.toNat)).map Char.ofNat).getD c

def lowerTable : List CaseRun := runs lowerRuns
def upperTable : List CaseRun := runs upperRuns

def upperChar (c : Char) : List Char :=
  if c.toNat < 0x80 then [c.toUpper]
  else
    match upperSequences.find? fun e => e.1 = c.toNat with
    | some (_, image) => image.map Char.ofNat
    | none => [image upperTable c]

def lowerChar (c : Char) : List Char :=
  if c.toNat < 0x80 then [c.toLower]
  else if c = '\u0130' then ['i', '\u0307']
  else [image lowerTable c]

/-- Letters that have a case. -/
def isCased (c : Char) : Bool := upperChar c != [c] || lowerChar c != [c]

/-- Lower case, where `before` tells whether a cased letter stands in front. -/
def lowerFrom (before : Bool) : List Char → List Char
  | [] => []
  | c :: rest =>
    let image :=
      if c = 'Σ' ∧ before ∧ !(rest.head?.map isCased).getD false then ['ς'] else lowerChar c
    image ++ lowerFrom (isCased c) rest

def lower (s : String) : String := String.ofList (lowerFrom false s.toList)

def upper (s : String) : String := String.ofList (s.toList.flatMap upperChar)

end MetadataBag.Text
