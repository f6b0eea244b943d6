/-!
The kinds of properties: how a property maps onto slots, and the type of the values it holds.
-/

namespace MetadataBag

inductive Shape where
  /-- One slot. -/
  | simple
  /-- A primary slot and secondary slots that follow it. -/
  | composite
  deriving DecidableEq, Repr, Inhabited

inductive ValueType where
  | text
  | integer
  | real
  | rational
  | date
  | boolean
  | uri
  | url
  | locale
  | mimeType
  | properName
  | openChoice
  | closedChoice
  deriving DecidableEq, Repr, Inhabited

def Shape.name : Shape → String
  | .simple => "simple"
  | .composite => "composite"

def Shape.label : Shape → String
  | .simple => "SIMPLE"
  | .composite => "COMPOSITE"

namespace ValueType

/-- Every type with its spelling in definitions and its spelling in messages. -/
def spellings : List (ValueType × String × String) :=
  [ (text, "text", "TEXT"), (integer, "integer", "INTEGER"), (real, "real", "REAL"),
    (rational, "rational", "RATIONAL"), (date, "date", "DATE"), (boolean, "boolean", "BOOLEAN"),
    (uri, "uri", "URI"), (url, "url", "URL"), (locale, "locale", "LOCALE"),
    (mimeType, "mime_type", "MIME_TYPE"), (properName, "proper_name", "PROPER_NAME"),
    (openChoice, "open_choice", "OPEN_CHOICE"), (closedChoice, "closed_choice", "CLOSED_CHOICE") ]

def spelling (t : ValueType) : String × String :=
  ((spellings.find? fun e => e.1 = t).map (·.2)).getD ("", "")

def name (t : ValueType) : String := t.spelling.1

def label (t : ValueType) : String := t.spelling.2

def ofName? (s : String) : Option ValueType :=
  (spellings.find? fun e => e.2.1 = s).map (·.1)

end ValueType

end MetadataBag
