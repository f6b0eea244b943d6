/-!
Codecs that values pass through on their way into the store and back. The markup codec replaces
the five special characters of markup by entities, one whole-text replacement after the other;
`escapeChar` and `decodeOnce` say the same in one pass.
-/

namespace MetadataBag

/-- Replaces every occurrence of a pattern, from left to right; `skip` counts the characters of
the occurrence at hand that are still to be dropped. -/
def replaceFrom (pat image : List Char) : Nat → List Char → List Char
  | _, [] => []
  | skip + 1, _ :: rest => replaceFrom pat image skip rest
  | 0, c :: rest =>
    if pat.isPrefixOf (c :: rest) then image ++ replaceFrom pat image (pat.length - 1) rest
    else c :: replaceFrom pat image 0 rest

def replaceAll (pat image text : List Char) : List Char := replaceFrom pat image 0 text

inductive Codec where
  | markup
  | plain
  deriving DecidableEq, Repr, Inhabited

namespace Codec

/-- What an escape is replaced by, in the order of the replacements: the ampersand comes first,
so that it does not meet the ampersands of the others. -/
def escapes : List (Char × List Char) :=
  [('&', "&amp;".toList), ('>', "&gt;".toList), ('<', "&lt;".toList),
   ('"', "&quot;".toList), ('\'', "&apos;".toList)]

/-- The order of the replacements back: the ampersand comes last. -/
def unescapes : List (List Char × Char) :=
  [("&lt;".toList, '<'), ("&gt;".toList, '>'), ("&quot;".toList, '"'), ("&apos;".toList, '\''),
   ("&amp;".toList, '&')]

def escapeMarkup (text : List Char) : List Char :=
  escapes.foldl (fun t e => replaceAll [e.1] e.2 t) text

def unescapeMarkup (text : List Char) : List Char :=
  unescapes.foldl (fun t e => replaceAll e.1 [e.2] t) text

def escape : Codec → String → String
  | .markup, s => String.ofList (escapeMarkup s.toList)
  | .plain, s => s

def unescape : Codec → String → String
  | .markup, s => String.ofList (unescapeMarkup s.toList)
  | .plain, s => s

def escapeChar (c : Char) : List Char :=
  ((escapes.find? fun e => e.1 = c).map (·.2)).getD [c]

/-- The character of the entity that a text starts with, and the entity's length. -/
def entityAt? (entities : List (List Char × Char)) (text : List Char) : Option (Char × Nat) :=
  (entities.find? fun e => e.1.isPrefixOf text).map fun e => (e.2, e.1.length)

/-- One pass from left to right: every entity becomes its character, all else is copied. -/
def decodeFrom (entities : List (List Char × Char)) : Nat → List Char → List Char
  | _, [] => []
  | skip + 1, _ :: rest => decodeFrom entities skip rest
  | 0, c :: rest =>
    match entityAt? entities (c :: rest) with
    | some (d, n) => d :: decodeFrom entities (n - 1) rest
    | none => c :: decodeFrom entities 0 rest

def decodeOnce (text : List Char) : List Char := decodeFrom unescapes 0 text

/-- The name by which a codec is asked for and which it shows. -/
def name : Codec → String
  | .markup => "xml"
  | .plain => "none"

/-- The codec of a name in any case. No character beyond ASCII has a letter of the two names
as its lower case. -/
def ofName? (s : String) : Option Codec :=
  let key := s.map Char.toLower
  if key = "xml" then some .markup else if key = "none" then some .plain else none

/-- An unknown name stands for the markup codec. -/
def ofName (s : String) : Codec := (ofName? s).getD .markup

end Codec

end MetadataBag
