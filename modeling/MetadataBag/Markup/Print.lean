import MetadataBag.Markup.Tree

/-!
Trees as text: the root's tag on a line of its own, and each child on an indented line.
-/

namespace MetadataBag.Markup

def textChar (c : Char) : List Char :=
  if c = '&' then "&amp;".toList
  else if c = '<' then "&lt;".toList
  else if c = '>' then "&gt;".toList
  else if c = '\r' then "&#13;".toList
  else [c]

/-- The written form of a character of an attribute, which keeps quotes, tabs and line breaks. -/
def attributeChar (c : Char) : List Char :=
  if c = '"' then "&quot;".toList
  else if c = '\n' then "&#10;".toList
  else if c = '\t' then "&#9;".toList
  else textChar c

def writtenText (s : String) : String := String.ofList (s.toList.flatMap textChar)

def writtenAttribute (s : String) : String := String.ofList (s.toList.flatMap attributeChar)

def tagName (pre : Option String) (localName : String) : String :=
  match pre with
  | none => localName
  | some p => p ++ ":" ++ localName

def Declaration.written (d : Declaration) : String :=
  " xmlns:" ++ d.1 ++ "=\"" ++ writtenAttribute d.2 ++ "\""

def Attribute.written (a : Attribute) : String :=
  " " ++ tagName (some a.pre) a.name.localName ++ "=\"" ++ writtenAttribute a.value ++ "\""

def Element.written (e : Element) : String :=
  let tag := tagName e.pre e.name.localName
  "<" ++ tag ++ String.join (e.declarations.map Declaration.written) ++
    String.join (e.attributes.map Attribute.written) ++ ">" ++
      writtenText e.text ++ "</" ++ tag ++ ">"

/-- The text of a tree. A root without children is one closed tag. -/
def Tree.written (t : Tree) : String :=
  let tag := tagName (some t.pre) t.name.localName
  let opening := "<" ++ tag ++ String.join (t.declarations.map Declaration.written)
  if t.children = [] then opening ++ "/>\n"
  else
    opening ++ ">\n" ++ String.join (t.children.map fun e => "  " ++ e.written ++ "\n") ++
      "</" ++ tag ++ ">\n"

/-- The text of a bag's tree, or what stands in the way of it. -/
def text (s : Store) (choose : Prefixing := newPrefix) : Except Error String :=
  (Tree.ofStore s choose).map Tree.written

/-- The text of a store's tree, where a failure is told in its place. -/
def shown (s : Store) (choose : Prefixing := newPrefix) : String :=
  match text s choose with
  | .ok t => t
  | .error e => "Error serializing metadata: " ++ e.message

end MetadataBag.Markup
