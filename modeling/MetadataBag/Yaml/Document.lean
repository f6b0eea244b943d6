import MetadataBag.Folder
import MetadataBag.Yaml.Node

/-!
Values of YAML documents. A mapping that is merged into another gives way to the entries that
stand there; of entries with one key the last one counts.

This is one reader among others; nothing that is stated of catalogs and of runs depends on it.
Of several failures in a file a reader that works in another order may meet another one first.
The members of a set stand as in the document, and an escape of half a surrogate pair, which no
text here can hold, is a replacement character.
-/

namespace MetadataBag.Yaml

/-- A key of a mapping; sequences and mappings are no keys. -/
def checkKey (v : Value) : Except Error Value :=
  if v.isScalar then .ok v else fault "a key that is no scalar"

mutual

/-- The text of a scalar, or of the entry that stands for it in a mapping. -/
def textOf : Node → Except Error String
  | .scalar _ text => .ok text
  | .mapping _ entries => textAmong entries
  | .sequence .. | .loop _ => fault "a collection in place of a scalar"

def textAmong : List (Node × Node) → Except Error String
  | [] => fault "a collection in place of a scalar"
  | (.scalar .value _, v) :: _ => textOf v
  | _ :: rest => textAmong rest

end

mutual

def valueOf : Node → Except Error Value
  | .loop isMap => .ok (.loop isMap)
  | .scalar tag text =>
    match scalarOf tag text with
    | some v => v
    | none => fault "a tag that no scalar has"
  | .sequence tag items =>
    match tag with
    | .seq => do
      let vs ← itemValues items
      pure (.list vs)
    | .omap | .pairs => do
      let ps ← pairValues items
      pure (.list ps)
    | _ => fault "a tag that no sequence has"
  | .mapping tag entries =>
    match tag with
    | .map => do
      let (merged, own) ← entryValues entries
      pure (.map (Value.unique (merged ++ own)))
    | .set => do
      let (merged, own) ← entryValues entries
      pure (.set ((Value.unique (merged ++ own)).map (·.1)))
    | _ => do
      let text ← textAmong entries
      match scalarOf tag text with
      | some v => v
      | none => fault "a tag that no mapping has"

def itemValues : List Node → Except Error (List Value)
  | [] => .ok []
  | n :: rest => do
    let v ← valueOf n
    let vs ← itemValues rest
    pure (v :: vs)

/-- The pairs that mappings of one entry stand for. -/
def pairValues : List Node → Except Error (List Value)
  | [] => .ok []
  | .mapping _ [(k, v)] :: rest => do
    let k ← valueOf k
    let v ← valueOf v
    let ps ← pairValues rest
    pure (.tuple [k, v] :: ps)
  | _ :: _ => fault "a list of pairs with something else in it"

/-- The entries that are merged into a mapping, and its own. -/
def entryValues : List (Node × Node) →
    Except Error (List (Value × Value) × List (Value × Value))
  | [] => .ok ([], [])
  | (.scalar .merge _, v) :: rest => do
    let merged ← mergedEntries v
    let (more, own) ← entryValues rest
    pure (merged ++ more, own)
  | (.scalar .value text, v) :: rest => do
    let v ← valueOf v
    let (merged, own) ← entryValues rest
    pure (merged, (.text text, v) :: own)
  | (k, v) :: rest => do
    let key ← valueOf k
    let key ← checkKey key
    let v ← valueOf v
    let (merged, own) ← entryValues rest
    pure (merged, (key, v) :: own)

/-- The entries of a mapping that is merged, or of several, of which the first counts most. -/
def mergedEntries : Node → Except Error (List (Value × Value))
  | .mapping _ entries => do
    let (merged, own) ← entryValues entries
    pure (merged ++ own)
  | .sequence _ items => mergedItems items
  | .loop true => .ok []
  | .scalar .. | .loop false => fault "something else than a mapping is merged"

def mergedItems : List Node → Except Error (List (Value × Value))
  | [] => .ok []
  | .mapping _ entries :: rest => do
    let (merged, own) ← entryValues entries
    let later ← mergedItems rest
    -- later entries replace earlier ones, so the first mapping comes last
    pure (later ++ (merged ++ own))
  | .loop true :: rest => mergedItems rest
  | _ :: _ => fault "something else than a mapping is merged"

end

/-- Line breaks of every kind as one character. -/
def unifyBreaks : List Char → List Char
  | '\r' :: '\n' :: rest => '\n' :: unifyBreaks rest
  | '\r' :: rest => '\n' :: unifyBreaks rest
  | c :: rest => c :: unifyBreaks rest
  | [] => []

/-- The value of the document in a text; a text without a document is null. -/
def read (s : String) : Except Error Value := do
  let ts ← tokens (unifyBreaks s.toList)
  match ← Node.ofTokens ts with
  | none => pure .null
  | some n => valueOf n

/-- A reader of UTF-8 texts. All of a file is decoded before anything is read, and scanned before
any value is built; a failure that comes first in the file may come second here. -/
def reader : Reader := fun contents =>
  match String.fromUTF8? contents with
  | none => .failure (.encoding contents.size)
  | some s =>
    match read s with
    | .ok v => .value v
    | .error (.yaml reason) => .fault reason
    | .error e => .failure e

end MetadataBag.Yaml
