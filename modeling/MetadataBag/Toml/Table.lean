import MetadataBag.Error
import MetadataBag.Value

/-!
Tables of a TOML document while they are being read. A document is a row of sections; each table
remembers the section that opened it. No other section adds to it by a key with points, and no
header names it again. A table that only stands above others has not been opened yet.
-/

namespace MetadataBag.Toml

/-- What stands under a name. A list of tables is open at its last one. -/
inductive Node where
  | value (v : Value)
  | table (section? : Option Nat) (entries : List (String × Node))
  | tables (earlier : List Value) (entries : List (String × Node))

instance : Inhabited Node := ⟨.value .null⟩

abbrev Entries := List (String × Node)

mutual

def Node.toValue : Node → Value
  | .value v => v
  | .table _ entries => .map (entryValues entries)
  | .tables earlier entries => .list (earlier ++ [.map (entryValues entries)])

def entryValues : List (String × Node) → List (Value × Value)
  | [] => []
  | (name, n) :: rest => (.text name, n.toValue) :: entryValues rest

end

def overwrites {α : Type} : Except Error α := .error (.toml "Cannot overwrite a value")

namespace Entries

def lookup? (name : String) (es : Entries) : Option Node :=
  (es.find? fun e => e.1 = name).map (·.2)

/-- Puts a node under a name: in its old place, or at the end. -/
def put (name : String) (n : Node) : Entries → Entries
  | [] => [(name, n)]
  | (k, m) :: rest => if k = name then (k, n) :: rest else (k, m) :: put name n rest

/-- Changes the entries of the table under a path. Tables on the way are made where there are
none; of a list of tables the last one is taken. -/
def alter (f : Entries → Except Error Entries) : List String → Entries → Except Error Entries
  | [], es => f es
  | k :: ks, es =>
    match es.lookup? k with
    | none => (alter f ks []).map fun inner => put k (.table none inner) es
    | some (.table s inner) => (alter f ks inner).map fun inner => put k (.table s inner) es
    | some (.tables earlier inner) =>
      (alter f ks inner).map fun inner => put k (.tables earlier inner) es
    | some (.value _) => overwrites

def openTable (current : Nat) (name : String) (es : Entries) : Except Error Entries :=
  match es.lookup? name with
  | none => .ok (put name (.table (some current) []) es)
  | some (.table none inner) => .ok (put name (.table (some current) inner) es)
  | some _ => overwrites

/-- Adds a table to the list that a header names. -/
def addTable (name : String) (es : Entries) : Except Error Entries :=
  match es.lookup? name with
  | none => .ok (put name (.tables [] []) es)
  | some (.tables earlier inner) =>
    .ok (put name (.tables (earlier ++ [.map (entryValues inner)]) []) es)
  | some _ => overwrites

def assign (current : Nat) (v : Value) : List String → Entries → Except Error Entries
  | [], _ => overwrites
  | [k], es => if (es.lookup? k).isSome then overwrites else .ok (put k (.value v) es)
  | k :: ks, es =>
    match es.lookup? k with
    | none => (assign current v ks []).map fun inner => put k (.table (some current) inner) es
    | some (.table s inner) =>
      if s = none ∨ s = some current then
        (assign current v ks inner).map fun inner => put k (.table (some current) inner) es
      else overwrites
    | some (.tables ..) | some (.value _) => overwrites

end Entries

end MetadataBag.Toml
