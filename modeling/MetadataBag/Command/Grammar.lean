import MetadataBag.Text.Digit
import MetadataBag.Text.Quoted

/-!
Argument lists of commands: flags, which may stand anywhere before `--`, and one place for
arguments that are no flags. Flags may be shortened as long as they stay unambiguous, flags of one
letter may be joined, and a value stands behind its flag or behind an equals sign.

What no flag or place takes is left over; it is for the caller to judge.
-/

namespace MetadataBag.Command

/-- What a flag does. -/
inductive Action where
  /-- Prints a text and ends the command. -/
  | tell (text : String)
  /-- Sets a switch. -/
  | switch
  /-- Takes a value: any, or one of the choices if there are some. -/
  | value (choices : List String)
  deriving DecidableEq, Repr

structure Flag where
  names : List String
  action : Action
  deriving DecidableEq, Repr

def Flag.takesValue (f : Flag) : Bool :=
  match f.action with
  | .value _ => true
  | _ => false

def Flag.label (f : Flag) : String := "/".intercalate f.names

/-- How many arguments a place takes. -/
inductive Arity where
  | one
  | several
  /-- One argument and all that follows it, flags included. -/
  | rest
  deriving DecidableEq, Repr

structure Place where
  name : String
  arity : Arity
  required : Bool
  deriving DecidableEq, Repr

structure Grammar where
  program : String
  usage : String
  flags : List Flag
  place : Option Place
  deriving Repr

/-- Why an argument list is not carried out as a command. -/
inductive Stop where
  /-- A text was asked for. -/
  | told (text : String)
  | refused (usage program message : String)
  deriving DecidableEq, Repr

structure Reading where
  /-- Flags by their labels with their values, the last one first. -/
  settings : List (String × String) := []
  /-- What the place took, if it was reached. -/
  arguments : Option (List String) := none
  /-- What nothing took. -/
  leftOver : List String := []
  deriving DecidableEq, Repr

/-- The value of a setting; the last one counts. -/
def Reading.setting? (r : Reading) (f : Flag) : Option String :=
  (r.settings.find? fun s => s.1 = f.label).map (·.2)

namespace Grammar

def refuse {α : Type} (g : Grammar) (message : String) : Except Stop α :=
  .error (.refused g.usage g.program message)

def refuseFlag {α : Type} (g : Grammar) (label message : String) : Except Stop α :=
  g.refuse ("argument " ++ label ++ ": " ++ message)

/-! ### What an argument is -/

/-- A flag as it occurs: the flag, unless it is unknown, the name it was called by, and what was
joined to it. -/
structure Occurrence where
  flag : Option Flag
  name : String
  joined : Option String := none
  deriving DecidableEq, Repr

inductive Mark where
  | separator
  | plain
  | flag (o : Occurrence)
  deriving DecidableEq, Repr

/-- Every flag under each of its names. -/
def named (g : Grammar) : List (String × Flag) :=
  g.flags.flatMap fun f => f.names.map fun n => (n, f)

def flag? (g : Grammar) (name : String) : Option Flag :=
  (g.named.find? fun e => e.1 = name).map (·.2)

/-- Digits with a point before or among them, or digits alone. -/
def isNumber (cs : List Char) : Bool :=
  match cs.dropWhile Text.isDigit with
  | [] => cs ≠ []
  | '.' :: fraction => fraction ≠ [] && fraction.all Text.isDigit
  | _ => false

/-- Negative numbers are no flags. A line break at their end does not count. -/
def isNegative (cs : List Char) : Bool :=
  match cs with
  | '-' :: rest => isNumber rest || (rest.getLast? = some '\n' && isNumber rest.dropLast)
  | _ => false

/-- The text before the first equals sign and the text behind it. -/
def splitValue (cs : List Char) : List Char × Option String :=
  match cs.dropWhile (· ≠ '=') with
  | [] => (cs, none)
  | _ :: value => (cs.takeWhile (· ≠ '='), some (String.ofList value))

/-- The flags that an argument may mean which is none of their names. -/
def candidates (g : Grammar) (cs : List Char) : List Occurrence :=
  match cs with
  | '-' :: '-' :: _ =>
    let (start, value) := splitValue cs
    (g.named.filter fun e => start.isPrefixOf e.1.toList).map fun e => ⟨some e.2, e.1, value⟩
  | '-' :: c :: rest =>
    (g.named.filter fun e => e.1.toList = ['-', c]).map fun e =>
      ⟨some e.2, e.1, some (String.ofList rest)⟩
  | _ => []

def assigned? (g : Grammar) (cs : List Char) : Option Occurrence :=
  match splitValue cs with
  | (_, none) => none
  | (start, some value) =>
    let name := String.ofList start
    (g.flag? name).map fun f => ⟨some f, name, some value⟩

/-- Marks an argument. Unknown flags are flags unless they look like numbers or sentences. -/
def mark (g : Grammar) (argument : String) : Except Stop Mark :=
  match argument.toList with
  | '-' :: c :: rest =>
    let cs := '-' :: c :: rest
    match (g.flag? argument).map fun f => Occurrence.mk (some f) argument none with
    | some o => .ok (.flag o)
    | none =>
      -- a whole name with a value joined to it counts before names that begin so
      match g.assigned? cs, g.candidates cs with
      | some o, _ => .ok (.flag o)
      | none, [o] => .ok (.flag o)
      | none, [] =>
        if isNegative cs || cs.contains ' ' then .ok .plain else .ok (.flag ⟨none, argument, none⟩)
      | none, os =>
        g.refuse ("ambiguous option: " ++ argument ++ " could match " ++
          ", ".intercalate (os.map (·.name)))
  | _ => .ok .plain

/-- Marks all arguments. Behind the first `--` there are no flags. -/
def marks (g : Grammar) : List String → Except Stop (List (String × Mark))
  | [] => .ok []
  | a :: rest =>
    if a = "--" then .ok ((a, .separator) :: rest.map fun b => (b, .plain))
    else do
      let m ← g.mark a
      let ms ← g.marks rest
      pure ((a, m) :: ms)

/-! ### Flags -/

def perform (g : Grammar) (r : Reading) (f : Flag) (value : String) : Except Stop Reading :=
  match f.action with
  | .tell text => .error (.told text)
  | .switch => .ok { r with settings := (f.label, "") :: r.settings }
  | .value choices =>
    if choices = [] ∨ value ∈ choices then
      .ok { r with settings := (f.label, value) :: r.settings }
    else
      g.refuseFlag f.label ("invalid choice: " ++ Text.quoted value ++ " (choose from " ++
        ", ".intercalate (choices.map Text.quoted) ++ ")")

/-- The flags of one argument that take no value and are joined to a first one, up to the one
that may take the value; with what that one has joined to it. -/
def unjoin (g : Grammar) (f : Flag) (name : String) (joined : List Char) :
    Except Stop (List Flag × Flag × Option String) :=
  if f.takesValue then .ok ([], f, some (String.ofList joined))
  else
    let ignored : Except Stop (List Flag × Flag × Option String) :=
      g.refuseFlag f.label ("ignored explicit argument " ++ Text.quoted (String.ofList joined))
    match name.toList, joined with
    | '-' :: '-' :: _, _ => ignored
    | _, [] => ignored
    | _, c :: rest =>
      let next := String.ofList ['-', c]
      match g.flag? next with
      | none => ignored
      | some f' =>
        if rest = [] then .ok ([f], f', none)
        else (g.unjoin f' next rest).map fun (fs, last, value) => (f :: fs, last, value)

/-- Carries out flags without values one after the other. -/
def performAll (g : Grammar) (r : Reading) (fs : List Flag) : Except Stop Reading :=
  fs.foldlM (fun r f => g.perform r f "") r

/-- Carries out the flag of an argument; the value may be the next argument. -/
def takeFlag (g : Grammar) (r : Reading) (argument : String) (o : Occurrence)
    (rest : List (String × Mark)) : Except Stop (Reading × List (String × Mark)) :=
  match o.flag with
  | none => .ok ({ r with leftOver := r.leftOver ++ [argument] }, rest)
  | some f => do
    let (before, last, joined) ← match o.joined with
      | none => .ok ([], f, none)
      | some s => g.unjoin f o.name s.toList
    let (value, rest) ← match last.takesValue, joined, rest with
      | false, _, _ => .ok ("", rest)
      | true, some s, _ => .ok (s, rest)
      | true, none, (s, .plain) :: rest => .ok (s, rest)
      | true, none, _ => g.refuseFlag last.label "expected one argument"
    let r ← g.performAll r before
    let r ← g.perform r last value
    pure (r, rest)

/-! ### The place -/

def isSeparator (m : String × Mark) : Bool := m.2 = .separator

def isFlag (m : String × Mark) : Bool :=
  match m.2 with
  | .flag _ => true
  | _ => false

/-- How many of the coming arguments a place takes. -/
def span (a : Arity) (ms : List (String × Mark)) : Nat :=
  let ahead := (ms.takeWhile isSeparator).length
  match ms.drop ahead with
  | (_, .plain) :: rest =>
    match a with
    | .one => ahead + 1 + (rest.takeWhile isSeparator).length
    | .several => ahead + 1 + (rest.takeWhile (!isFlag ·)).length
    | .rest => ms.length
  | _ => 0

/-- Fills the place, if it is still open and the coming arguments fit. The first separator among
several arguments is dropped. -/
def fill (place : Option Place) (r : Reading) (ms : List (String × Mark)) :
    Reading × List (String × Mark) :=
  match place, r.arguments with
  | some p, none =>
    let n := span p.arity ms
    if n = 0 then (r, ms)
    else
      let taken := (ms.take n).map (·.1)
      let arguments := if p.arity = .rest then taken else taken.erase "--"
      ({ r with arguments := some arguments }, ms.drop n)
  | _, _ => (r, ms)

/-! ### Reading -/

/-- Fills the place and carries out the flags in turn; every turn costs one of `fuel`. -/
def readFrom (g : Grammar) : Nat → Reading → List (String × Mark) → Except Stop Reading
  | 0, r, _ => .ok r
  | fuel + 1, r, ms =>
    match ms with
    | [] => .ok r
    | (argument, .flag o) :: rest => do
      let (r, rest) ← g.takeFlag r argument o rest
      g.readFrom fuel r rest
    | _ =>
      let (r', rest) := fill g.place r ms
      if rest.length < ms.length then g.readFrom fuel r' rest
      else
        let passed := (ms.takeWhile (!isFlag ·)).map (·.1)
        g.readFrom fuel { r with leftOver := r.leftOver ++ passed } (ms.dropWhile (!isFlag ·))

/-- Reads an argument list. A place that must be filled is. -/
def read (g : Grammar) (arguments : List String) : Except Stop Reading := do
  let ms ← g.marks arguments
  let r ← g.readFrom (ms.length + 1) {} ms
  match g.place, r.arguments with
  | some p, none =>
    if p.required then g.refuse ("the following arguments are required: " ++ p.name) else pure r
  | _, _ => pure r

end Grammar

end MetadataBag.Command
