import MetadataBag.Error

/-!
Log lines. Of what is reported, only what reaches a level is written.
-/

namespace MetadataBag.Command

inductive Level where
  | trace
  | debug
  | info
  | success
  | warning
  | error
  | critical
  deriving DecidableEq, Repr

namespace Level

def table : List (String × Level × Nat) :=
  [ ("TRACE", .trace, 5), ("DEBUG", .debug, 10), ("INFO", .info, 20), ("SUCCESS", .success, 25),
    ("WARNING", .warning, 30), ("ERROR", .error, 40), ("CRITICAL", .critical, 50) ]

def ofName? (name : String) : Option Level :=
  (table.find? fun e => e.1 = name).map (·.2.1)

def name (l : Level) : String := ((table.find? fun e => e.2.1 = l).map (·.1)).getD ""

def weight (l : Level) : Nat := ((table.find? fun e => e.2.1 = l).map (·.2.2)).getD 0

end Level

structure Report where
  level : Level
  message : String
  deriving DecidableEq, Repr

namespace Report

def width : Nat := 8

def line (r : Report) : String :=
  r.level.name ++ "".pushn ' ' (width - r.level.name.length) ++ " | " ++ r.message ++ "\n"

def log (least : Level) (rs : List Report) : String :=
  String.join ((rs.filter fun r => decide (least.weight ≤ r.level.weight)).map line)

end Report

end MetadataBag.Command
