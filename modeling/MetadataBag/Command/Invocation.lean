import MetadataBag.Command.Grammar

/-!
What the command can be asked to do, and the texts in which it says so.
-/

namespace MetadataBag.Command

inductive Format where
  | text
  | xml
  | names
  deriving DecidableEq, Repr

namespace Format

def spellings : List (String × Format) := [("text", .text), ("xml", .xml), ("names", .names)]

def ofName? (name : String) : Option Format :=
  (spellings.find? fun e => e.1 = name).map (·.2)

end Format

inductive Task where
  | help
  | showFile (path : String) (format : Format)
  | dates (texts : List String)
  | properties
  deriving DecidableEq, Repr

structure Invocation where
  config : Option String
  logLevel : Option String
  verbose : Bool
  task : Task
  deriving DecidableEq, Repr

/-! ### Texts -/

def program : String := "docmeta"

def version : String := "1.0.0"

def lines (ls : List String) : String := String.join (ls.map (· ++ "\n"))

def choiceText (names : List String) : String := "\x7b" ++ ",".intercalate names ++ "\x7d"

def taskNames : List String := ["show", "date", "properties"]

def formatNames : List String := Format.spellings.map (·.1)

def usage : String :=
  lines [ "usage: docmeta [-h] [--version] [--config CONFIG] [--log-level LOG_LEVEL] [-v]",
          "               " ++ choiceText taskNames ++ " ..." ]

def help : String :=
  usage ++
  lines [ "",
          "Inspect document metadata and normalize metadata dates",
          "",
          "positional arguments:",
          "  " ++ choiceText taskNames,
          "    show                Load a metadata file and print it",
          "    date                Normalize ISO-8601 date strings",
          "    properties          List registered properties",
          "",
          "options:",
          "  -h, --help            show this help message and exit",
          "  --version             show program's version number and exit",
          "  --config CONFIG       Path to a TOML configuration file",
          "  --log-level LOG_LEVEL",
          "                        Log level (default: WARNING)",
          "  -v, --verbose         Debug logging with source locations" ]

def showUsage : String :=
  lines ["usage: docmeta show [-h] [-f " ++ choiceText formatNames ++ "] file"]

def showHelp : String :=
  let choices := choiceText formatNames
  showUsage ++
  lines [ "",
          "positional arguments:",
          "  file                  YAML or JSON mapping of names to values",
          "",
          "options:",
          "  -h, --help            show this help message and exit",
          "  -f " ++ choices ++ ", --format " ++ choices,
          "                        Output format (default: text)" ]

def dateUsage : String := lines ["usage: docmeta date [-h] dates [dates ...]"]

def dateHelp : String :=
  dateUsage ++
  lines [ "",
          "positional arguments:",
          "  dates       Date strings to normalize",
          "",
          "options:",
          "  -h, --help  show this help message and exit" ]

def propertiesUsage : String := lines ["usage: docmeta properties [-h]"]

def propertiesHelp : String :=
  propertiesUsage ++
  lines [ "",
          "options:",
          "  -h, --help  show this help message and exit" ]

/-! ### Grammars -/

def helpFlag (text : String) : Flag := ⟨["-h", "--help"], .tell text⟩

def configFlag : Flag := ⟨["--config"], .value []⟩

def levelFlag : Flag := ⟨["--log-level"], .value []⟩

def verboseFlag : Flag := ⟨["-v", "--verbose"], .switch⟩

def formatFlag : Flag := ⟨["-f", "--format"], .value formatNames⟩

/-- The task and its own arguments are read together. -/
def grammar : Grammar where
  program := program
  usage := usage
  flags :=
    [ helpFlag help, ⟨["--version"], .tell (program ++ " " ++ version ++ "\n")⟩, configFlag,
      levelFlag, verboseFlag ]
  place := some ⟨"command", .rest, false⟩

def showGrammar : Grammar where
  program := program ++ " show"
  usage := showUsage
  flags := [helpFlag showHelp, formatFlag]
  place := some ⟨"file", .one, true⟩

def dateGrammar : Grammar where
  program := program ++ " date"
  usage := dateUsage
  flags := [helpFlag dateHelp]
  place := some ⟨"dates", .several, true⟩

def propertiesGrammar : Grammar where
  program := program ++ " properties"
  usage := propertiesUsage
  flags := [helpFlag propertiesHelp]
  place := none

/-! ### Reading -/

def Reading.format (r : Reading) : Format :=
  ((r.setting? formatFlag).bind Format.ofName?).getD .text

/-- A task and what is left over of its arguments. -/
def Task.read (name : String) (arguments : List String) : Except Stop (Task × List String) :=
  match name with
  | "show" => do
    let r ← showGrammar.read arguments
    pure (.showFile ((r.arguments.getD []).headD "") r.format, r.leftOver)
  | "date" => do
    let r ← dateGrammar.read arguments
    pure (.dates (r.arguments.getD []), r.leftOver)
  | "properties" => do
    let r ← propertiesGrammar.read arguments
    pure (.properties, r.leftOver)
  | name =>
    grammar.refuseFlag "command" ("invalid choice: " ++ Text.quoted name ++ " (choose from " ++
      ", ".intercalate (taskNames.map Text.quoted) ++ ")")

/-- Reads an argument list. Nothing may be left over. Without a task there is help. -/
def Invocation.read (arguments : List String) : Except Stop Invocation := do
  let r ← grammar.read arguments
  let (task, more) ← match r.arguments with
    | some (name :: rest) => Task.read name rest
    | _ => .ok (.help, [])
  let leftOver := r.leftOver ++ more
  if leftOver = [] then
    pure
      { config := r.setting? configFlag
        logLevel := r.setting? levelFlag
        verbose := (r.setting? verboseFlag).isSome
        task }
  else grammar.refuse ("unrecognized arguments: " ++ " ".intercalate leftOver)

end MetadataBag.Command
