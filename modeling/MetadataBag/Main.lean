import MetadataBag.Command.Run
import MetadataBag.Yaml.Document

/-!
The command, on the files and the environment that it is started in. Documents are YAML; the system
is on universal time and knows the zones of the regions.
-/

namespace MetadataBag.Command

/-- The names of the variables that are looked at. -/
def variableNames : List String :=
  ["DOCMETA_CONFIG", "DOCMETA_CODEC", "DOCMETA_TIMEZONE", "DOCMETA_CATALOG", "DOCMETA_LOG_LEVEL"]

def environment : IO Environment := do
  let values ← variableNames.mapM fun name => do
    let value ← IO.getEnv name
    pure (value.map fun v => (name, v))
  pure (values.filterMap id)

def faultOf (e : IO.Error) : FileFault :=
  match e with
  | .permissionDenied .. => .denied
  | .inappropriateType .. => .directory
  | _ => .missing

def readPath (path : String) : IO (String × Except FileFault ByteArray) := do
  try
    let contents ← IO.FS.readBinFile path
    pure (path, .ok contents)
  catch e => pure (path, .error (faultOf e))

/-- Reads the files that a run is known to need. The settings name further ones, so that this is
done twice. -/
def gather (arguments : List String) (env : Environment) (folder : Folder) : IO Folder := do
  let known ← (wanted arguments folder env).mapM readPath
  pure { folder with known }

end MetadataBag.Command

def main (arguments : List String) : IO UInt32 := do
  let env ← MetadataBag.Command.environment
  let folder ← MetadataBag.Command.gather arguments env .empty
  let folder ← MetadataBag.Command.gather arguments env folder
  let answer := MetadataBag.Command.run arguments
    { folder, read := MetadataBag.Yaml.reader, environment := env }
  (← IO.getStdout).putStr answer.output
  (← IO.getStderr).putStr answer.errors
  pure (UInt32.ofNat answer.status)
