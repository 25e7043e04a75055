import FleetScaling.Failure
import FleetScaling.Json.Record

/-!
# Settings of the operator

An operator can keep in a JSON file where the bench answers and where its files are. Everything
there is optional, and what is said on the command line comes first.
-/

namespace FleetScaling

open Json

/-- What an operator has set. -/
structure OperatorSettings where
  /-- Where the bench answers. -/
  apiUrl : Option String
  baselinePath : Option String
  reportDirectory : Option String
  deriving DecidableEq

namespace OperatorSettings

/-- Nothing is set. -/
def empty : OperatorSettings := ⟨none, none, none⟩

/-- Where the bench answers unless something else is set. -/
def usualUrl : String := "http://localhost:8080"

/-- The fields of the settings. -/
def record : Record OperatorSettings :=
  OperatorSettings.mk <$> .optionalField "api_url" (.text "a string") <*>
    .optionalField "baseline_path" (.text "path string") <*>
    .optionalField "report_dir" (.text "path string")

/-- Decodes settings. -/
def decoder : Decoder OperatorSettings := record.decoder "Config"

/-- The settings in a file, if there is such a file. -/
def load (files : Files) (path : String) : Except Failure OperatorSettings :=
  if files.holds path then do
    let text ← withContext "Failed to read config file"
      ((files.read path).mapError fun e => .of (.file e))
    decodeWithin "Failed to parse config file" decoder text
  else .ok empty

/-- The place of the settings below a home directory. -/
def pathBelow (home : String) : String :=
  Files.joinPath home ".config/scalectl/config.json"

/-- Where the bench answers, given what the command line says. -/
def url (s : OperatorSettings) (flag : Option String) : String :=
  (flag.orElse fun _ => s.apiUrl).getD usualUrl

end OperatorSettings

end FleetScaling
