import FleetScaling.Baseline.Basic
import FleetScaling.Failure

/-!
# Baseline files

A baseline is kept in a JSON file. A file that cannot be read and one that holds no baseline are
different failures, and both name the file.
-/

namespace FleetScaling.Baseline

open Json

/-- The baseline in the file at a path, given what reading the file gave. -/
def ofFile (path : String) (content : Except FileError String) : Except Failure Baseline :=
  match content with
  | .error e => .error (.of (.unreadableBaseline path e))
  | .ok text => (decode decoder text).mapError fun e => .of (.malformedBaseline path e)

end FleetScaling.Baseline
