import AspiManager.Request.Basic

/-!
# The end of a request

The one step that makes a status final. Host and target status are only set on success; of a failed
request nothing but the status is reported.
-/

namespace AspiManager

namespace Request

/-- The request with its final status. -/
def settle (r : Request) (s : Status) : Request :=
  match s with
  | .complete => { r with status := s, hostStatus := 0, targetStatus := 0 }
  | .pending | .failed | .invalid | .busy => { r with status := s }

end Request

end AspiManager
