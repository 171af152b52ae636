/-!
# Control events

Requests from other contexts, such as the door logic, that the control thread carries
out one after the other.
-/

namespace TagInventory

/-- A request to the control thread. -/
inductive ControlEvent
  /-- The door was opened: poll until stopped. -/
  | startContinuous (requireFinalResult : Bool)
  | stop
  /-- A content query over a number of cycles. -/
  | runBounded (cycles : UInt64)
  /-- The door was closed: a content query over the closing number of cycles. -/
  | runClosing
  | findBrokenLabels (iterations : UInt64)
  | reportContents
  deriving DecidableEq, Repr

/-- An event with its fields, as messages show it. -/
def ControlEvent.text : ControlEvent → String
  | .startContinuous requireFinalResult =>
    "StartContinuous \x7b require_final_result: " ++ toString requireFinalResult ++ " \x7d"
  | .stop => "Stop"
  | .runBounded cycles => "RunBounded \x7b cycles: " ++ toString cycles ++ " \x7d"
  | .runClosing => "RunClosing"
  | .findBrokenLabels iterations =>
    "FindBrokenLabels \x7b iterations: " ++ toString iterations ++ " \x7d"
  | .reportContents => "ReportContents"

end TagInventory
