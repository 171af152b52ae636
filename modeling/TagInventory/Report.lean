import TagInventory.Tag

/-!
# Reports

What the inventory tells the application.  A report carries keys only; every list is
ascending.
-/

namespace TagInventory

/-- One call of the observer. -/
inductive Report
  /-- Tags that left and tags that came in between two cycles. -/
  | change (removed added : List String)
  /-- Everything seen during the last run. -/
  | contents (counts : Counts)
  /-- How often each tag was seen in a diagnostic run. -/
  | occurrences (counts : Counts)
  deriving DecidableEq, Repr

end TagInventory
