import DiceTower.Service

/-!
# Replies as records

What the service's replies are to the one who called a tool. A receipt holds all of its report and
the particulars of the request; a reading holds the text as it was given and what was read.
-/

namespace DiceTower

/-- The named values of a receipt. -/
def Receipt.fields (receipt : Receipt) : Record Value :=
  receipt.report.fields ++
    [("request_id", .text receipt.stamp.requestId), ("timestamp", .text receipt.stamp.time),
      ("rng", .record [("source", .text receipt.sourceName)])]

/-- The named values of a reading. -/
def Reading.fields (reading : Reading) : Record Value :=
  [("input", Value.orNull .text reading.text), ("parsed", .record reading.command.fields),
    ("normalized_expression", .text reading.canonical)]

/-- The named values of a reply. -/
def Reply.fields : Reply → Record Value
  | .rolled receipt => receipt.fields
  | .read reading => reading.fields

end DiceTower
