import Acceptance.Record

/-!
# Aggregates

The final records of a run. Of all records with one key only the one that finished last is kept, the
later report counting where two finished together. Keys stay in the order in which they were first
reported.
-/

namespace Acceptance

/-- The kept records, and the number of those that were discarded. -/
structure Aggregate where
  records : List Record := []
  discarded : Nat := 0
deriving DecidableEq, Inhabited

namespace Aggregate

/-- Puts a record in the place of the one with its key, unless that one finished later. -/
def supersede (record : Record) (kept : Record) : Record :=
  if kept.key = record.key ∧ kept.finishedAt ≤ record.finishedAt then record else kept

/-- Takes a record into account. -/
def record (aggregate : Aggregate) (record : Record) : Aggregate :=
  if aggregate.records.any fun kept => kept.key = record.key then
    { records := aggregate.records.map (supersede record), discarded := aggregate.discarded + 1 }
  else { aggregate with records := aggregate.records ++ [record] }

/-- Takes records into account in order. -/
def extend (aggregate : Aggregate) (records : List Record) : Aggregate :=
  records.foldl Aggregate.record aggregate

/-- The aggregate of some records. -/
def ofRecords (records : List Record) : Aggregate := Aggregate.extend {} records

/-- Takes the records of another aggregate into account, and what it discarded. -/
def merge (aggregate other : Aggregate) : Aggregate :=
  Aggregate.extend { aggregate with discarded := aggregate.discarded + other.discarded }
    other.records

/-- The kept record with a key. -/
def get? (aggregate : Aggregate) (key : ScenarioKey) : Option Record :=
  aggregate.records.find? fun record => record.key = key

/-- The number of kept records. -/
def size (aggregate : Aggregate) : Nat := aggregate.records.length

/-- Counts the kept records. -/
def stats (aggregate : Aggregate) : Stats := .ofRecords aggregate.records

/-- Whether a kept record is one of a failure. -/
def hasFailures (aggregate : Aggregate) : Bool :=
  aggregate.records.any fun record => record.status = .failed

end Aggregate

end Acceptance
