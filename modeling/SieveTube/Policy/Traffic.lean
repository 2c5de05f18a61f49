import SieveTube.Library.Run
import SieveTube.Policy.Bucket

/-!
# Traffic on a table of buckets

A request, and the task that sweeps the tables, reads the monotonic clock
first and uses the table later.  The uses of a table are atomic, but they need
not happen in the order of their clock readings.
-/

namespace SieveTube

/-- What is done with a table. -/
inductive TableUse where
  | take (key : UInt64) (limit : RateLimit) (amount : ℚ≥0)
      (maxEntries : Nat) (idleTtl : ℚ≥0)
  | sweep (idleTtl : ℚ≥0)

/-- The key a use takes from. -/
def TableUse.key : TableUse → Option UInt64
  | .take key _ _ _ _ => some key
  | .sweep _ => none

@[simp]
def BucketTable.use (table : BucketTable) (reading : ℚ≥0) :
    TableUse → Except TakeError Unit × BucketTable
  | .take key limit amount maxEntries idleTtl =>
    table.take key limit amount reading maxEntries idleTtl
  | .sweep idleTtl => (.ok (), table.sweep reading idleTtl)

/-- A use that was made, with the clock reading it came with. -/
structure AppliedUse where
  reading : ℚ≥0
  use : TableUse
  outcome : Except TakeError Unit

/-- The clock, the readings that were not used yet, the table, and its uses in
the order they were made. -/
structure Traffic where
  clock : ℚ≥0
  waiting : List ℚ≥0
  table : BucketTable
  log : List AppliedUse

inductive TrafficStep where
  | pass (elapsed : ℚ≥0)
  | readClock
  | use (index : Nat) (use : TableUse)

namespace Traffic

def start : Traffic :=
  { clock := 0, waiting := [], table := .new, log := [] }

/-- The reading at a position is used. -/
def useReading (traffic : Traffic) (index : Nat) (reading : ℚ≥0)
    (use : TableUse) : Traffic :=
  let (outcome, table) := traffic.table.use reading use
  { traffic with
    waiting := traffic.waiting.eraseIdx index
    table
    log := traffic.log ++ [{ reading, use, outcome }] }

def step (traffic : Traffic) : TrafficStep → Traffic
  | .pass elapsed => { traffic with clock := traffic.clock + elapsed }
  | .readClock =>
    { traffic with waiting := traffic.waiting ++ [traffic.clock] }
  | .use index use =>
    match traffic.waiting[index]? with
    | none => traffic
    | some reading => traffic.useReading index reading use

def run (steps : List TrafficStep) : Traffic := Run.after step start steps

/-- The steps of a use right after its clock reading. -/
def atOnce (elapsed : ℚ≥0) (use : TableUse) : List TrafficStep :=
  [.pass elapsed, .readClock, .use 0 use]

theorem after_atOnce {traffic : Traffic} (idle : traffic.waiting = [])
    (elapsed : ℚ≥0) (use : TableUse) :
    Run.after step traffic (atOnce elapsed use) =
      let reading := traffic.clock + elapsed
      let used := traffic.table.use reading use
      { clock := reading
        waiting := []
        table := used.2
        log := traffic.log ++ [{ reading, use, outcome := used.1 }] } := by
  simp [Run.after, atOnce, step, useReading, idle]

end Traffic

end SieveTube
