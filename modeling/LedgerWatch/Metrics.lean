import LedgerWatch.Index

/-!
# Metrics

What a host counts: how notifications, blocks and poll cycles ended, the height of the last recorded
offset, and how many blocks each successful cycle examined.
-/

namespace LedgerWatch

/-- What is counted. -/
inductive Counter where
  /-- A watcher that was told about a block and asked for more. -/
  | rearmed
  /-- A watcher that was told about a block and asked for no more. -/
  | optedOut
  /-- A watcher that failed when it was told about a block. -/
  | failed
  /-- A watcher whose criteria could not be evaluated. -/
  | notEvaluated
  /-- A block that was handed to the registry. -/
  | blockNotified
  /-- A block that was processed before. -/
  | blockSkipped
  /-- A block that the registry did not take. -/
  | blockRefused
  /-- A poll cycle that succeeded. -/
  | cycleSucceeded
  /-- A poll cycle that the ledger failed. -/
  | cycleWithoutLedger
  /-- A poll cycle that the offset store failed. -/
  | cycleWithoutStore
deriving DecidableEq

namespace Counter

/-- All counters. -/
def all : List Counter :=
  [.rearmed, .optedOut, .failed, .notEvaluated, .blockNotified, .blockSkipped, .blockRefused,
    .cycleSucceeded, .cycleWithoutLedger, .cycleWithoutStore]

/-- The name under which a counter is shown. -/
def label : Counter → String
  | .rearmed => "sentinel_notifications_total\x7bresult=rearmed\x7d"
  | .optedOut => "sentinel_notifications_total\x7bresult=opted_out\x7d"
  | .failed => "sentinel_notifications_total\x7bresult=failed\x7d"
  | .notEvaluated => "sentinel_notifications_total\x7bresult=ledger_error\x7d"
  | .blockNotified => "sentinel_blocks_total\x7bresult=notified\x7d"
  | .blockSkipped => "sentinel_blocks_total\x7bresult=skipped\x7d"
  | .blockRefused => "sentinel_blocks_total\x7bresult=notify_failed\x7d"
  | .cycleSucceeded => "sentinel_poll_cycles_total\x7bresult=ok\x7d"
  | .cycleWithoutLedger => "sentinel_poll_cycles_total\x7bresult=ledger_error\x7d"
  | .cycleWithoutStore => "sentinel_poll_cycles_total\x7bresult=storage_error\x7d"

end Counter

/-- What a host has counted. -/
structure Metrics where
  counts : Index Counter Nat := {}
  /-- The height of the last offset that was recorded. -/
  offsetHeight : Option Nat := none
  /-- How many blocks each successful cycle examined, the last cycle first. -/
  cycleSizes : List Nat := []

namespace Metrics

instance : Inhabited Metrics :=
  ⟨{}⟩

/-- The value of a counter. -/
def count (m : Metrics) (c : Counter) : Nat :=
  (m.counts.get? c).getD 0

/-- Counts one more. -/
def increment (c : Counter) (m : Metrics) : Metrics :=
  { m with counts := m.counts.insert c (m.count c + 1) }

/-- Sets the height of the last recorded offset. -/
def recordOffset (height : Nat) (m : Metrics) : Metrics :=
  { m with offsetHeight := some height }

/-- Adds the size of a successful cycle. -/
def recordCycle (size : Nat) (m : Metrics) : Metrics :=
  { m with cycleSizes := size :: m.cycleSizes }

/-- A counter that counts goes up by one, and every other one stays as it is. -/
theorem count_increment (m : Metrics) (c d : Counter) :
    (m.increment c).count d = if d = c then m.count c + 1 else m.count d := by
  by_cases h : d = c <;> simp [increment, count, Index.get?_insert, h]

end Metrics

end LedgerWatch
