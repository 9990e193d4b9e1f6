import LedgerWatch.Criteria.Basic
import LedgerWatch.Ledger.Basic
import LedgerWatch.Program
import LedgerWatch.Settings.Schema

/-!
# Watchers

A watcher is asked for its first criteria once, and is then told about blocks that satisfy the
criteria it gave last. Each time it gives the criteria that it wants next, or none. A watcher has a
state of its own, which each of its programs leaves behind.
-/

namespace LedgerWatch

/-- Why a watcher does not give criteria. -/
inductive WatcherError where
  | failed (message : String)
  | ledger (error : LedgerError)
  | settings (error : SettingsError)
  /-- The watcher broke down. -/
  | panicked
deriving DecidableEq

/-- The wording of each error. -/
def WatcherError.message : WatcherError → String
  | .failed message => message
  | .ledger error => "ledger error: " ++ error.message
  | .settings error => "config error: " ++ error.message
  | .panicked => "sentinel panicked"

/-- What watchers with states in `σ` do in a world `W`. -/
structure Behaviour (W σ : Type) where
  /-- Gives the first criteria. -/
  start : σ → Settings → Program W (Except WatcherError Criteria × σ)
  /-- Hears of a block, with the criteria that it satisfied, and gives the next criteria, if any. -/
  notify : σ → BlockId → Criteria → Program W (Except WatcherError (Option Criteria) × σ)

end LedgerWatch
