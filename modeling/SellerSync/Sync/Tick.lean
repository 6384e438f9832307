import SellerSync.Sync.Pull
import SellerSync.Schedule
/-! One pass of the poller over a family of marketplaces: every active account of the family that is
due at the given time is refreshed, the others are counted as not due. -/
namespace SellerSync

/-- What one pass did. -/
structure TickSummary where
  dispatched : Nat := 0
  notDue : Nat := 0
  succeeded : Nat := 0
  failed : Nat := 0
  deriving Repr, Inhabited

namespace Tick

open SyncM

/-- Refreshes the family's due accounts as of `at_`. -/
def run (family : ChannelFamily) (at_ : Instant) : SyncM TickSummary := do
  let accounts := (← store).activeAccounts family.marketplaces
  let mut summary : TickSummary := {}
  let mut due : List ChannelAccount := []
  for account in accounts do
    if Schedule.isDue account.lastSyncedAt at_ family.cadenceSecs then
      summary := { summary with dispatched := summary.dispatched + 1 }
      due := due ++ [account]
    else
      summary := { summary with notDue := summary.notDue + 1 }
  for account in due do
    match ← attempt (Pull.refreshAccount account.id) with
    | .ok _ => summary := { summary with succeeded := summary.succeeded + 1 }
    | .error _ => summary := { summary with failed := summary.failed + 1 }
  return summary

end Tick

end SellerSync
