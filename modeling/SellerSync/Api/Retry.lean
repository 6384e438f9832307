/-! Retry timing for provider calls. A call is tried at most `maxAttempts` times. -/
namespace SellerSync

/-- A non-negative duration in nanoseconds, at most `maxNanos`. -/
structure Duration where
  nanos : Nat
  deriving DecidableEq, Repr, Inhabited

namespace Duration

def maxNanos : Nat := (Nat.pow 2 64 - 1) * 1000000000 + 999999999

def zero : Duration := ⟨0⟩

def ofSecs (s : Nat) : Duration := ⟨min (s * 1000000000) maxNanos⟩

def ofMillis (ms : Nat) : Duration := ⟨min (ms * 1000000) maxNanos⟩

def secs (d : Duration) : Nat := d.nanos / 1000000000

def subsecNanos (d : Duration) : Nat := d.nanos % 1000000000

def min (a b : Duration) : Duration := if a.nanos ≤ b.nanos then a else b

def saturatingMul (d : Duration) (k : Nat) : Duration := ⟨Nat.min (d.nanos * k) maxNanos⟩

end Duration

structure RetryPolicy where
  /-- Total attempts, the first included. -/
  maxAttempts : Nat
  baseDelay : Duration
  maxDelay : Duration
  maxRetryAfter : Duration
  deriving Repr, Inhabited

namespace RetryPolicy

def standard : RetryPolicy := ⟨3, .ofSecs 2, .ofSecs 5, .ofSecs 30⟩

/-- The same number of attempts with no waiting. -/
def immediate (n : Nat) : RetryPolicy := ⟨n, .zero, .zero, .zero⟩

/-- Wait after the 1-based attempt `attempt`. -/
def delayFor (p : RetryPolicy) (attempt : Nat) (retryAfter : Option Duration) : Duration :=
  match retryAfter with
  | some wait => wait.min p.maxRetryAfter
  | none =>
    let factor := if attempt - 1 ≥ 32 then Nat.pow 2 32 - 1 else Nat.min (Nat.pow 2 (attempt - 1)) (Nat.pow 2 32 - 1)
    (p.baseDelay.saturatingMul factor).min p.maxDelay

end RetryPolicy

/-- Statuses after which a call is tried again. -/
def isRetryable (status : Nat) : Bool := status == 429 || (500 ≤ status && status < 600)

end SellerSync
