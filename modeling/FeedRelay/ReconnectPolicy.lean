import FeedRelay.Interval

/-!
# When to connect again

After an outage, attempts to connect are made one after another, each after a delay. The
delays double from attempt to attempt up to a limit. Attempts are numbered from zero, and
their number may be limited.
-/

namespace FeedRelay

/-- Whether, how often and after which delays to connect again. Without a limit on the number
of attempts, `maxAttempts` is zero. -/
structure ReconnectPolicy where
  enabled : Bool
  initialDelay : Interval
  maxDelay : Interval
  maxAttempts : Nat
  deriving DecidableEq, Repr

namespace ReconnectPolicy

/-- Never connect again. -/
def disabled : ReconnectPolicy where
  enabled := false
  initialDelay := .ofMilliseconds 500
  maxDelay := .ofMilliseconds 8000
  maxAttempts := 0

/-- Connect again without end, with delays that double from the initial one up to a limit that
is never below it. -/
def exponential (initialDelay maxDelay : Interval) : ReconnectPolicy where
  enabled := true
  initialDelay
  maxDelay := maxDelay.longer initialDelay
  maxAttempts := 0

/-- The policy with a limit on the number of attempts. -/
def withMaxAttempts (policy : ReconnectPolicy) (maxAttempts : Nat) : ReconnectPolicy :=
  { policy with maxAttempts }

/-- Whether an attempt may be made. -/
def allows (policy : ReconnectPolicy) (attempt : Nat) : Bool :=
  policy.enabled && (policy.maxAttempts == 0 || attempt < policy.maxAttempts)

/-- The greatest factor of a delay. -/
def factorLimit : Nat := Nat.pow 2 32 - 1

/-- The factor of the delay before an attempt: two to its number, within the limit. -/
def factor (attempt : Nat) : Nat :=
  min (Nat.pow 2 (min attempt 32)) factorLimit

/-- The delay before an attempt. -/
def delayFor (policy : ReconnectPolicy) (attempt : Nat) : Interval :=
  (policy.initialDelay.scale (factor attempt)).shorter policy.maxDelay

/-- A policy in short, for messages. -/
def toText (policy : ReconnectPolicy) : String :=
  s!"ReconnectPolicy \x7b enabled: {policy.enabled}" ++
    s!", initial_delay: {policy.initialDelay.toText}, max_delay: {policy.maxDelay.toText}" ++
    s!", max_attempts: {policy.maxAttempts} \x7d"

end ReconnectPolicy

end FeedRelay
