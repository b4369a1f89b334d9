import Mathlib.Algebra.Group.Nat.Defs
import FeedRelay.Settings.Basic

/-!
# The delays of a policy

The delay before an attempt is the initial delay times a power of two, within the limits of
intervals, of factors and of the policy (`ReconnectPolicy.nanoseconds_delayFor`), so delays never
get shorter from attempt to attempt (`ReconnectPolicy.delayFor_mono`). The limit of a policy that
was made from two delays or from settings (`ReconnectPolicy.Configured`) is not below its initial
delay, and its delays lie between the two (`ReconnectPolicy.Configured.delayFor_bounds`).

The limit of intervals never shows, since that of the policy is an interval itself. The limit of
factors does: from attempt 32 on, delays do not double any more, even if the limit of the policy is
not reached (`ReconnectPolicy.delayFor_eq_power_iff`).
-/

namespace FeedRelay

namespace Interval

theorem nanoseconds_shorter (a b : Interval) :
    (a.shorter b).nanoseconds = min a.nanoseconds b.nanoseconds := by
  unfold shorter
  split <;> omega

theorem nanoseconds_longer (a b : Interval) :
    (a.longer b).nanoseconds = max a.nanoseconds b.nanoseconds := by
  unfold longer
  split <;> omega

theorem nanoseconds_scale (d : Interval) (factor : Nat) :
    (d.scale factor).nanoseconds = min (d.nanoseconds * factor) limit := rfl

end Interval

namespace ReconnectPolicy

/-- The policies that are made from two delays and a limit on the number of attempts, or from
settings. -/
inductive Configured : ReconnectPolicy → Prop
  | exponential (initialDelay maxDelay : Interval) (maxAttempts : Nat) :
      Configured ((exponential initialDelay maxDelay).withMaxAttempts maxAttempts)
  | settings (r : Settings.Reconnect) : Configured r.policy

variable {policy : ReconnectPolicy} {i j : Nat}

theorem nanoseconds_delayFor (policy : ReconnectPolicy) (attempt : Nat) :
    (policy.delayFor attempt).nanoseconds =
      min (min (policy.initialDelay.nanoseconds * factor attempt) Interval.limit)
        policy.maxDelay.nanoseconds := by
  rw [delayFor, Interval.nanoseconds_shorter, Interval.nanoseconds_scale]

theorem one_le_factor (attempt : Nat) : 1 ≤ factor attempt := by
  have hpow : 1 ≤ Nat.pow 2 (min attempt 32) := Nat.one_le_two_pow
  have hlimit : 1 ≤ factorLimit := by decide
  exact Nat.le_min.mpr ⟨hpow, hlimit⟩

theorem factor_mono (h : i ≤ j) : factor i ≤ factor j := by
  have hexponent : min i 32 ≤ min j 32 := by omega
  have hpow : Nat.pow 2 (min i 32) ≤ Nat.pow 2 (min j 32) :=
    Nat.pow_le_pow_right (by decide) hexponent
  unfold factor
  omega

/-- Delays never get shorter from attempt to attempt. -/
theorem delayFor_mono (policy : ReconnectPolicy) (h : i ≤ j) :
    (policy.delayFor i).nanoseconds ≤ (policy.delayFor j).nanoseconds := by
  have hscaled := Nat.mul_le_mul_left policy.initialDelay.nanoseconds (factor_mono h)
  rw [nanoseconds_delayFor, nanoseconds_delayFor]
  omega

/-- The limit of a policy that was configured is not below its initial delay. -/
theorem Configured.initialDelay_le (h : policy.Configured) :
    policy.initialDelay.nanoseconds ≤ policy.maxDelay.nanoseconds := by
  have hlonger (a b : Interval) : a.nanoseconds ≤ (b.longer a).nanoseconds := by
    rw [Interval.nanoseconds_longer]
    exact Nat.le_max_right _ _
  cases h with
  | exponential initialDelay maxDelay => exact hlonger initialDelay maxDelay
  | settings r => exact hlonger (.ofMilliseconds r.initialDelay) (.ofMilliseconds r.maxDelay)

/-- The delays of a policy that was configured lie between its initial delay and its limit. -/
theorem Configured.delayFor_bounds (h : policy.Configured) (attempt : Nat) :
    policy.initialDelay.nanoseconds ≤ (policy.delayFor attempt).nanoseconds ∧
      (policy.delayFor attempt).nanoseconds ≤ policy.maxDelay.nanoseconds := by
  have hscaled : policy.initialDelay.nanoseconds * 1 ≤
      policy.initialDelay.nanoseconds * factor attempt :=
    Nat.mul_le_mul_left _ (one_le_factor attempt)
  have hinitial := h.initialDelay_le
  have hlimit := policy.initialDelay.le_limit
  rw [nanoseconds_delayFor]
  omega

/-! ### Doubling -/

theorem factor_eq (attempt : Nat) : factor attempt = min (2 ^ attempt) factorLimit := by
  unfold factor
  rcases Nat.lt_or_ge 32 attempt with hlt | hle
  · have hpow : 2 ^ 32 ≤ 2 ^ attempt := Nat.pow_le_pow_right (by decide) (Nat.le_of_lt hlt)
    rw [Nat.min_eq_right (Nat.le_of_lt hlt)]
    change min (2 ^ 32) (2 ^ 32 - 1) = min (2 ^ attempt) (2 ^ 32 - 1)
    omega
  · rw [Nat.min_eq_left hle]
    rfl

/-- The factor of an attempt is a power of two up to attempt 31, and the greatest one after that. -/
theorem factor_cases (attempt : Nat) :
    attempt < 32 ∧ factor attempt = 2 ^ attempt ∨
      32 ≤ attempt ∧ factor attempt = factorLimit ∧ factorLimit < 2 ^ attempt := by
  have hlimit : factorLimit = 2 ^ 32 - 1 := rfl
  rw [factor_eq]
  rcases Nat.lt_or_ge attempt 32 with hlt | hge
  · have hpow : 2 ^ attempt ≤ 2 ^ 31 := Nat.pow_le_pow_right (by decide) (by omega)
    exact .inl ⟨hlt, by omega⟩
  · have hpow : 2 ^ 32 ≤ 2 ^ attempt := Nat.pow_le_pow_right (by decide) hge
    exact .inr ⟨hge, by omega, by omega⟩

/-- **Doubling and its limits.** The delay before an attempt is the initial delay times a power of
two, up to the limit of the policy, with a power that stops at the greatest factor. So it is the
initial delay times the power of two itself, up to the limit of the policy, if and only if the
attempt is one of the first 32, or there is no initial delay, or the greatest factor reaches the
limit of the policy. -/
theorem delayFor_eq_power_iff (policy : ReconnectPolicy) (attempt : Nat) :
    (policy.delayFor attempt).nanoseconds =
        min (policy.initialDelay.nanoseconds * min (2 ^ attempt) factorLimit)
          policy.maxDelay.nanoseconds ∧
      ((policy.delayFor attempt).nanoseconds =
          min (policy.initialDelay.nanoseconds * 2 ^ attempt) policy.maxDelay.nanoseconds ↔
        attempt < 32 ∨ policy.initialDelay.nanoseconds = 0 ∨
          policy.maxDelay.nanoseconds ≤ policy.initialDelay.nanoseconds * factorLimit) := by
  have hdelay : (policy.delayFor attempt).nanoseconds =
      min (policy.initialDelay.nanoseconds * factor attempt) policy.maxDelay.nanoseconds := by
    have hlimit := policy.maxDelay.le_limit
    rw [nanoseconds_delayFor]
    omega
  refine ⟨by rw [hdelay, factor_eq], ?_⟩
  rw [hdelay]
  rcases factor_cases attempt with ⟨hlt, hfactor⟩ | ⟨hge, hfactor, hpow⟩
  · rw [hfactor]
    exact iff_of_true rfl (.inl hlt)
  · rw [hfactor]
    rcases Nat.eq_zero_or_pos policy.initialDelay.nanoseconds with hzero | hpos
    · simp [hzero]
    · have hless := Nat.mul_lt_mul_of_pos_left hpow hpos
      have hlate : ¬ attempt < 32 := Nat.not_lt.mpr hge
      generalize policy.initialDelay.nanoseconds * factorLimit = reached at hless ⊢
      generalize policy.initialDelay.nanoseconds * 2 ^ attempt = exact at hless ⊢
      omega

/-- The delay before attempt 32 is a millisecond short of the initial delay times the power of two,
and of the limit of the policy. -/
theorem delayFor_short_of_power :
    ∃ policy : ReconnectPolicy, policy.initialDelay = .ofMilliseconds 1 ∧
      policy.maxDelay = .ofMilliseconds 4294967296 ∧
      (policy.delayFor 32).nanoseconds = 4294967295000000 ∧
      min (policy.initialDelay.nanoseconds * 2 ^ 32) policy.maxDelay.nanoseconds =
        4294967296000000 := by
  let policy : ReconnectPolicy := ⟨true, .ofMilliseconds 1, .ofMilliseconds 4294967296, 0⟩
  exact ⟨policy, rfl, rfl, by decide +kernel, by decide +kernel⟩

end ReconnectPolicy

end FeedRelay
