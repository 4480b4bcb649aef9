import FrameTap.Surroundings
import Mathlib.Tactic.Ring

set_option autoImplicit false

namespace FrameTap

def Nanoseconds.wholeSeconds (time : Nanoseconds) : Nat := time / perSecond

namespace WallTime

open Nanoseconds

-- As a clock shows it that has passed its epoch.
structure Proper (time : WallTime) : Prop where
  seconds : 0 ≤ time.seconds.toInt
  nanoseconds : time.nanoseconds < perSecond

structure Due (now : WallTime) (timeout : Nanoseconds) (deadline : WallTime) : Prop where
  exact : (now.toNanoseconds + timeout) / perSecond ≤ Int64.maxValue.toInt →
    deadline.toNanoseconds = now.toNanoseconds + timeout
  saturated : Int64.maxValue.toInt < (now.toNanoseconds + timeout) / perSecond →
    deadline.seconds = Int64.maxValue

@[simp] theorem toInt_saturatingAdd (a b : Int64) :
    (saturatingAdd a b).toInt = max (-2 ^ 63) (min (a.toInt + b.toInt) (2 ^ 63 - 1)) := by
  rw [saturatingAdd, Int64.toInt_maxValue, Int64.toInt_minValue]
  split
  · rw [Int64.toInt_maxValue]
    omega
  · split
    · rw [Int64.toInt_minValue]
      omega
    · rw [Int64.toInt_ofInt_of_le (by omega) (by omega)]
      omega

theorem toInt_toInt64_of_low {seconds : Nat} (low : seconds < 2 ^ 63) :
    (UInt64.ofNat seconds).toInt64.toInt = seconds := by
  rw [UInt64.toInt64_ofNat', Int64.toInt_ofNat_of_lt low]

-- The upper half of the unsigned numbers is read as the negative ones.
theorem toInt_toInt64_of_high {seconds : Nat} (high : 2 ^ 63 ≤ seconds) (word : seconds < 2 ^ 64) :
    (UInt64.ofNat seconds).toInt64.toInt = seconds - 2 ^ 64 := by
  rw [UInt64.toInt64_ofNat', Int64.toInt_ofNat', Int.bmod_def, Int64.size]
  omega

def carry (now : WallTime) (timeout : Nanoseconds) : Nat :=
  (now.nanoseconds + timeout % perSecond) / perSecond

section Deadline

variable {now : WallTime} {timeout : Nanoseconds}

theorem nanoseconds_deadlineAfter_lt : (now.deadlineAfter timeout).nanoseconds < perSecond :=
  Nat.mod_lt _ (by decide)

theorem add_timeout_eq : now.toNanoseconds + timeout =
    (timeout.wholeSeconds + now.seconds.toInt + now.carry timeout) * perSecond +
      (now.deadlineAfter timeout).nanoseconds := by
  simp only [toNanoseconds, deadlineAfter, carry, wholeSeconds, perSecond]
  omega

theorem add_timeout_seconds : (now.toNanoseconds + timeout) / perSecond =
    timeout.wholeSeconds + now.seconds.toInt + now.carry timeout := by
  have part : (now.deadlineAfter timeout).nanoseconds < perSecond := nanoseconds_deadlineAfter_lt
  rw [add_timeout_eq]
  simp only [perSecond] at part ⊢
  omega

variable (proper : now.Proper)

include proper

theorem carry_le_one : now.carry timeout ≤ 1 := by
  have below := proper.nanoseconds
  simp only [carry, perSecond] at below ⊢
  omega

theorem seconds_deadlineAfter : (now.deadlineAfter timeout).seconds.toInt =
    min ((UInt64.ofNat timeout.wholeSeconds).toInt64.toInt + now.seconds.toInt +
      now.carry timeout) (2 ^ 63 - 1) := by
  have one : now.carry timeout ≤ 1 := carry_le_one proper
  have small : (Int64.ofNat (now.carry timeout)).toInt = now.carry timeout :=
    Int64.toInt_ofNat_of_lt (by omega)
  have epoch := proper.seconds
  have bottom := (UInt64.ofNat timeout.wholeSeconds).toInt64.le_toInt
  change (saturatingAdd (saturatingAdd (UInt64.ofNat timeout.wholeSeconds).toInt64 now.seconds)
    (Int64.ofNat (now.carry timeout))).toInt = _
  rw [toInt_saturatingAdd, toInt_saturatingAdd, small]
  omega

theorem seconds_of_low (low : timeout.wholeSeconds < 2 ^ 63) :
    (now.deadlineAfter timeout).seconds.toInt =
      min (timeout.wholeSeconds + now.seconds.toInt + now.carry timeout) (2 ^ 63 - 1) := by
  rw [seconds_deadlineAfter proper, toInt_toInt64_of_low low]

theorem seconds_of_high (high : 2 ^ 63 ≤ timeout.wholeSeconds)
    (word : timeout.wholeSeconds < 2 ^ 64) :
    (now.deadlineAfter timeout).seconds.toInt =
      timeout.wholeSeconds + now.seconds.toInt + now.carry timeout - 2 ^ 64 := by
  have one : now.carry timeout ≤ 1 := carry_le_one proper
  have top := now.seconds.toInt_lt
  rw [seconds_deadlineAfter proper, toInt_toInt64_of_high high word]
  omega

theorem due_of_low (low : timeout.wholeSeconds < 2 ^ 63) :
    Due now timeout (now.deadlineAfter timeout) := by
  have seconds := seconds_of_low proper low
  rw [← add_timeout_seconds] at seconds
  constructor
  case exact =>
    intro fits
    rw [Int64.toInt_maxValue] at fits
    rw [Int.min_eq_left fits, add_timeout_seconds] at seconds
    rw [add_timeout_eq, toNanoseconds, seconds]
  case saturated =>
    intro beyond
    rw [Int64.toInt_maxValue] at beyond
    rw [Int.min_eq_right (Int.le_of_lt beyond)] at seconds
    exact Int64.toInt_inj.mp (seconds.trans Int64.toInt_maxValue.symm)

theorem toNanoseconds_of_high (high : 2 ^ 63 ≤ timeout.wholeSeconds)
    (word : timeout.wholeSeconds < 2 ^ 64) :
    (now.deadlineAfter timeout).toNanoseconds =
      now.toNanoseconds + timeout - 2 ^ 64 * perSecond := by
  rw [add_timeout_eq, toNanoseconds, seconds_of_high proper high word]
  ring

theorem passed_of_high (high : 2 ^ 63 ≤ timeout.wholeSeconds)
    (word : timeout.wholeSeconds < 2 ^ 64) :
    (now.deadlineAfter timeout).toNanoseconds < now.toNanoseconds := by
  rw [toNanoseconds_of_high proper high word]
  simp only [wholeSeconds, perSecond] at word ⊢
  omega

-- Part of a second is lost only where there is no second left to carry it to.
theorem le_deadlineAfter_iff_of_low (low : timeout.wholeSeconds < 2 ^ 63) :
    now.toNanoseconds ≤ (now.deadlineAfter timeout).toNanoseconds ↔
      (now.seconds = Int64.maxValue → now.carry timeout = 0) := by
  have seconds := seconds_of_low proper low
  have last : now.seconds = Int64.maxValue ↔ now.seconds.toInt = 2 ^ 63 - 1 := by
    rw [← Int64.toInt_maxValue, Int64.toInt_inj]
  have top := now.seconds.toInt_lt
  have below := proper.nanoseconds
  rw [last, toNanoseconds, toNanoseconds, seconds]
  simp only [carry, deadlineAfter, perSecond] at below ⊢
  omega

end Deadline

/-- A timeout below `2 ^ 63` seconds gets the deadline that it is due, and any other one `2 ^ 64`
seconds earlier, which has passed already. -/
theorem deadlineAfter_exact (now : WallTime) (timeout : Nanoseconds) (proper : now.Proper)
    (word : timeout.wholeSeconds < 2 ^ 64) :
    (now.deadlineAfter timeout).nanoseconds < perSecond ∧
      (timeout.wholeSeconds < 2 ^ 63 → Due now timeout (now.deadlineAfter timeout)) ∧
      (2 ^ 63 ≤ timeout.wholeSeconds → (now.deadlineAfter timeout).toNanoseconds =
        now.toNanoseconds + timeout - 2 ^ 64 * perSecond) ∧
      (now.toNanoseconds ≤ (now.deadlineAfter timeout).toNanoseconds ↔
        timeout.wholeSeconds < 2 ^ 63 ∧
          (now.seconds = Int64.maxValue → now.carry timeout = 0)) := by
  refine ⟨nanoseconds_deadlineAfter_lt, due_of_low proper,
    fun high => toNanoseconds_of_high proper high word, ?_⟩
  rcases Nat.lt_or_ge timeout.wholeSeconds (2 ^ 63) with low | high
  · rw [le_deadlineAfter_iff_of_low proper low, and_iff_right low]
  · have passed := passed_of_high proper high word
    exact iff_of_false (Int.not_le.mpr passed) fun within => Nat.not_lt.mpr high within.1

example : ((WallTime.mk 1700000000 999999999).deadlineAfter (2 ^ 63 * perSecond)).seconds =
    -9223372035154775808 := by
  decide +kernel

end WallTime

end FrameTap
