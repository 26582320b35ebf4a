import Mathlib.Algebra.Group.Int.Defs
import PlatformSdk.Codec.Grpc.Traffic
import PlatformSdk.Machine.Attempt

/-!
# Points in time on the wire

The conversion of a `DateTime` to a `Timestamp` divides an unsigned number of
microseconds, and the one back multiplies signed numbers, which must not overflow.
Before the epoch the unsigned number is not the one that is meant.
-/

namespace Airmap.Codec.Grpc

open Machine (Attempt)

/-- The result of a signed operation of 64 bits; an overflow is undefined. -/
def signed64 (result : ℤ) : Attempt Int64 :=
  if -2 ^ 63 ≤ result ∧ result < 2 ^ 63 then .returns (.ofInt result) else .undefined

/-- `decode(Timestamp)`, one operation after the other. -/
def decodeTimestamp (timestamp : Timestamp) : Attempt DateTime := do
  let milliseconds ← signed64 (timestamp.seconds * 1000)
  let us ← signed64 (milliseconds.toInt * 1000)
  let us ← signed64 (us.toInt + timestamp.nanos.tdiv 1000)
  return ⟨us⟩

theorem signed64_of_lt {result : ℤ} (hlower : -2 ^ 63 ≤ result) (hupper : result < 2 ^ 63) :
    signed64 result = .returns (.ofInt result) := if_pos ⟨hlower, hupper⟩

/-- Without an overflow the operations come to what `decodeDateTime` says. -/
theorem decodeTimestamp_eq {timestamp : Timestamp}
    (hseconds : -2 ^ 63 ≤ timestamp.seconds * 1000 * 1000 ∧
      timestamp.seconds * 1000 * 1000 < 2 ^ 63)
    (hsum : -2 ^ 63 ≤ timestamp.seconds * 1000 * 1000 + timestamp.nanos.tdiv 1000 ∧
      timestamp.seconds * 1000 * 1000 + timestamp.nanos.tdiv 1000 < 2 ^ 63) :
    decodeTimestamp timestamp = .returns (decodeDateTime timestamp) := by
  have hlower : -2 ^ 63 ≤ timestamp.seconds * 1000 := by omega
  have hupper : timestamp.seconds * 1000 < 2 ^ 63 := by omega
  rw [decodeTimestamp, signed64_of_lt hlower hupper, Attempt.returns_bind,
    Int64.toInt_ofInt_of_le hlower hupper, signed64_of_lt hseconds.1 hseconds.2,
    Attempt.returns_bind, Int64.toInt_ofInt_of_le hseconds.1 hseconds.2,
    signed64_of_lt hsum.1 hsum.2, Attempt.returns_bind, decodeDateTime, Attempt.pure_eq]

/-- What is asked of the conversions: whole seconds, rounded down, the rest of a second
in nanoseconds, and the time back without an overflow. -/
structure Converts (dateTime : DateTime) : Prop where
  seconds : (encodeDateTime dateTime).seconds =
    dateTime.microseconds.toInt / (1000 * 1000)
  nanos : 0 ≤ (encodeDateTime dateTime).nanos ∧
    (encodeDateTime dateTime).nanos < 1000 * 1000 * 1000
  decode : decodeTimestamp (encodeDateTime dateTime) = .returns dateTime

/-- Before the epoch the seconds come from the number of microseconds modulo `2 ^ 64`. -/
theorem seconds_pos_of_neg {dateTime : DateTime}
    (h : dateTime.microseconds.toInt < 0) : 0 < (encodeDateTime dateTime).seconds := by
  have hlower : -2 ^ 63 ≤ dateTime.microseconds.toInt := dateTime.microseconds.le_toInt
  have hus : dateTime.microseconds.toInt % 2 ^ 64 = dateTime.microseconds.toInt + 2 ^ 64 := by
    omega
  have hseconds : (encodeDateTime dateTime).seconds =
      (dateTime.microseconds.toInt + 2 ^ 64) / (1000 * 1000) := by
    simp only [encodeDateTime, hus]
    apply Int.bmod_eq_of_le
    · omega
    · omega
  omega

/-- A point in time is converted as it should be just when it is not before the epoch. -/
theorem converts_iff (dateTime : DateTime) :
    Converts dateTime ↔ 0 ≤ dateTime.microseconds.toInt := by
  constructor
  · intro hconverts
    by_contra hbefore
    have hpos := seconds_pos_of_neg (Int.lt_of_not_ge hbefore)
    rw [hconverts.seconds] at hpos
    omega
  · intro h
    have hupper : dateTime.microseconds.toInt < 2 ^ 63 := dateTime.microseconds.toInt_lt
    have hseconds := seconds_encodeDateTime h
    have hnanos := nanos_encodeDateTime h
    have htdiv : (encodeDateTime dateTime).nanos.tdiv 1000 =
        dateTime.microseconds.toInt % (1000 * 1000) := by
      rw [hnanos, Int.mul_tdiv_cancel_left _ (by decide)]
    refine ⟨hseconds, ?_, ?_⟩
    · rw [hnanos]
      omega
    · rw [decodeTimestamp_eq, decodeDateTime_encodeDateTime h]
      · rw [hseconds]
        omega
      · rw [hseconds, htdiv]
        omega

/-- The last microsecond before the epoch. -/
def beforeEpoch : DateTime := ⟨-1⟩

/-- It becomes a time in the distant future, which cannot be converted back. -/
theorem beforeEpoch_not_converts :
    (encodeDateTime beforeEpoch).seconds = 18446744073709 ∧
      decodeTimestamp (encodeDateTime beforeEpoch) = .undefined ∧
      ¬ Converts beforeEpoch := by
  refine ⟨by decide, by decide, fun hconverts => ?_⟩
  exact absurd hconverts.seconds (by decide)

end Airmap.Codec.Grpc
