import Mathlib.Data.Nat.Notation
import PlatformSdk.Machine.Attempt

/-!
# Buffers

Reads and writes by position and size.  What lies outside of a buffer is no one's:
an access that is not within it is undefined.
-/

namespace Machine.Buffer

variable {β : Type}

/-- The first `n` places of a buffer. -/
def read (buffer : List β) (n : ℕ) : Attempt (List β) :=
  if n ≤ buffer.length then .returns (buffer.take n) else .undefined

/-- The buffer after these values were written at a position. -/
def write (buffer : List β) (position : ℕ) (values : List β) : Attempt (List β) :=
  if position + values.length ≤ buffer.length then
    .returns (buffer.take position ++ values ++ buffer.drop (position + values.length))
  else .undefined

theorem read_of_le {buffer : List β} {n : ℕ} (h : n ≤ buffer.length) :
    read buffer n = .returns (buffer.take n) := if_pos h

theorem read_of_lt {buffer : List β} {n : ℕ} (h : buffer.length < n) :
    read buffer n = .undefined := if_neg (Nat.not_le.mpr h)

/-- A write within a buffer keeps its size. -/
theorem exists_write {buffer : List β} {position : ℕ} {values : List β}
    (h : position + values.length ≤ buffer.length) :
    ∃ buffer', write buffer position values = .returns buffer' ∧
      buffer'.length = buffer.length := by
  refine ⟨_, if_pos h, ?_⟩
  simp only [List.length_append, List.length_take, List.length_drop]
  omega

end Machine.Buffer
