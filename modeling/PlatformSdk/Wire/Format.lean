import Mathlib.Algebra.Group.Nat.Defs
import Mathlib.Data.List.Induction

/-!
# Formats of bytes

Numbers in base 256, and formats put together from fields.  A format can always
write a value; it carries with it which values are read back, whatever the bytes
that follow (`Format.Readable`), and that nothing else is read
(`Format.read_eq_some_iff`).
-/

namespace Wire

abbrev Bytes := List UInt8

/-! ## Numbers -/

/-- The last `width` digits of a number in base 256, the highest first. -/
def digits : ℕ → ℕ → Bytes
  | 0, _ => []
  | width + 1, n => digits width (n / 256) ++ [UInt8.ofNat n]

/-- The number with these digits. -/
def number (bytes : Bytes) : ℕ :=
  bytes.foldl (fun n byte => 256 * n + byte.toNat) 0

@[simp] theorem length_digits (width n : ℕ) : (digits width n).length = width := by
  induction width generalizing n with
  | zero => rfl
  | succ width ih => simp [digits, ih]

theorem number_append_singleton (bytes : Bytes) (byte : UInt8) :
    number (bytes ++ [byte]) = 256 * number bytes + byte.toNat := by
  simp [number]

/-- The digits that are kept determine the number up to those that are not. -/
theorem number_digits (width n : ℕ) : number (digits width n) = n % 256 ^ width := by
  induction width generalizing n with
  | zero => simp [digits, number, Nat.mod_one]
  | succ width ih =>
      rw [digits, number_append_singleton, ih, Nat.pow_succ', Nat.mod_mul]
      simp [Nat.add_comm]

theorem digits_number (bytes : Bytes) : digits bytes.length (number bytes) = bytes := by
  induction bytes using List.reverseRecOn with
  | nil => rfl
  | append_singleton bytes byte ih =>
      have hbyte : byte.toNat < 256 := byte.toNat_lt
      have hhigher : (256 * number bytes + byte.toNat) / 256 = number bytes := by
        omega
      have hlast : UInt8.ofNat (256 * number bytes + byte.toNat) = byte := by
        apply UInt8.toNat_inj.mp
        simp
      rw [List.length_append, List.length_singleton, number_append_singleton, digits,
        hhigher, hlast, ih]

theorem number_lt (bytes : Bytes) : number bytes < 256 ^ bytes.length := by
  have hmod := number_digits bytes.length (number bytes)
  rw [digits_number] at hmod
  rw [hmod]
  exact Nat.mod_lt _ (Nat.pow_pos (by decide))

/-- The order in which a host keeps the bytes of a number. -/
inductive ByteOrder where
  | bigEndian
  | littleEndian
  deriving DecidableEq

namespace ByteOrder

/-- The bytes of a number of this width in the memory of the host. -/
def memory (order : ByteOrder) (width n : ℕ) : Bytes :=
  match order with
  | .bigEndian => digits width n
  | .littleEndian => (digits width n).reverse

/-- The number whose bytes in memory are in the order of the network: `htons` for
two bytes, `htonl` for four. -/
def toNetwork (order : ByteOrder) (width n : ℕ) : ℕ :=
  match order with
  | .bigEndian => n
  | .littleEndian => number (digits width n).reverse

/-- What `toNetwork` is for: the bytes do not depend on the host. -/
theorem memory_toNetwork (order : ByteOrder) (width n : ℕ) :
    order.memory width (order.toNetwork width n) = digits width n := by
  cases order with
  | bigEndian => rfl
  | littleEndian =>
      have hreverse := digits_number (digits width n).reverse
      rw [List.length_reverse, length_digits] at hreverse
      rw [memory, toNetwork, hreverse, List.reverse_reverse]

/-- A single byte is the same on every host. -/
theorem memory_one (order : ByteOrder) (n : ℕ) : order.memory 1 n = digits 1 n := by
  cases order with
  | bigEndian => rfl
  | littleEndian => rfl

end ByteOrder

/-! ## Formats -/

/-- The first `n` bytes, if there are so many, and those after them. -/
def take (n : ℕ) (bytes : Bytes) : Option (Bytes × Bytes) :=
  if n ≤ bytes.length then some (bytes.take n, bytes.drop n) else none

theorem take_eq_some_iff {n : ℕ} {bytes first rest : Bytes} :
    take n bytes = some (first, rest) ↔ first.length = n ∧ bytes = first ++ rest := by
  constructor
  · intro h
    rw [take] at h
    split at h
    · next hlength =>
        cases h
        exact ⟨List.length_take_of_le hlength, (List.take_append_drop n bytes).symm⟩
    · cases h
  · rintro ⟨rfl, rfl⟩
    simp [take]

/-- How values are written, and read from the front of some bytes. -/
structure Format (α : Type*) where
  write : α → Bytes
  read : Bytes → Option (α × Bytes)
  Readable : α → Prop
  read_eq_some_iff : ∀ {bytes value rest},
    read bytes = some (value, rest) ↔ Readable value ∧ bytes = write value ++ rest

namespace Format

variable {α β : Type*}

/-- A number of a fixed width, in the order of the network. -/
def numeral (width : ℕ) : Format ℕ where
  write := digits width
  read bytes := (take width bytes).map fun (first, rest) => (number first, rest)
  Readable n := n < 256 ^ width
  read_eq_some_iff := by
    intro bytes n rest
    simp only [Option.map_eq_some_iff, Prod.exists, Prod.mk.injEq, take_eq_some_iff]
    constructor
    · rintro ⟨first, rest, ⟨rfl, rfl⟩, rfl, rfl⟩
      exact ⟨number_lt first, by rw [digits_number]⟩
    · rintro ⟨hn, rfl⟩
      refine ⟨digits width n, rest, ⟨length_digits width n, rfl⟩, ?_, rfl⟩
      rw [number_digits, Nat.mod_eq_of_lt hn]

/-- So many bytes. -/
def fixed (length : ℕ) : Format Bytes where
  write bytes := bytes
  read := take length
  Readable bytes := bytes.length = length
  read_eq_some_iff := take_eq_some_iff

/-- Bytes after their number, which has a fixed width. -/
def sized (width : ℕ) : Format Bytes where
  write value := digits width value.length ++ value
  read bytes :=
    ((numeral width).read bytes).bind fun (length, bytes) => take length bytes
  Readable value := value.length < 256 ^ width
  read_eq_some_iff := by
    intro bytes value rest
    simp only [Option.bind_eq_some_iff, Prod.exists,
      (numeral width).read_eq_some_iff, take_eq_some_iff]
    constructor
    · rintro ⟨_, _, ⟨hlength, rfl⟩, rfl, rfl⟩
      exact ⟨hlength, (List.append_assoc ..).symm⟩
    · rintro ⟨hlength, rfl⟩
      exact ⟨value.length, value ++ rest, ⟨hlength, List.append_assoc ..⟩, rfl, rfl⟩

/-- One field after the other. -/
def seq (format : Format α) (format' : Format β) : Format (α × β) where
  write value := format.write value.1 ++ format'.write value.2
  read bytes :=
    (format.read bytes).bind fun (first, bytes) =>
      (format'.read bytes).map fun (second, bytes) => ((first, second), bytes)
  Readable value := format.Readable value.1 ∧ format'.Readable value.2
  read_eq_some_iff := by
    intro bytes value rest
    simp only [Option.bind_eq_some_iff, Option.map_eq_some_iff, Prod.exists,
      format.read_eq_some_iff, format'.read_eq_some_iff, Prod.mk.injEq]
    constructor
    · rintro ⟨first, _, ⟨hfirst, rfl⟩, second, _, ⟨hsecond, rfl⟩, rfl, rfl⟩
      exact ⟨⟨hfirst, hsecond⟩, (List.append_assoc ..).symm⟩
    · rintro ⟨⟨hfirst, hsecond⟩, rfl⟩
      exact ⟨value.1, format'.write value.2 ++ rest, ⟨hfirst, List.append_assoc ..⟩,
        value.2, rest, ⟨hsecond, rfl⟩, rfl, rfl⟩

/-! ### Any number of values -/

/-- One value after the other. -/
def writeAll (format : Format α) (values : List α) : Bytes := values.flatMap format.write

/-- The values that make up some bytes, if there are not more than `fuel`. -/
def readMany (format : Format α) : ℕ → Bytes → Option (List α)
  | _, [] => some []
  | 0, _ :: _ => none
  | fuel + 1, byte :: bytes =>
      (format.read (byte :: bytes)).bind fun (value, rest) =>
        (format.readMany fuel rest).map (value :: ·)

/-- The values that make up some bytes; each of them has a byte at least. -/
def readAll (format : Format α) (bytes : Bytes) : Option (List α) :=
  format.readMany bytes.length bytes

@[simp] theorem writeAll_cons (format : Format α) (value : α) (values : List α) :
    format.writeAll (value :: values) = format.write value ++ format.writeAll values := rfl

variable {format : Format α}

theorem of_readMany {fuel : ℕ} {bytes : Bytes} {values : List α}
    (h : format.readMany fuel bytes = some values) :
    (∀ value ∈ values, format.Readable value) ∧ bytes = format.writeAll values := by
  induction fuel generalizing bytes values with
  | zero =>
      cases bytes with
      | nil =>
          cases h
          exact ⟨by simp, rfl⟩
      | cons byte bytes => cases h
  | succ fuel ih =>
      cases bytes with
      | nil =>
          cases h
          exact ⟨by simp, rfl⟩
      | cons byte bytes =>
          simp only [readMany, Option.bind_eq_some_iff, Option.map_eq_some_iff,
            Prod.exists] at h
          obtain ⟨value, rest, hread, values, hmany, rfl⟩ := h
          obtain ⟨hreadable, heq⟩ := format.read_eq_some_iff.mp hread
          obtain ⟨hvalues, rfl⟩ := ih hmany
          exact ⟨List.forall_mem_cons.mpr ⟨hreadable, hvalues⟩, heq⟩

theorem readMany_writeAll (hwrite : ∀ value, format.write value ≠ []) {values : List α}
    (h : ∀ value ∈ values, format.Readable value) {fuel : ℕ}
    (hfuel : (format.writeAll values).length ≤ fuel) :
    format.readMany fuel (format.writeAll values) = some values := by
  induction values generalizing fuel with
  | nil => cases fuel <;> rfl
  | cons value values ih =>
      obtain ⟨hvalue, hvalues⟩ := List.forall_mem_cons.mp h
      obtain ⟨byte, bytes, hfirst⟩ := List.exists_cons_of_ne_nil (hwrite value)
      have hread : format.read (format.write value ++ format.writeAll values) =
          some (value, format.writeAll values) :=
        format.read_eq_some_iff.mpr ⟨hvalue, rfl⟩
      rw [writeAll_cons, hfirst, List.cons_append, List.length_cons,
        List.length_append] at hfuel
      rw [hfirst, List.cons_append] at hread
      cases fuel with
      | zero => omega
      | succ fuel =>
          have hrest : format.readMany fuel (format.writeAll values) = some values :=
            ih hvalues (by omega)
          rw [writeAll_cons, hfirst, List.cons_append, readMany, hread]
          simp [hrest]

/-- Where no value is written as nothing, values are read from the bytes written for
them and from no others. -/
theorem readAll_eq_some_iff (hwrite : ∀ value, format.write value ≠ []) {bytes : Bytes}
    {values : List α} :
    format.readAll bytes = some values ↔
      (∀ value ∈ values, format.Readable value) ∧ bytes = format.writeAll values := by
  constructor
  · exact of_readMany
  · rintro ⟨h, rfl⟩
    exact readMany_writeAll hwrite h (Nat.le_refl _)

end Format
end Wire
