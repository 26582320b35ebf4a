import Mathlib.Data.List.Induction
import Mathlib.Order.Bounds.Basic
import PlatformSdk.Machine.Vec
import PlatformSdk.Wire.Separated

/-!
# Tables in columns

`TabWriter` keeps the widths of the columns while cells are written, with an iterator to
the width of the column that is next, and pads the cells to the widths when it is flushed.
-/

namespace Airmap.Util.Cli

open Machine (Attempt Iterator Vec)

/-- The bytes of a text. -/
abbrev Text := List UInt8

/-- `TabWriter`. -/
structure TabWriter where
  fill : UInt8 := ' '.toUInt8
  columnSeparator : UInt8 := ' '.toUInt8
  columnWidth : Vec ℕ := ⟨0, []⟩
  currentColumn : Iterator := columnWidth.past
  table : List (List Text) := [[]]

namespace TabWriter

/-- The first statement of `write`: a column is added where the iterator is at the end. -/
def reserveColumn (w : TabWriter) : Attempt TabWriter := do
  if ← w.columnWidth.isPast w.currentColumn then
    let columnWidth := w.columnWidth.emplaceBack (w.columnWidth.storage + 1) 0
    let currentColumn ← columnWidth.advance columnWidth.past (-1)
    return { w with columnWidth, currentColumn }
  else
    return w

/-- `table_.back().push_back(cell)`. -/
def pushBack (cell : Text) (table : List (List Text)) : Attempt (List (List Text)) :=
  match table.getLast? with
  | none => .undefined
  | some row => .returns (table.dropLast ++ [row ++ [cell]])

/-- `write`. -/
def write (cell : Text) (w : TabWriter) : Attempt TabWriter := do
  let w ← w.reserveColumn
  let width ← w.columnWidth.read w.currentColumn
  let columnWidth ← w.columnWidth.write w.currentColumn (max width cell.length)
  let table ← pushBack cell w.table
  let currentColumn ← columnWidth.advance w.currentColumn 1
  return { w with columnWidth, table, currentColumn }

/-- `new_line`. -/
def newLine (w : TabWriter) : TabWriter :=
  { w with table := w.table ++ [[]], currentColumn := w.columnWidth.first }

/-- What a stream makes of a cell on the left of a field: `std::setw` is given the width
as an `int`. -/
def padded (fill : UInt8) (width : ℕ) (cell : Text) : Text :=
  cell ++ List.replicate ((Int32.ofNat width).toInt - cell.length).toNat fill

/-- The inner loop of `flush`, from the cell with an index on. -/
def flushCells (w : TabWriter) : ℕ → List Text → Attempt Text
  | _, [] => .returns []
  | j, cell :: cells => do
      let width ← w.columnWidth.get j
      let rest ← w.flushCells (j + 1) cells
      return (if j = 0 then [] else [w.columnSeparator]) ++ padded w.fill width cell ++ rest

/-- The outer loop of `flush`, from the row with an index on. -/
def flushRows (w : TabWriter) : ℕ → List (List Text) → Attempt Text
  | _, [] => .returns []
  | i, row :: rows => do
      let line ← w.flushCells 0 row
      let rest ← w.flushRows (i + 1) rows
      return (if i = 0 then [] else ['\n'.toUInt8]) ++ line ++ rest

/-- What `flush` writes to a stream whose next field has no width yet. -/
def flush (w : TabWriter) : Attempt Text := w.flushRows 0 w.table

/-- The calls that fill a table. -/
inductive Call where
  | write (cell : Text)
  | newLine

def call (w : TabWriter) : Call → Attempt TabWriter
  | .write cell => w.write cell
  | .newLine => .returns w.newLine

/-- The calls one after the other, on a table with nothing in it. -/
def run (fill columnSeparator : UInt8) (calls : List Call) : Attempt TabWriter :=
  calls.foldlM call { fill, columnSeparator }

/-! ## What was written -/

/-- The rows of the table, as they follow from the calls alone. -/
def rows : List Call → List (List Text)
  | [] => [[]]
  | .newLine :: calls => [] :: rows calls
  | .write cell :: calls => (rows calls).modifyHead (cell :: ·)

/-- The sizes of the cells in a column. -/
def sizes (table : List (List Text)) (j : ℕ) : Set ℕ :=
  {size | ∃ row ∈ table, ∃ cell, row[j]? = some cell ∧ cell.length = size}

/-- The lengths of the rows. -/
def lengths (table : List (List Text)) : Set ℕ :=
  {length | ∃ row ∈ table, row.length = length}

/-- The table has the rows, the widths are the greatest sizes of the cells in a column, of
which there are as many as the longest row has cells, and the iterator is at the place of
the next cell. -/
structure Describes (w : TabWriter) (written : List (List Text)) : Prop where
  table : w.table = written
  width : ∀ j width, w.columnWidth.elements[j]? = some width →
    IsGreatest (sizes written j) width
  columns : IsGreatest (lengths written) w.columnWidth.elements.length
  current : ∃ row, written.getLast? = some row ∧ row.length ≤ w.columnWidth.elements.length ∧
    w.currentColumn = w.columnWidth.iteratorAt row.length

theorem rows_append (calls : List Call) : ∃ before row,
    rows calls = before ++ [row] ∧
      (∀ cell, rows (calls ++ [.write cell]) = before ++ [row ++ [cell]]) ∧
      rows (calls ++ [.newLine]) = before ++ [row, []] := by
  induction calls with
  | nil => exact ⟨[], [], rfl, fun _ => rfl, rfl⟩
  | cons call calls ih =>
      obtain ⟨before, row, hrows, hwrite, hnewLine⟩ := ih
      cases call with
      | newLine =>
          refine ⟨[] :: before, row, ?_, fun cell => ?_, ?_⟩
          · simp [rows, hrows]
          · simp [rows, hwrite]
          · simp [rows, hnewLine]
      | write first =>
          cases before with
          | nil =>
              refine ⟨[], first :: row, ?_, fun cell => ?_, ?_⟩
              · simp [rows, hrows]
              · simp [rows, hwrite]
              · simp [rows, hnewLine]
          | cons top before =>
              refine ⟨(first :: top) :: before, row, ?_, fun cell => ?_, ?_⟩
              · simp [rows, hrows]
              · simp [rows, hwrite]
              · simp [rows, hnewLine]

/-! ## What a call does -/

/-- The widths after a cell of a size was written to a column. -/
def widen (widths : List ℕ) (j size : ℕ) : List ℕ :=
  (if j = widths.length then widths ++ [0] else widths).modify j (max · size)

theorem length_widen {widths : List ℕ} {j : ℕ} (h : j ≤ widths.length) (size : ℕ) :
    (widen widths j size).length = max widths.length (j + 1) := by
  rw [widen, List.length_modify]
  split
  · simp [*]
  · omega

theorem getElem?_widen_of_ne (widths : List ℕ) {i j : ℕ} (hne : i ≠ j) (size : ℕ) :
    (widen widths j size)[i]? = widths[i]? := by
  rw [widen, List.getElem?_modify_ne _ _ (Ne.symm hne)]
  split
  · rcases Nat.lt_or_ge i widths.length with hlt | hge
    · exact List.getElem?_append_left hlt
    · rw [List.getElem?_eq_none hge, List.getElem?_eq_none]
      simp only [List.length_append, List.length_singleton]
      omega
  · rfl

theorem getElem?_widen_self {widths : List ℕ} {j : ℕ} (h : j ≤ widths.length) (size : ℕ) :
    (widen widths j size)[j]? = some (max (widths[j]?.getD 0) size) := by
  rw [widen, List.getElem?_modify_eq]
  split
  · subst j
    simp
  · have hlt : j < widths.length := by omega
    simp [List.getElem?_eq_getElem hlt]

variable {w : TabWriter} {before : List (List Text)} {row : List Text}

theorem Describes.reserveColumn (h : w.Describes (before ++ [row])) :
    ∃ columnWidth, w.reserveColumn = .returns
        { w with columnWidth, currentColumn := columnWidth.iteratorAt row.length } ∧
      row.length < columnWidth.elements.length ∧
      columnWidth.elements = if row.length = w.columnWidth.elements.length then
        w.columnWidth.elements ++ [0] else w.columnWidth.elements := by
  obtain ⟨row', hlast, hle, hcurrent⟩ := h.current
  obtain rfl : row = row' := by simpa using hlast
  rw [TabWriter.reserveColumn, hcurrent, Vec.isPast_iteratorAt hle, Attempt.returns_bind]
  by_cases hpast : row.length = w.columnWidth.elements.length
  · refine ⟨w.columnWidth.emplaceBack (w.columnWidth.storage + 1) 0, ?_, ?_, ?_⟩
    · have hlength := Vec.length_emplaceBack (v := w.columnWidth) (w.columnWidth.storage + 1) 0
      have hadvance : (w.columnWidth.emplaceBack (w.columnWidth.storage + 1) 0).advance
          (w.columnWidth.emplaceBack (w.columnWidth.storage + 1) 0).past (-1) =
            .returns (Vec.iteratorAt _ row.length) :=
        Vec.advance_iteratorAt le_rfl (by omega) (by omega)
      rw [decide_eq_true hpast, if_pos rfl]
      dsimp only
      rw [hadvance]
      rfl
    · simp [hpast]
    · simp [Vec.emplaceBack, hpast]
  · refine ⟨w.columnWidth, ?_, by omega, by simp [hpast]⟩
    rw [decide_eq_false hpast, if_neg Bool.false_ne_true, ← hcurrent]
    rfl

/-- A cell is written to the last row, and its column is widened. -/
theorem Describes.write_eq (h : w.Describes (before ++ [row])) (cell : Text) :
    ∃ columnWidth, w.write cell = .returns
        { w with
          columnWidth
          currentColumn := columnWidth.iteratorAt (row.length + 1)
          table := before ++ [row ++ [cell]] } ∧
      columnWidth.elements = widen w.columnWidth.elements row.length cell.length := by
  obtain ⟨columnWidth, hreserve, hlt, helements⟩ := h.reserveColumn
  have hpush : pushBack cell w.table = .returns (before ++ [row ++ [cell]]) := by
    simp [pushBack, h.table]
  have hwiden : columnWidth.elements.set row.length
      (max columnWidth.elements[row.length] cell.length) =
        widen w.columnWidth.elements row.length cell.length := by
    rw [widen, ← helements]
    refine List.ext_getElem? fun i => ?_
    rw [List.getElem?_set, List.getElem?_modify]
    by_cases hi : row.length = i
    · subst hi
      simp [hlt]
    · simp [hi]
  have hadvance : (Vec.mk columnWidth.storage
      (widen w.columnWidth.elements row.length cell.length)).advance
        (columnWidth.iteratorAt row.length) 1 =
          .returns (Vec.iteratorAt (Vec.mk columnWidth.storage
            (widen w.columnWidth.elements row.length cell.length)) (row.length + 1)) := by
    have hlength : row.length + 1 ≤
        (widen w.columnWidth.elements row.length cell.length).length := by
      rw [← hwiden, List.length_set]
      exact hlt
    exact Vec.advance_iteratorAt (Nat.le_of_succ_le hlength) rfl hlength
  refine ⟨⟨columnWidth.storage, widen w.columnWidth.elements row.length cell.length⟩, ?_, rfl⟩
  rw [write, hreserve, Attempt.returns_bind]
  dsimp only
  rw [Vec.read_iteratorAt hlt, Attempt.returns_bind, Vec.write_iteratorAt hlt,
    Attempt.returns_bind, hpush, Attempt.returns_bind, hwiden, hadvance]
  rfl

theorem mem_sizes_append {j size : ℕ} : size ∈ sizes (before ++ [row]) j ↔
    size ∈ sizes before j ∨ ∃ cell, row[j]? = some cell ∧ cell.length = size := by
  simp only [sizes, Set.mem_ofPred_eq, List.mem_append, List.mem_singleton]
  constructor
  · rintro ⟨row', hmem | rfl, hcell⟩
    · exact Or.inl ⟨row', hmem, hcell⟩
    · exact Or.inr hcell
  · rintro (⟨row', hmem, hcell⟩ | hcell)
    · exact ⟨row', Or.inl hmem, hcell⟩
    · exact ⟨row, Or.inr rfl, hcell⟩

theorem lengths_append : lengths (before ++ [row]) = insert row.length (lengths before) := by
  ext length
  simp only [lengths, Set.mem_ofPred_eq, Set.mem_insert_iff, List.mem_append,
    List.mem_singleton]
  constructor
  · rintro ⟨row', hmem | rfl, hlength⟩
    · exact Or.inr ⟨row', hmem, hlength⟩
    · exact Or.inl hlength.symm
  · rintro (rfl | ⟨row', hmem, hlength⟩)
    · exact ⟨row, Or.inr rfl, rfl⟩
    · exact ⟨row', Or.inl hmem, hlength⟩

theorem sizes_write_self (cell : Text) :
    sizes (before ++ [row ++ [cell]]) row.length =
      insert cell.length (sizes (before ++ [row]) row.length) := by
  ext size
  rw [Set.mem_insert_iff, mem_sizes_append, mem_sizes_append]
  simp [or_comm, eq_comm]

theorem sizes_write_of_ne {j : ℕ} (hne : j ≠ row.length) (cell : Text) :
    sizes (before ++ [row ++ [cell]]) j = sizes (before ++ [row]) j := by
  have hcell : (row ++ [cell])[j]? = row[j]? := by
    rcases Nat.lt_or_gt_of_ne hne with hlt | hgt
    · exact List.getElem?_append_left hlt
    · rw [List.getElem?_eq_none hgt.le, List.getElem?_eq_none]
      simpa using Nat.succ_le_of_lt hgt
  ext size
  rw [mem_sizes_append, mem_sizes_append, hcell]

/-- A column that no row reaches has no cells. -/
theorem sizes_eq_empty {table : List (List Text)} {j : ℕ}
    (h : ∀ length ∈ lengths table, length ≤ j) : sizes table j = ∅ := by
  refine Set.eq_empty_of_forall_notMem ?_
  rintro size ⟨row, hmem, cell, hcell, -⟩
  have hlt : j < row.length := (List.getElem?_eq_some_iff.mp hcell).1
  exact absurd (h row.length ⟨row, hmem, rfl⟩) (by omega)

theorem Describes.row_le (h : w.Describes (before ++ [row])) :
    row.length ≤ w.columnWidth.elements.length :=
  h.columns.2 (lengths_append ▸ Set.mem_insert _ _)

/-- The greatest of the lengths when one of them grows. -/
theorem isGreatest_insert_succ {others : Set ℕ} {length columns : ℕ}
    (h : IsGreatest (insert length others) columns) :
    IsGreatest (insert (length + 1) others) (max columns (length + 1)) := by
  have hlength : length ≤ columns := h.2 (Set.mem_insert _ _)
  constructor
  · rcases Nat.lt_or_ge length columns with hlt | hge
    · rw [max_eq_left (Nat.succ_le_of_lt hlt)]
      exact Or.inr (h.1.resolve_left hlt.ne')
    · rw [max_eq_right (by omega)]
      exact Set.mem_insert _ _
  · rintro other (rfl | hmem)
    · exact le_max_right _ _
    · exact (h.2 (Or.inr hmem)).trans (le_max_left _ _)

/-- The table with a cell more is described by the writer to which it was written. -/
theorem Describes.write (h : w.Describes (before ++ [row])) (cell : Text) :
    ∃ w', w.write cell = .returns w' ∧ w'.Describes (before ++ [row ++ [cell]]) ∧
      w'.fill = w.fill ∧ w'.columnSeparator = w.columnSeparator := by
  obtain ⟨columnWidth, hwrite, helements⟩ := h.write_eq cell
  have hle := h.row_le
  have hlength : columnWidth.elements.length =
      max w.columnWidth.elements.length (row.length + 1) := by
    rw [helements, length_widen hle]
  refine ⟨_, hwrite, ⟨rfl, ?_, ?_, row ++ [cell], by simp, ?_, by simp⟩, rfl, rfl⟩
  · intro j width hwidth
    dsimp only at hwidth
    rw [helements] at hwidth
    by_cases hj : j = row.length
    · subst hj
      rw [getElem?_widen_self hle, Option.some.injEq] at hwidth
      subst hwidth
      rw [sizes_write_self]
      rcases hle.lt_or_eq with hlt | heq
      · rw [List.getElem?_eq_getElem hlt, Option.getD_some, max_comm]
        exact (h.width _ _ (List.getElem?_eq_getElem hlt)).insert _
      · have hempty : sizes (before ++ [row]) row.length = ∅ :=
          sizes_eq_empty fun length hmem => heq ▸ h.columns.2 hmem
        rw [hempty, List.getElem?_eq_none heq.ge]
        simp
    · rw [getElem?_widen_of_ne _ hj] at hwidth
      rw [sizes_write_of_ne hj]
      exact h.width j width hwidth
  · have hcolumns := h.columns
    rw [lengths_append] at hcolumns ⊢
    dsimp only
    rw [hlength, List.length_append, List.length_singleton]
    exact isGreatest_insert_succ hcolumns
  · rw [hlength]
    simp

theorem Describes.newLine (h : w.Describes (before ++ [row])) :
    w.newLine.Describes (before ++ [row, []]) := by
  have happend : before ++ [row, []] = (before ++ [row]) ++ [[]] := by simp
  refine ⟨?_, ?_, ?_, [], by simp, by simp, rfl⟩
  · rw [TabWriter.newLine, h.table, happend]
  · intro j width hwidth
    have hsizes : sizes (before ++ [row, []]) j = sizes (before ++ [row]) j := by
      ext size
      rw [happend, mem_sizes_append]
      simp
    rw [hsizes]
    exact h.width j width hwidth
  · rw [happend, lengths_append]
    have hcolumns := h.columns.insert 0
    rwa [Nat.zero_max] at hcolumns

theorem describes_initial (fill columnSeparator : UInt8) :
    Describes { fill, columnSeparator } [[]] := by
  refine ⟨rfl, ?_, ?_, [], rfl, le_rfl, rfl⟩
  · intro j width hwidth
    cases hwidth
  · refine ⟨⟨[], by simp, rfl⟩, ?_⟩
    rintro length ⟨row, hmem, rfl⟩
    simp [List.mem_singleton.mp hmem]

/-- After any calls the writer describes the table that they wrote. -/
theorem describes_run (fill columnSeparator : UInt8) (calls : List Call) :
    ∃ w, run fill columnSeparator calls = .returns w ∧ w.Describes (rows calls) ∧
      w.fill = fill ∧ w.columnSeparator = columnSeparator := by
  induction calls using List.reverseRecOn with
  | nil => exact ⟨_, rfl, describes_initial fill columnSeparator, rfl, rfl⟩
  | append_singleton calls call ih =>
      obtain ⟨w, hrun, h, hfill, hseparator⟩ := ih
      obtain ⟨before, row, hrows, hwrite, hnewLine⟩ := rows_append calls
      rw [hrows] at h
      rw [run] at hrun ⊢
      rw [List.foldlM_append, hrun, Attempt.returns_bind]
      cases call with
      | write cell =>
          obtain ⟨w', hw', h', hfill', hseparator'⟩ := h.write cell
          refine ⟨w', ?_, hwrite cell ▸ h', hfill'.trans hfill,
            hseparator'.trans hseparator⟩
          simp [call, hw']
      | newLine =>
          refine ⟨w.newLine, ?_, hnewLine ▸ h.newLine, hfill, hseparator⟩
          simp [call]

/-! ## What is flushed -/

/-- The cells of a row, padded to the widths of their columns. -/
def parts (w : TabWriter) (row : List Text) : List Text :=
  List.zipWith (padded w.fill) w.columnWidth.elements row

/-- The line of a row. -/
def line (w : TabWriter) (row : List Text) : Text :=
  [w.columnSeparator].intercalate (w.parts row)

theorem flushCells_succ {j : ℕ} {cells : List Text}
    (h : j + 1 + cells.length ≤ w.columnWidth.elements.length) :
    w.flushCells (j + 1) cells = .returns ((List.zipWith (padded w.fill)
      (w.columnWidth.elements.drop (j + 1)) cells).flatMap (w.columnSeparator :: ·)) := by
  induction cells generalizing j with
  | nil => simp [flushCells]
  | cons cell cells ih =>
      rw [List.length_cons] at h
      have hlt : j + 1 < w.columnWidth.elements.length := by omega
      have hget : w.columnWidth.get (j + 1) = .returns w.columnWidth.elements[j + 1] :=
        Vec.read_iteratorAt hlt
      rw [flushCells, hget, Attempt.returns_bind, ih (by omega), Attempt.returns_bind,
        if_neg (Nat.succ_ne_zero j), List.drop_eq_getElem_cons hlt, List.zipWith_cons_cons,
        List.flatMap_cons]
      simp

theorem flushCells_eq_line {row : List Text}
    (h : row.length ≤ w.columnWidth.elements.length) :
    w.flushCells 0 row = .returns (w.line row) := by
  cases row with
  | nil => simp [flushCells, line, parts]
  | cons cell cells =>
      rw [List.length_cons] at h
      have hlt : 0 < w.columnWidth.elements.length := by omega
      obtain ⟨width, widths, hwidths⟩ := List.exists_cons_of_length_pos hlt
      have hget : w.columnWidth.get 0 = .returns width := by
        rw [Vec.get, Vec.read_iteratorAt hlt]
        simp [hwidths]
      rw [flushCells, hget, Attempt.returns_bind, flushCells_succ (by omega),
        Attempt.returns_bind, if_pos rfl, line, parts, hwidths, List.zipWith_cons_cons,
        Wire.intercalate_cons]
      simp

theorem flushRows_succ (i : ℕ) {rows : List (List Text)}
    (h : ∀ row ∈ rows, row.length ≤ w.columnWidth.elements.length) :
    w.flushRows (i + 1) rows =
      .returns ((rows.map w.line).flatMap ('\n'.toUInt8 :: ·)) := by
  induction rows generalizing i with
  | nil => rfl
  | cons row rows ih =>
      rw [List.forall_mem_cons] at h
      rw [flushRows, flushCells_eq_line h.1, Attempt.returns_bind, ih _ h.2,
        Attempt.returns_bind, if_neg (Nat.succ_ne_zero i)]
      simp

theorem flush_eq (h : ∀ row ∈ w.table, row.length ≤ w.columnWidth.elements.length) :
    w.flush = .returns (['\n'.toUInt8].intercalate (w.table.map w.line)) := by
  rw [flush]
  cases hrows : w.table with
  | nil => simp [flushRows]
  | cons row rows =>
      rw [hrows, List.forall_mem_cons] at h
      rw [flushRows, flushCells_eq_line h.1, Attempt.returns_bind, flushRows_succ _ h.2,
        Attempt.returns_bind, if_pos rfl, List.map_cons, Wire.intercalate_cons]
      simp

/-! ## Where the cells begin -/

theorem length_parts {row : List Text} (h : row.length ≤ w.columnWidth.elements.length) :
    (w.parts row).length = row.length := by
  rw [parts, List.length_zipWith, Nat.min_eq_right h]

/-- A cell is in its line at the offset of its part. -/
theorem cell_isPrefix_drop_line {j : ℕ} (h : row.length ≤ w.columnWidth.elements.length)
    (hj : j < row.length) :
    row[j] <+: (w.line row).drop (Wire.offset (w.parts row) j) := by
  have hparts : j < (w.parts row).length := by rwa [length_parts h]
  have hpart : (w.parts row)[j] = padded w.fill (w.columnWidth.elements[j]) row[j] :=
    List.getElem_zipWith
  rw [line, Wire.drop_offset_intercalate hparts, List.drop_eq_getElem_cons hparts,
    Wire.intercalate_cons, hpart, padded, List.append_assoc]
  exact List.prefix_append _ _

/-- Each cell is in the line of its row, at the offset of its part. -/
def PlacesCells (w : TabWriter) : Prop :=
  ∀ row ∈ w.table, ∀ j (_ : j < row.length),
    row[j] <+: (w.line row).drop (Wire.offset (w.parts row) j)

/-- The cells of each column begin at the offset that follows from the widths of the
columns before it. -/
def Aligned (w : TabWriter) : Prop :=
  ∀ row ∈ w.table, ∀ j < row.length,
    Wire.offset (w.parts row) j = ((w.columnWidth.elements.take j).map (· + 1)).sum

/-- A cell is padded to the width of its column, unless that is too great for an `int`. -/
theorem length_padded_eq_iff {fill : UInt8} {width : ℕ} {cell : Text}
    (h : cell.length ≤ width) :
    (padded fill width cell).length = width ↔ width ≤ cell.length ∨ width < 2 ^ 31 := by
  have hint : (Int32.ofNat width).toInt =
      if (width : ℤ) % 2 ^ 32 < 2 ^ 31 then (width : ℤ) % 2 ^ 32
      else (width : ℤ) % 2 ^ 32 - 2 ^ 32 := by
    rw [Int32.toInt_ofNat', Int.bmod_def]
    rfl
  rw [padded, List.length_append, List.length_replicate, hint]
  split
  · omega
  · omega

/-- Each cell that is followed by another one is at least as long as those cells of its
column whose sizes are too great for an `int`. -/
def FitsInt (table : List (List Text)) : Prop :=
  ∀ row ∈ table, ∀ j (_ : j + 1 < row.length), ∀ size ∈ sizes table j,
    size ≤ row[j].length ∨ size < 2 ^ 31

theorem Describes.aligned_iff {table : List (List Text)} (h : w.Describes table) :
    w.Aligned ↔ FitsInt table := by
  rw [Aligned, h.table, FitsInt]
  refine forall₂_congr fun row hrow => ?_
  have hle : row.length ≤ w.columnWidth.elements.length := h.columns.2 ⟨row, hrow, rfl⟩
  rw [Wire.offsets_eq_iff (length_parts hle) hle]
  refine forall₂_congr fun j hj => ?_
  have hj' : j < row.length := Nat.lt_of_succ_lt hj
  have hwidth := h.width j _ (List.getElem?_eq_getElem (hj'.trans_le hle))
  have hcell : row[j].length ∈ sizes table j :=
    ⟨row, hrow, row[j], List.getElem?_eq_getElem hj', rfl⟩
  have hparts : j < (w.parts row).length := by rwa [length_parts hle]
  have hpart : (w.parts row)[j] = padded w.fill (w.columnWidth.elements[j]) row[j] :=
    List.getElem_zipWith
  rw [hpart, length_padded_eq_iff (hwidth.2 hcell)]
  constructor
  · rintro (hgreatest | hlt) size hsize
    · exact Or.inl ((hwidth.2 hsize).trans hgreatest)
    · exact Or.inr ((hwidth.2 hsize).trans_lt hlt)
  · intro hfits
    exact hfits _ hwidth.1

/-- After the calls the writer describes the table that they wrote, and flushes its rows as
lines with the cells in them, which are aligned. -/
def AlignsColumns (fill columnSeparator : UInt8) (calls : List Call) : Prop :=
  ∃ w, run fill columnSeparator calls = .returns w ∧ w.Describes (rows calls) ∧
    w.flush = .returns (['\n'.toUInt8].intercalate ((rows calls).map w.line)) ∧
    w.PlacesCells ∧ w.Aligned

theorem Describes.flush_eq {table : List (List Text)} (h : w.Describes table) :
    w.flush = .returns (['\n'.toUInt8].intercalate (table.map w.line)) := by
  rw [TabWriter.flush_eq, h.table]
  intro row hrow
  exact h.columns.2 ⟨row, h.table ▸ hrow, rfl⟩

theorem Describes.placesCells {table : List (List Text)} (h : w.Describes table) :
    w.PlacesCells := by
  rw [PlacesCells, h.table]
  intro row hrow j hj
  exact cell_isPrefix_drop_line (h.columns.2 ⟨row, hrow, rfl⟩) hj

theorem alignsColumns_iff (fill columnSeparator : UInt8) (calls : List Call) :
    AlignsColumns fill columnSeparator calls ↔ FitsInt (rows calls) := by
  obtain ⟨w, hrun, hdescribes, -⟩ := describes_run fill columnSeparator calls
  rw [← hdescribes.aligned_iff]
  constructor
  · rintro ⟨w', hrun', -, -, -, haligned⟩
    obtain rfl := Attempt.returns.inj (hrun.symm.trans hrun')
    exact haligned
  · intro haligned
    exact ⟨w, hrun, hdescribes, hdescribes.flush_eq, hdescribes.placesCells, haligned⟩

example :
    let bytes (s : String) : Text := s.toList.map Char.toUInt8
    let calls := [.write (bytes "one"), .write (bytes "three"), .newLine,
      .write (bytes "1"), .write (bytes "3")]
    (run '*'.toUInt8 '|'.toUInt8 calls >>= flush) =
      .returns (bytes "one|three\n1**|3****") := by
  decide

/-- Two rows of two cells, of which the first one is given. -/
def squareCalls (cell : Text) : List Call :=
  [.write cell, .write ['b'.toUInt8], .newLine, .write ['c'.toUInt8], .write ['d'.toUInt8]]

theorem squareCalls_not_aligned {cell : Text} (h : 2 ^ 31 ≤ cell.length) :
    ¬ AlignsColumns ' '.toUInt8 ' '.toUInt8 (squareCalls cell) := by
  rintro ⟨w, -, hdescribes, -, -, haligned⟩
  have hrows : rows (squareCalls cell) =
    [[cell, ['b'.toUInt8]], [['c'.toUInt8], ['d'.toUInt8]]] := rfl
  have hfits := hdescribes.aligned_iff.mp haligned
  rw [hrows] at hfits
  have hsize : cell.length ∈ sizes [[cell, ['b'.toUInt8]], [['c'.toUInt8], ['d'.toUInt8]]] 0 :=
    ⟨_, List.mem_cons_self, cell, rfl, rfl⟩
  rcases hfits [['c'.toUInt8], ['d'.toUInt8]] (by simp) 0 (by decide) _ hsize with hle | hlt
  · have hone : cell.length ≤ 1 := hle
    omega
  · omega

/-- Below a cell of two gigabytes the second column begins too early. -/
theorem twoGigabytes_not_aligned :
    ¬ AlignsColumns ' '.toUInt8 ' '.toUInt8
        (squareCalls (List.replicate (2 ^ 31) 'a'.toUInt8)) :=
  squareCalls_not_aligned (List.length_replicate ▸ le_rfl)

end TabWriter

end Airmap.Util.Cli
