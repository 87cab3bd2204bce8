import TableIntake.Command.Table

/-! # What a drawing shows

A drawn table shows the names of its columns and the texts of its cells, line by line. Only a line
that is wider than a column can be is broken.
-/

namespace TableIntake

namespace Drawing

variable {line : List Char} {block : Block} {width height : Nat}

theorem le_foldr_max {number : Nat} {numbers : List Nat} (member : number ∈ numbers) :
    number ≤ numbers.foldr max 0 := by
  induction numbers with
  | nil => cases member
  | cons first rest induction =>
      rcases List.mem_cons.mp member with rfl | member
      · exact Nat.le_max_left _ _
      · exact Nat.le_trans (induction member) (Nat.le_max_right _ _)

theorem infix_padded (width : Nat) (line : List Char) : line <:+: padded width line :=
  ⟨[' '], _, rfl⟩

theorem exists_across {cells : List (Nat × Block)} (member : (width, block) ∈ cells)
    (inside : line ∈ block) (enough : block.length ≤ height) :
    ∃ across ∈ acrossCells height cells, line <:+: across := by
  induction height generalizing cells block with
  | zero =>
      obtain rfl : block = [] := List.eq_nil_of_length_eq_zero (Nat.le_zero.mp enough)
      cases inside
  | succ height induction =>
      rw [acrossCells]
      cases inside with
      | head rest =>
          refine ⟨_, .head _, ?_⟩
          let across (cell : Nat × Block) : List Char :=
            cell.2.headD (List.replicate (space cell.1) ' ') ++ ['|']
          have here : line ++ ['|'] ∈ cells.map across := List.mem_map.mpr ⟨_, member, rfl⟩
          have whole : line <:+: cells.flatMap across :=
            (List.prefix_append line ['|']).isInfix.trans (List.infix_of_mem_flatten here)
          exact whole.trans (List.suffix_cons '|' _).isInfix
      | @tail first rest inside =>
          have lower : (width, rest) ∈ cells.map fun cell => (cell.1, cell.2.tail) :=
            List.mem_map.mpr ⟨_, member, rfl⟩
          rcases induction lower inside (Nat.le_of_succ_le_succ enough) with ⟨across, below, shows⟩
          exact ⟨across, .tail _ below, shows⟩

theorem mem_fitted (inside : line ∈ block) (fits : Text.columns line ≤ width) :
    padded width line ∈ fitted width block := by
  refine List.mem_map.mpr ⟨line, List.mem_flatMap.mpr ⟨line, inside, ?_⟩, rfl⟩
  rw [Text.filled, if_pos fits]
  exact .head []

theorem exists_rowLine {widths : List Nat} {row : List Block} {index : Nat}
    (column : widths[index]? = some width) (cell : row[index]? = some block)
    (inside : line ∈ block) (fits : Text.columns line ≤ width) :
    ∃ across ∈ rowLines widths row, line <:+: across := by
  let cells := (widths.zip row).map fun cell => (cell.1, fitted cell.1 cell.2)
  have member : (width, fitted width block) ∈ cells :=
    List.mem_map.mpr ⟨(width, block),
      List.mem_of_getElem? (List.getElem?_zip_eq_some.mpr ⟨column, cell⟩), rfl⟩
  have enough : (fitted width block).length ≤
      (cells.map fun cell => cell.2.length).foldr max 0 :=
    le_foldr_max (List.mem_map.mpr ⟨_, member, rfl⟩)
  rcases exists_across member (mem_fitted inside fits) enough with ⟨across, there, shows⟩
  exact ⟨across, there, (infix_padded width line).trans shows⟩

theorem infix_intercalate {separator piece : List Char} {pieces : List (List Char)}
    (member : piece ∈ pieces) : piece <:+: separator.intercalate pieces := by
  induction pieces with
  | nil => cases member
  | cons first rest induction =>
      cases rest with
      | nil =>
          obtain rfl := List.mem_singleton.mp member
          simp [List.intercalate]
      | cons second rest =>
          have split : separator.intercalate (first :: second :: rest) =
              first ++ (separator ++ separator.intercalate (second :: rest)) := by
            simp [List.intercalate]
          rw [split]
          rcases List.mem_cons.mp member with rfl | later
          · exact (List.prefix_append _ _).isInfix
          · refine (induction later).trans ?_
            rw [← List.append_assoc]
            exact (List.suffix_append _ _).isInfix

theorem exists_width {columns : List (List Block)} {index : Nat} {blocks : List Block}
    (here : columns[index]? = some blocks) :
    ∃ width, (widths columns)[index]? = some width ∧
      ∀ block ∈ blocks, ∀ line ∈ block, Text.columns line ≤ widest →
        Text.columns line ≤ width := by
  refine ⟨_, by rw [widths, List.getElem?_map, here, Option.map_some], ?_⟩
  intro block member line inside narrow
  have inBlock : Text.columns line ≤ width block :=
    le_foldr_max (List.mem_map.mpr ⟨line, inside, rfl⟩)
  have inColumn : width block ≤ (blocks.map width).foldr max 0 :=
    le_foldr_max (List.mem_map.mpr ⟨block, member, rfl⟩)
  omega

end Drawing

namespace StoredTable

open Drawing

/-- The text holds the names of the columns and the cells of the rows. A line that is wider than a
column can be need not be there as it is. -/
structure DrawnIn (table : StoredTable) (drawing : String) : Prop where
  name : ∀ column ∈ table.columns, ∀ line ∈ block column.name, Text.columns line ≤ widest →
    line <:+: drawing.toList
  cell : ∀ column ∈ table.columns, ∀ row < table.rows, ∀ cell, column.cells[row]? = some cell →
    ∀ line ∈ block cell.text, Text.columns line ≤ widest → line <:+: drawing.toList

def columnBlocks (column : StoredColumn) : List Block :=
  block column.name :: column.cells.toList.map fun cell => block cell.text

theorem infix_drawing {table : StoredTable} {across : List Char}
    (there : across ∈ rowLines (widths (table.columns.map columnBlocks))
          (table.columns.map fun column => block column.name) ∨
        ∃ row < table.rows, across ∈ rowLines (widths (table.columns.map columnBlocks))
          (table.rowBlocks row)) : across <:+: table.drawing.toList := by
  rw [drawing, String.toList_intercalate, List.map_map]
  apply infix_intercalate
  rw [List.mem_map]
  refine ⟨across, ?_, String.toList_ofList⟩
  rcases there with header | ⟨row, within, member⟩
  · exact List.mem_append_left _ (List.mem_append_left _ (.tail _ header))
  · have rows : across ∈ ((List.range table.rows).map table.rowBlocks).flatMap
        (rowLines (widths (table.columns.map columnBlocks))) :=
      List.mem_flatMap.mpr ⟨_, List.mem_map.mpr ⟨row, List.mem_range.mpr within, rfl⟩, member⟩
    exact List.mem_append_left _ (List.mem_append_right _ (.tail _ rows))

theorem drawnIn_drawing (table : StoredTable) : table.DrawnIn table.drawing := by
  -- In the header and in each row, a column shows one of the texts that set its width.
  have shows {column : StoredColumn} (member : column ∈ table.columns)
      (shown : StoredColumn → Block) (one : shown column ∈ columnBlocks column) {line : List Char}
      (inside : line ∈ shown column) (narrow : Text.columns line ≤ widest) :
      ∃ across ∈ rowLines (widths (table.columns.map columnBlocks)) (table.columns.map shown),
        line <:+: across := by
    rcases List.mem_iff_getElem?.mp member with ⟨index, here⟩
    have blocks : (table.columns.map columnBlocks)[index]? = some (columnBlocks column) := by
      rw [List.getElem?_map, here, Option.map_some]
    have cell : (table.columns.map shown)[index]? = some (shown column) := by
      rw [List.getElem?_map, here, Option.map_some]
    rcases exists_width blocks with ⟨width, there, enough⟩
    exact exists_rowLine there cell inside (enough _ one line inside narrow)
  constructor
  · intro column member line inside narrow
    rcases shows member (fun column => block column.name) (.head _) inside narrow with
      ⟨across, there, holds⟩
    exact holds.trans (infix_drawing (.inl there))
  · intro column member row within cell here line inside narrow
    let shown (column : StoredColumn) : Block := block (column.cells[row]?.getD .null).text
    have same : shown column = block cell.text := by simp only [shown, here, Option.getD_some]
    have one : shown column ∈ columnBlocks column := by
      rw [same]
      refine .tail _ (List.mem_map.mpr ⟨cell, ?_, rfl⟩)
      exact Array.mem_toList_iff.mpr (Array.mem_of_getElem? here)
    rw [← same] at inside
    rcases shows member shown one inside narrow with ⟨across, there, holds⟩
    exact holds.trans (infix_drawing (.inr ⟨row, within, there⟩))

end StoredTable

end TableIntake
