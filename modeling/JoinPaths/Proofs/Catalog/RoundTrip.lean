import JoinPaths.Proofs.Catalog.Listing

/-!
# Rows are written and read back

Rows that are written as JSON are read back unchanged and in order, whatever their strings hold, so
that a graph of the rows that are read is one of the rows that were written, or fails as it does
(`ofCatalog_rowsText`).

1. A row holds nothing but strings, under different keys, so its value is read back from its text
   (`isExact_toJson`), and decoded from its value (`ofJson_toJson`).
2. The text of a list is read as its items are decoded, so it is read back as the rows
   (`parseRows_rowsText`). Different lists of rows therefore have different texts
   (`rowsText_injective`).
3. A snapshot lists its rows without a call, whatever the schema, so that nothing but the rows
   decides on the graph.
-/

namespace JoinPaths

open Json (compact Gives)

namespace Catalog

/-! ## One row -/

theorem parse_compact_toJson (row : Row) :
    Json.parse (compact row.toJson) = .ok row.toJson :=
  Json.parse_compact ((isExact_toJson row).mono (by decide))

/-- A row is read back from its text, with nothing left. -/
theorem scanRow_compact_toJson (row : Row) :
    Gives (scanRow (compact row.toJson).toList) row [] := by
  have htext : row.toJson.text ++ [] = (compact row.toJson).toList := by
    rw [compact, String.toList_ofList, List.append_nil]
  have h := scanRow_text ((isExact_toJson row).mono (by decide)) Json.delimited_nil
  rwa [htext, ofJson_toJson] at h

/-- Quotes, backslashes and control characters are escaped, other characters stand for themselves. -/
example : (Row.primary "a\"b\\" "\x00é😀\n").toJson.text =
    "\x7b\"key_type\":\"primary\",\"table_name\":\"a\\\"b\\\\\",".toList ++
      "\"column_name\":\"\\u0000é😀\\n\"\x7d".toList := by
  decide

/-! ## Lists of rows -/

/-- The text of some rows as a list. -/
def rowsText (rows : List Row) : String :=
  compact (.array (rows.map Row.toJson))

theorem isExact_map_toJson (rows : List Row) : (Json.array (rows.map Row.toJson)).IsExact 2 := by
  refine .array fun v hv => ?_
  obtain ⟨row, -, rfl⟩ := List.mem_map.1 hv
  exact isExact_toJson row

theorem parseRows_rowsText (rows : List Row) : parseRows (rowsText rows) = .ok rows := by
  unfold rowsText
  rw [parseRows_compact ((isExact_map_toJson rows).mono (by decide)), ofJsonAll_map_toJson]
  rfl

theorem rowsText_injective : Function.Injective rowsText := by
  intro rows rows' h
  have hsame := parseRows_rowsText rows
  rw [h, parseRows_rowsText] at hsame
  exact (Except.ok.inj hsame).symm

end Catalog

namespace JoinGraph

open Catalog (Row rowsText parseRows scanRow)

/-- Every row is read back from its value and from its text, and the text of all rows is read as
these rows in order. So what is built from a snapshot with this text, without any call, is the graph
or the error of the rows, whatever the schema and whether directed or not. -/
theorem ofCatalog_rowsText (rows : List Row) :
    (∀ row ∈ rows, Row.ofJson row.toJson = .ok row ∧
        Json.parse (compact row.toJson) = .ok row.toJson ∧
        Gives (scanRow (compact row.toJson).toList) row []) ∧
      parseRows (rowsText rows) = .ok rows ∧
        ∀ schema directed,
          (parseRows (rowsText rows)).map (fun reread =>
              ofCatalog (.snapshot reread) schema directed) =
            .ok ⟨[], ofRows rows schema directed⟩ := by
  have hread := Catalog.parseRows_rowsText rows
  refine ⟨fun row _ => ⟨Catalog.ofJson_toJson row, Catalog.parse_compact_toJson row,
    Catalog.scanRow_compact_toJson row⟩, hread, fun schema directed => ?_⟩
  rw [hread]
  rfl

end JoinGraph

end JoinPaths
