import CommitmentOptimizer.Foundations.CsvFormat
import CommitmentOptimizer.Imports.UsageParsers

/-!
# Reading CSV files back

`parseCsv` (`csv.ts`) on the texts of records.
-/

namespace CommitmentOptimizer.Imports.CsvRoundTrip

open Foundations
open Foundations.CsvFormat
open UsageParsers

set_option autoImplicit false

section Steps

variable {cell rest : List Char} {row : List String} {rows : List (List String)}

attribute [local simp] readCsv

theorem read_doubled :
    readCsv true cell row rows ('"' :: '"' :: rest) = readCsv true ('"' :: cell) row rows rest := by
  rw [readCsv, if_pos rfl]

theorem read_closing (follows : rest.head? ≠ some '"') :
    readCsv true cell row rows ('"' :: rest) = readCsv false cell row rows rest := by
  rw [readCsv, if_pos rfl]
  intro later same
  rw [same] at follows
  exact follows rfl

theorem read_inside {character : Char} (plain : character ≠ '"') :
    readCsv true cell row rows (character :: rest) =
      readCsv true (character :: cell) row rows rest := by
  rw [readCsv, if_pos rfl]
  · exact fun same => absurd same plain
  · exact fun _ same => absurd same plain

/-- A character that is no quote is read alike whatever follows. -/
theorem read_outside {character : Char} (plain : character ≠ '"') :
    readCsv false cell row rows (character :: rest) =
      if character = ',' then readCsv false [] (String.ofList cell.reverse :: row) rows rest
      else if character = '\n' then
        readCsv false [] [] ((String.ofList cell.reverse :: row).reverse :: rows) rest
      else if character = '\r' then readCsv false cell row rows rest
      else readCsv false (character :: cell) row rows rest := by
  rw [readCsv, if_neg (by decide), if_neg plain]
  · exact fun same => absurd same plain
  · exact fun _ same => absurd same plain

theorem read_plain {character : Char} (plain : isSpecial character = false) :
    readCsv false cell row rows (character :: rest) =
      readCsv false (character :: cell) row rows rest := by
  simp only [isSpecial, Bool.or_eq_false_iff, decide_eq_false_iff_not] at plain
  obtain ⟨⟨⟨comma, quote⟩, newline⟩, carriage⟩ := plain
  rw [read_outside quote, if_neg comma, if_neg newline, if_neg carriage]

theorem read_comma :
    readCsv false cell row rows (',' :: rest) =
      readCsv false [] (String.ofList cell.reverse :: row) rows rest :=
  read_outside (by decide)

theorem read_quote :
    readCsv false cell row rows ('"' :: rest) = readCsv true cell row rows rest := by
  cases rest with
  | nil => rfl
  | cons next rest =>
      by_cases quote : next = '"'
      · rw [quote, readCsv, if_neg (by decide), if_pos rfl]
      · rw [readCsv, if_neg (by decide), if_pos rfl]
        exact fun _ same => absurd (List.cons.inj same).1 quote

/-- Both line breaks end the record. -/
theorem read_line_break {lineBreak : List Char} (ends : LineBreak lineBreak) :
    readCsv false cell row rows (lineBreak ++ rest) =
      readCsv false [] [] ((String.ofList cell.reverse :: row).reverse :: rows) rest := by
  cases ends with
  | lf => exact read_outside (by decide)
  | crlf => exact (read_outside (by decide)).trans (read_outside (by decide))

theorem line_break_no_quote {lineBreak : List Char} (ends : LineBreak lineBreak) :
    (lineBreak ++ rest).head? ≠ some '"' := by
  cases ends <;> simp

end Steps

section Encodings

variable {rest : List Char} {row : List String} {rows : List (List String)}

theorem read_bare {text : List Char} (cell : List Char)
    (plain : ∀ character ∈ text, isSpecial character = false) :
    readCsv false cell row rows (text ++ rest) =
      readCsv false (text.reverse ++ cell) row rows rest := by
  induction text generalizing cell with
  | nil => rfl
  | cons character text induction =>
      rw [List.cons_append, read_plain (plain character List.mem_cons_self),
        induction _ fun later member => plain later (List.mem_cons_of_mem _ member),
        List.reverse_cons, List.append_assoc]
      rfl

theorem read_quoted (text cell : List Char) (follows : rest.head? ≠ some '"') :
    readCsv true cell row rows (doubleQuotes text ++ '"' :: rest) =
      readCsv false (text.reverse ++ cell) row rows rest := by
  induction text generalizing cell with
  | nil => exact read_closing follows
  | cons character text induction =>
      by_cases quote : character = '"'
      · rw [quote, double_quotes_cons_quote, List.cons_append, List.cons_append, read_doubled,
          induction, List.reverse_cons, List.append_assoc]
        rfl
      · rw [double_quotes_cons_plain quote, List.cons_append, read_inside quote, induction,
          List.reverse_cons, List.append_assoc]
        rfl

/-- A cell is read whatever follows it but a quote. -/
theorem read_cell {cell : String} {text : List Char} (encoded : CellText cell text)
    (follows : rest.head? ≠ some '"') :
    readCsv false [] row rows (text ++ rest) =
      readCsv false cell.toList.reverse row rows rest := by
  cases encoded with
  | bare plain => rw [read_bare [] plain, List.append_nil]
  | quoted =>
      rw [List.cons_append, List.append_assoc, List.singleton_append, read_quote,
        read_quoted _ _ follows, List.append_nil]

/-- A record is read up to its last cell. -/
theorem read_record {record : List String} {text : List Char} (encoded : RecordText record text)
    (follows : rest.head? ≠ some '"') :
    ∃ initial last, record = initial ++ [last] ∧
      readCsv false [] row rows (text ++ rest) =
        readCsv false last.toList.reverse (initial.reverse ++ row) rows rest := by
  induction encoded generalizing row with
  | last cell text cellText => exact ⟨[], cell, rfl, read_cell cellText follows⟩
  | cons cell text cells more cellText _ induction =>
      obtain ⟨initial, last, split, read⟩ := @induction (cell :: row)
      refine ⟨cell :: initial, last, by rw [split]; rfl, ?_⟩
      have comma : (',' :: (more ++ rest)).head? ≠ some '"' := by simp
      rw [List.append_assoc, List.cons_append, read_cell cellText comma, read_comma,
        List.reverse_reverse, String.ofList_toList, read, List.reverse_cons, List.append_assoc]
      rfl

/-- `record.some((value) => value.trim() !== "")`. -/
def isVisible (record : List String) : Bool :=
  record.any fun value => jsTrim value.toList ≠ []

/-- A file's records are read, except that a last line of one empty cell may be missed. -/
theorem read_file {records : List (List String)} {text : List Char}
    (encoded : FileText records text) :
    ∃ kept, readCsv false [] [] rows text = rows.reverse ++ kept ∧
      kept.filter isVisible = records.filter isVisible := by
  induction encoded generalizing rows with
  | empty => exact ⟨[], (List.append_nil _).symm, rfl⟩
  | unterminated record text recordText =>
      obtain ⟨initial, last, split, read⟩ :=
        @read_record [] [] rows record text recordText (by decide)
      rw [List.append_nil, List.append_nil] at read
      rw [read, readCsv]
      split_ifs with started
      · refine ⟨[record], ?_, rfl⟩
        rw [List.reverse_reverse, String.ofList_toList, split, List.reverse_cons,
          List.reverse_cons, List.reverse_reverse]
      · simp only [ne_eq, not_or, not_not, List.reverse_eq_nil_iff] at started
        refine ⟨[], (List.append_nil _).symm, ?_⟩
        rw [split, started.2, String.toList_eq_nil_iff.mp started.1]
        rfl
  | terminated record text lineBreak records rest recordText ends _ induction =>
      obtain ⟨initial, last, split, read⟩ :=
        @read_record _ [] rows record text recordText (line_break_no_quote ends)
      obtain ⟨kept, readRest, visible⟩ := @induction (record :: rows)
      refine ⟨record :: kept, ?_, ?_⟩
      · rw [read, read_line_break ends, List.reverse_reverse, String.ofList_toList,
          List.append_nil, List.reverse_cons, List.reverse_reverse, ← split, readRest,
          List.reverse_cons, List.append_assoc]
        rfl
      · rw [List.filter_cons, List.filter_cons, visible]

theorem parse_csv_visible {records : List (List String)} {text : List Char}
    (encoded : FileText records text) : parseCsv text = records.filter isVisible := by
  obtain ⟨kept, read, visible⟩ := @read_file [] records text encoded
  rw [parseCsv, read]
  exact visible

theorem is_visible_iff {record : List String} :
    isVisible record = true ↔ ∃ cell ∈ record, jsTrim cell.toList ≠ [] := by
  simp [isVisible, List.any_eq_true]

/-- A file is read back to its records, of which those without a visible cell are dropped. -/
theorem parse_csv_inverts {records : List (List String)} {text : List Char}
    (encoded : FileText records text) :
    ((∀ record ∈ records, ∃ cell ∈ record, jsTrim cell.toList ≠ []) → parseCsv text = records) ∧
    parseCsv text =
      records.filter fun record => decide (∃ cell ∈ record, jsTrim cell.toList ≠ []) := by
  have dropped : records.filter isVisible =
      records.filter fun record => decide (∃ cell ∈ record, jsTrim cell.toList ≠ []) :=
    List.filter_congr fun record _ => by rw [Bool.eq_iff_iff, is_visible_iff, decide_eq_true_iff]
  rw [parse_csv_visible encoded]
  exact ⟨fun every => List.filter_eq_self.mpr fun record member =>
    is_visible_iff.mpr (every record member), dropped⟩

theorem mixed_file_read :
    parseCsv "\"a,\"\"b\",\r\n,c\nd,\"\"".toList = [["a,\"b", ""], ["", "c"], ["d", ""]] := by
  have plain : ∀ cell : String, cell ∈ ["", "c", "d"] →
      ∀ character ∈ cell.toList, isSpecial character = false := by
    intro cell listed character member
    have none : ∀ cell ∈ ["", "c", "d"], cell.toList.all (!isSpecial ·) = true := by decide
    simpa using List.all_eq_true.mp (none cell listed) character member
  have encoded : FileText [["a,\"b", ""], ["", "c"], ["d", ""]]
      "\"a,\"\"b\",\r\n,c\nd,\"\"".toList :=
    .terminated _ _ _ _ _
      (.cons _ _ _ _ (.quoted "a,\"b") (.last _ _ (.bare "" (plain _ (by decide))))) .crlf
      (.terminated _ _ _ _ _
        (.cons _ _ _ _ (.bare "" (plain _ (by decide))) (.last _ _ (.bare "c" (plain _ (by decide)))))
        .lf
        (.unterminated _ _
          (.cons _ _ _ _ (.bare "d" (plain _ (by decide))) (.last _ _ (.quoted "")))))
  exact (parse_csv_inverts encoded).1 (by decide)

end Encodings

end CommitmentOptimizer.Imports.CsvRoundTrip
