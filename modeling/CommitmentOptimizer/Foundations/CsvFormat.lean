import Mathlib.Data.List.Basic

/-!
# The CSV format

The texts of a list of records: quoted cells double their quotes, bare cells hold
none of the four special characters, records end at either line break, and the
last line break may be left out.
-/

namespace CommitmentOptimizer.Foundations.CsvFormat

set_option autoImplicit false

def isSpecial (character : Char) : Bool :=
  character = ',' || character = '"' || character = '\n' || character = '\r'

def doubleQuotes (text : List Char) : List Char :=
  text.flatMap fun character => if character = '"' then ['"', '"'] else [character]

theorem double_quotes_cons_quote (text : List Char) :
    doubleQuotes ('"' :: text) = '"' :: '"' :: doubleQuotes text := by
  simp [doubleQuotes]

theorem double_quotes_cons_plain {character : Char} (plain : character ≠ '"')
    (text : List Char) : doubleQuotes (character :: text) = character :: doubleQuotes text := by
  simp [doubleQuotes, plain]

inductive CellText : String → List Char → Prop where
  | bare (cell : String) :
      (∀ character ∈ cell.toList, isSpecial character = false) → CellText cell cell.toList
  | quoted (cell : String) : CellText cell ('"' :: (doubleQuotes cell.toList ++ ['"']))

/-- The cells of a record, with a comma between any two. -/
inductive RecordText : List String → List Char → Prop where
  | last (cell : String) (text : List Char) : CellText cell text → RecordText [cell] text
  | cons (cell : String) (text : List Char) (cells : List String) (rest : List Char) :
      CellText cell text → RecordText cells rest →
      RecordText (cell :: cells) (text ++ ',' :: rest)

inductive LineBreak : List Char → Prop where
  | lf : LineBreak ['\n']
  | crlf : LineBreak ['\r', '\n']

/-- The records of a file; after the last one the line break is optional. -/
inductive FileText : List (List String) → List Char → Prop where
  | empty : FileText [] []
  | unterminated (record : List String) (text : List Char) :
      RecordText record text → FileText [record] text
  | terminated (record : List String) (text lineBreak : List Char) (records : List (List String))
      (rest : List Char) :
      RecordText record text → LineBreak lineBreak → FileText records rest →
      FileText (record :: records) (text ++ (lineBreak ++ rest))

theorem record_text_exists {record : List String} (nonempty : record ≠ []) :
    ∃ text, RecordText record text := by
  induction record with
  | nil => exact absurd rfl nonempty
  | cons cell cells induction =>
      cases cells with
      | nil => exact ⟨_, RecordText.last cell _ (CellText.quoted cell)⟩
      | cons next others =>
          obtain ⟨rest, encoded⟩ := induction (by simp)
          exact ⟨_, RecordText.cons cell _ _ rest (CellText.quoted cell) encoded⟩

/-- Every list of records with cells is the content of a file. -/
theorem file_text_exists {records : List (List String)}
    (nonempty : ∀ record ∈ records, record ≠ []) : ∃ text, FileText records text := by
  induction records with
  | nil => exact ⟨[], FileText.empty⟩
  | cons record records induction =>
      obtain ⟨text, encoded⟩ := record_text_exists (nonempty record List.mem_cons_self)
      obtain ⟨rest, others⟩ :=
        induction fun later member => nonempty later (List.mem_cons_of_mem _ member)
      exact ⟨_, FileText.terminated record text _ records rest encoded LineBreak.lf others⟩

end CommitmentOptimizer.Foundations.CsvFormat
