import ScadaCore.Data.Utf8

/-!
# Base.CsvWriter — tables as text

A `CsvWriter` writes a table row by row and cell by cell. Rows are separated by CR LF and cells
by a delimiter; a cell with a character in it that could be mistaken for one of these is put in
quotes.
-/

namespace ScadaCore.Base

/-! ## Strings -/

/-- What is left of a string when one occurrence after the other is replaced. The number says
how many characters of an occurrence are still to be passed over. -/
def replaceSubstrings (findThis replaceWith : List Char) : Nat → List Char → List Char
  | _, [] => []
  | pass + 1, _ :: rest => replaceSubstrings findThis replaceWith pass rest
  | 0, c :: rest =>
    if findThis.isPrefixOf (c :: rest) then
      replaceWith ++ replaceSubstrings findThis replaceWith (findThis.length - 1) rest
    else
      c :: replaceSubstrings findThis replaceWith 0 rest

def replaceSubstringsAfterOffset (str : List Char) (startOffset : Nat)
    (findThis replaceWith : List Char) : List Char :=
  if findThis = [] then str
  else str.take startOffset ++ replaceSubstrings findThis replaceWith 0 (str.drop startOffset)

/-! ## The writer -/

structure CsvEncoding where
  bom : List UInt8 := []
  encode : List Char → List UInt8

def encodeUtf8 (utf16 : List Char) : List UInt8 := Utf8.encode utf16

def utf8CsvEncoding : CsvEncoding where
  bom := [0xEF, 0xBB, 0xBF]
  encode := encodeUtf8

def stringToCsv (rawValue : List Char) (delimiter quote : Char) : List Char :=
  let escape := ['\r', '\n', delimiter, quote]
  if rawValue.any (escape.contains ·) then
    let result := [quote] ++ rawValue
    replaceSubstringsAfterOffset result (result.length - rawValue.length) [quote] [quote, quote]
      ++ [quote]
  else
    rawValue

/-- `CsvWriter`, with what it has written. The stream takes everything. -/
structure CsvWriter where
  encoding : CsvEncoding := utf8CsvEncoding
  delimiter : Char := ','
  quote : Char := '"'
  stream : List UInt8 := []
  bomWritten : Bool := false
  skipStart : Bool := true
  startOfLine : Bool := true

namespace CsvWriter

variable (w : CsvWriter)

def writeBom : CsvWriter :=
  if w.bomWritten then w
  else { w with bomWritten := true, stream := w.stream ++ w.encoding.bom }

def startRow : CsvWriter :=
  let skip := w.skipStart
  let w := { w with skipStart := false }.writeBom
  if skip then w
  else { w with stream := w.stream ++ [13, 10], startOfLine := true }

def writeCell (utf16 : List Char) : CsvWriter :=
  let w := w.writeBom
  -- the delimiter is an ASCII character, which is its own byte
  let w := if w.startOfLine then w else { w with stream := w.stream ++ encodeUtf8 [w.delimiter] }
  let w := { w with startOfLine := false }
  let escaped := stringToCsv utf16 w.delimiter w.quote
  { w with stream := w.stream ++ w.encoding.encode escaped }

def writeRow (row : List (List Char)) : CsvWriter := row.foldl writeCell w.startRow

def writeTable (table : List (List (List Char))) : CsvWriter :=
  table.foldl writeRow w

end CsvWriter

def plainCsvWriter : CsvWriter := { encoding := { bom := [], encode := encodeUtf8 } }

/-! ## The text of a table -/

def cellText (cell : List Char) : List Char := stringToCsv cell ',' '"'

def rowText : List (List Char) → List Char
  | [] => []
  | cell :: rest => cellText cell ++ rest.flatMap fun cell => ',' :: cellText cell

def tableText : List (List (List Char)) → List Char
  | [] => []
  | row :: rest => rowText row ++ rest.flatMap fun row => '\r' :: '\n' :: rowText row

def doubled : List Char → List Char
  | [] => []
  | c :: rest => if c = '"' then '"' :: '"' :: doubled rest else c :: doubled rest

theorem replaceSubstrings_quote (text : List Char) :
    replaceSubstrings ['"'] ['"', '"'] 0 text = doubled text := by
  induction text with
  | nil => rfl
  | cons c rest ih =>
    rw [replaceSubstrings, doubled]
    by_cases hc : c = '"'
    · simp [hc, ih]
    · simp [hc, ih, List.isPrefixOf, Ne.symm hc]

/-- The characters for which a cell is put in quotes. -/
def Special (c : Char) : Prop := c = '\r' ∨ c = '\n' ∨ c = ',' ∨ c = '"'

theorem cellText_spec (cell : List Char) :
    cellText cell = '"' :: doubled cell ++ ['"'] ∨
      cellText cell = cell ∧ ∀ c ∈ cell, ¬ Special c := by
  unfold cellText stringToCsv
  dsimp only
  split_ifs with hspecial
  · refine .inl ?_
    have hoffset : (['"'] ++ cell).length - cell.length = 1 := by simp
    rw [hoffset, replaceSubstringsAfterOffset, if_neg (by simp)]
    show ['"'] ++ replaceSubstrings _ _ 0 cell ++ ['"'] = _
    rw [replaceSubstrings_quote]
    rfl
  · refine .inr ⟨rfl, ?_⟩
    intro c hc hno
    apply hspecial
    rw [List.any_eq_true]
    refine ⟨c, hc, ?_⟩
    rcases hno with rfl | rfl | rfl | rfl <;> decide

/-! ## What is written -/

namespace CsvWriter

/-- A writer of UTF-8 with commas and quotes, and without a byte-order mark. -/
structure Plain (w : CsvWriter) : Prop where
  encoding : w.encoding = { bom := [], encode := encodeUtf8 }
  delimiter : w.delimiter = ','
  quote : w.quote = '"'

variable {w : CsvWriter}

theorem Plain.writeBom (h : Plain w) : w.writeBom = { w with bomWritten := true } := by
  unfold CsvWriter.writeBom
  split_ifs with hwritten
  · rw [← hwritten]
  · rw [h.encoding, List.append_nil]

theorem Plain.startRow (h : Plain w) (hskip : w.skipStart = true → w.startOfLine = true) :
    Plain w.startRow ∧ w.startRow.skipStart = false ∧ w.startRow.startOfLine = true ∧
      w.startRow.stream = w.stream ++ encodeUtf8 (if w.skipStart then [] else ['\r', '\n']) := by
  have hplain : Plain { w with skipStart := false } := ⟨h.encoding, h.delimiter, h.quote⟩
  unfold CsvWriter.startRow
  rw [hplain.writeBom]
  dsimp only
  split_ifs with hstart
  · exact ⟨⟨h.encoding, h.delimiter, h.quote⟩, rfl, hskip hstart, (List.append_nil _).symm⟩
  · exact ⟨⟨h.encoding, h.delimiter, h.quote⟩, rfl, rfl, rfl⟩

theorem Plain.writeCell (h : Plain w) (cell : List Char) :
    Plain (w.writeCell cell) ∧ (w.writeCell cell).skipStart = w.skipStart ∧
      (w.writeCell cell).startOfLine = false ∧
      (w.writeCell cell).stream =
        w.stream ++ encodeUtf8 ((if w.startOfLine then [] else [',']) ++ cellText cell) := by
  unfold CsvWriter.writeCell
  rw [h.writeBom]
  dsimp only
  split_ifs with hstart
  · refine ⟨⟨h.encoding, h.delimiter, h.quote⟩, rfl, rfl, ?_⟩
    dsimp only
    rw [h.encoding, h.delimiter, h.quote]
    rfl
  · refine ⟨⟨h.encoding, h.delimiter, h.quote⟩, rfl, rfl, ?_⟩
    dsimp only
    rw [h.encoding, h.delimiter, h.quote, List.append_assoc]
    exact congrArg (w.stream ++ ·) (Utf8.encode_append [','] _).symm

theorem Plain.writeCells (h : Plain w) (hstart : w.startOfLine = false) (cells : List (List Char)) :
    Plain (cells.foldl CsvWriter.writeCell w) ∧
      (cells.foldl CsvWriter.writeCell w).skipStart = w.skipStart ∧
      (cells.foldl CsvWriter.writeCell w).stream =
        w.stream ++ encodeUtf8 (cells.flatMap fun cell => ',' :: cellText cell) := by
  induction cells generalizing w with
  | nil => exact ⟨h, rfl, (List.append_nil _).symm⟩
  | cons cell rest ih =>
    obtain ⟨hplain, hskip, hline, hstream⟩ := h.writeCell cell
    obtain ⟨hend, hskips, hrest⟩ := ih hplain hline
    refine ⟨hend, hskips.trans hskip, ?_⟩
    rw [List.foldl_cons, hrest, hstream, hstart, List.append_assoc]
    exact congrArg (w.stream ++ ·) (Utf8.encode_append _ _).symm

theorem Plain.writeRow (h : Plain w) (hskip : w.skipStart = true → w.startOfLine = true)
    (row : List (List Char)) :
    Plain (w.writeRow row) ∧ (w.writeRow row).skipStart = false ∧
      (w.writeRow row).stream =
        w.stream ++ encodeUtf8 ((if w.skipStart then [] else ['\r', '\n']) ++ rowText row) := by
  obtain ⟨hplain, hfirst, hline, hstream⟩ := h.startRow hskip
  unfold CsvWriter.writeRow
  cases row with
  | nil =>
    refine ⟨hplain, hfirst, ?_⟩
    rw [rowText, List.append_nil]
    exact hstream
  | cons cell rest =>
    obtain ⟨hplain', hskip', hline', hstream'⟩ := hplain.writeCell cell
    obtain ⟨hend, hskips, hrest⟩ := hplain'.writeCells hline' rest
    refine ⟨hend, hskips.trans (hskip'.trans hfirst), ?_⟩
    rw [List.foldl_cons, hrest, hstream', hstream, hline, rowText]
    simp [encodeUtf8, Utf8.encode_append]

theorem Plain.writeRows (h : Plain w) (hskip : w.skipStart = false)
    (rows : List (List (List Char))) :
    (w.writeTable rows).stream =
      w.stream ++ encodeUtf8 (rows.flatMap fun row => '\r' :: '\n' :: rowText row) := by
  induction rows generalizing w with
  | nil => exact (List.append_nil _).symm
  | cons row rest ih =>
    obtain ⟨hplain, hskip', hstream⟩ := h.writeRow (by simp [hskip]) row
    have hrest := ih hplain hskip'
    rw [hstream, hskip, List.append_assoc] at hrest
    refine hrest.trans ?_
    exact congrArg (w.stream ++ ·) (Utf8.encode_append _ _).symm

end CsvWriter

theorem stream_writeTable (table : List (List (List Char))) :
    (plainCsvWriter.writeTable table).stream = Utf8.encode (tableText table) := by
  cases table with
  | nil => rfl
  | cons row rest =>
    have hplain : plainCsvWriter.Plain := ⟨rfl, rfl, rfl⟩
    obtain ⟨hplain', hskip, hstream⟩ := hplain.writeRow (fun _ => rfl) row
    have hrest := hplain'.writeRows hskip rest
    rw [hstream] at hrest
    refine hrest.trans ?_
    exact (Utf8.encode_append (rowText row) _).symm

end ScadaCore.Base
