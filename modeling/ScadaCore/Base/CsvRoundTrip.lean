import ScadaCore.Base.CsvReader
import Mathlib.Algebra.Ring.Nat

/-!
# Base.CsvRoundTrip — what is written is read

A `CsvReader` gets back the table that a `CsvWriter` has written, except for a CR LF in a cell,
of which the LF is left: `csv_roundTrip`. A last row that has one empty cell only is not there
in the text.
-/

namespace ScadaCore.Base

def crlfToLf : List Char → List Char
  | '\r' :: '\n' :: rest => '\n' :: crlfToLf rest
  | c :: rest => c :: crlfToLf rest
  | [] => []

theorem crlfToLf_of_notMem {text : List Char} (h : '\r' ∉ text) : crlfToLf text = text := by
  fun_induction crlfToLf text with
  | case1 rest => exact absurd List.mem_cons_self h
  | case2 c rest _ ih => rw [ih (fun hno => h (List.mem_cons_of_mem c hno))]
  | case3 => rfl

namespace CsvReader

/-- A reader that was made without a signature. -/
structure Unsigned (r : CsvReader) : Prop where
  signature : r.signature = []
  separator : r.separator = ','

/-- The rest of a text after a row, and the stream after it. -/
def EndsRow (text : List Char) (stream : List UInt8) : Prop :=
  text = [] ∧ stream = [] ∨ ∃ more, text = '\r' :: '\n' :: more ∧ stream = Utf8.encode more

/-! ## Cells -/

variable {r : CsvReader} {cell text : List Char} {stream : List UInt8}

theorem exists_readQuoted (str : List Char) (h : r.Reads (doubled cell ++ '"' :: text))
    (htext : text.head? ≠ some '"') :
    ∃ stream line linePos,
      readQuoted r str = (true, str ++ crlfToLf cell, { r with stream, line, linePos }) ∧
        { r with stream, line, linePos }.Reads text := by
  fun_induction crlfToLf cell generalizing r str with
  | case1 rest ih =>
    obtain ⟨hline, hstream⟩ := h.crlf
    obtain ⟨stream, line, hread, hreads⟩ := exists_readPhysicalLine (by simp) hstream
    obtain ⟨stream', line', linePos', hquoted, hrest⟩ := ih (str ++ ['\n']) hreads
    refine ⟨stream', line', linePos', ?_, hrest⟩
    rw [readQuoted_line hline hread, hquoted, List.append_assoc]
    rfl
  | case2 c rest hcrlf ih =>
    by_cases hquote : c = '"'
    · subst hquote
      obtain ⟨hfirst, hrest⟩ := h.cons (by decide) (by simp)
      obtain ⟨hsecond, hrest⟩ := hrest.cons (by decide) (by simp)
      obtain ⟨stream, line, linePos, hquoted, hend⟩ := ih (str ++ ['"']) hrest
      refine ⟨stream, line, linePos, ?_, hend⟩
      rw [readQuoted_double hfirst hsecond]
      refine hquoted.trans ?_
      rw [List.append_assoc]
      rfl
    · rw [doubled, if_neg hquote] at h
      by_cases hlf : c = '\n'
      · subst hlf
        obtain ⟨hline, hstream⟩ := h.lf
        obtain ⟨stream, line, hread, hreads⟩ := exists_readPhysicalLine (by simp) hstream
        obtain ⟨stream', line', linePos', hquoted, hrest⟩ := ih (str ++ ['\n']) hreads
        refine ⟨stream', line', linePos', ?_, hrest⟩
        rw [readQuoted_line hline hread, hquoted, List.append_assoc]
        rfl
      · -- a CR is at hand too, since no LF comes after it
        have hcr : c = '\r' → ∃ d more, doubled rest ++ '"' :: text = d :: more ∧ d ≠ '\n' := by
          intro heq
          cases rest with
          | nil => exact ⟨'"', text, rfl, by decide⟩
          | cons d rest =>
            rw [doubled]
            split_ifs with hd
            · exact ⟨'"', _, rfl, by decide⟩
            · exact ⟨d, _, rfl, fun hno => hcrlf rest heq (by rw [hno])⟩
        obtain ⟨hchar, hrest⟩ := h.cons hlf hcr
        obtain ⟨stream, line, linePos, hquoted, hend⟩ := ih (str ++ [c]) hrest
        refine ⟨stream, line, linePos, readQuoted_char hchar hquote ?_, hend⟩
        refine hquoted.trans ?_
        rw [List.append_assoc]
        rfl
  | case3 =>
    obtain ⟨hquote, hrest⟩ := h.cons (by decide) (by simp)
    have hnext : r.line[r.linePos + 1]? ≠ some '"' := fun hno => htext (hrest.getElem? hno)
    refine ⟨_, _, _, ?_, hrest⟩
    rw [readQuoted_close hquote hnext, List.append_nil]

theorem Reads.plain {c : Char} (h : r.Reads (c :: text)) (hc : ¬ Special c) :
    r.line[r.linePos]? = some c ∧ { r with linePos := r.linePos + 1 }.Reads text :=
  h.cons (fun hno => hc (.inr (.inl hno))) (fun hno => absurd (.inl hno) hc)

theorem Reads.skip (hcell : ∀ c ∈ cell, ¬ Special c) (h : r.Reads (cell ++ text)) :
    findFrom r.line ',' r.linePos = findFrom r.line ',' (r.linePos + cell.length) ∧
      r.line.drop r.linePos = cell ++ r.line.drop (r.linePos + cell.length) ∧
      { r with linePos := r.linePos + cell.length }.Reads text := by
  induction cell generalizing r with
  | nil => exact ⟨rfl, rfl, h⟩
  | cons c cell ih =>
    obtain ⟨hc, hcells⟩ := List.forall_mem_cons.mp hcell
    obtain ⟨hchar, hrest⟩ := h.plain hc
    obtain ⟨hfind, hdrop, hend⟩ := ih hcells hrest
    have hindex : r.linePos + 1 + cell.length = r.linePos + (c :: cell).length :=
      Nat.add_right_comm r.linePos 1 cell.length
    rw [hindex] at hfind hdrop hend
    refine ⟨?_, ?_, hend⟩
    · rw [findFrom_succ hchar (fun hno => hc (.inr (.inr (.inl hno))))]
      exact hfind
    · obtain ⟨hlt, heq⟩ := List.getElem?_eq_some_iff.mp hchar
      rw [List.drop_eq_getElem_cons hlt, heq]
      exact congrArg (c :: ·) hdrop

theorem getElem?_ne_quote (hcell : ∀ c ∈ cell, ¬ Special c) (h : r.Reads (cell ++ text))
    (htext : text.head? ≠ some '"') : r.line[r.linePos]? ≠ some '"' := by
  intro hno
  have hhead := h.getElem? hno
  cases cell with
  | nil => exact htext hhead
  | cons c cell =>
    obtain rfl := Option.some.inj hhead
    exact hcell '"' List.mem_cons_self (.inr (.inr (.inr rfl)))

theorem crlfToLf_of_not_special (hcell : ∀ c ∈ cell, ¬ Special c) : crlfToLf cell = cell :=
  crlfToLf_of_notMem (fun hno => hcell '\r' hno (.inl rfl))

section

variable (hr : r.Unsigned) (hcells : r.hasCells = true)

include hr hcells

/-- `NextCell` reads a cell. It passes the comma after it, or finds that it was the last. -/
theorem exists_nextCell (h : r.Reads (cellText cell ++ text)) (htext : text.head? ≠ some '"') :
    ∃ r' : CsvReader, r'.Unsigned ∧ r'.hasCells = true ∧ r'.Reads text ∧
      (r'.line[r'.linePos]? = some r'.separator →
        r.nextCell = (true, crlfToLf cell, { r' with linePos := r'.linePos + 1 })) ∧
      (r'.line.drop r'.linePos = [] →
        ∃ linePos, r.nextCell = (true, crlfToLf cell, { r' with linePos, hasCells := false })) := by
  rcases cellText_spec cell with hquoted | ⟨hplain, hcell⟩
  · rw [hquoted, List.append_assoc] at h
    obtain ⟨hquote, hrest⟩ := h.cons (by decide) (by simp)
    obtain ⟨stream, line, linePos, hread, hreads⟩ := exists_readQuoted
      (r := { r with linePos := r.linePos + 1, cellIndex := r.cellIndex + 1 }) [] hrest htext
    have hnext := nextCell_quoted hcells hquote hread
    dsimp only at hnext
    refine ⟨{ r with stream, line, linePos, cellIndex := r.cellIndex + 1 },
      ⟨hr.signature, hr.separator⟩, hcells, hreads, ?_, ?_⟩
    · intro hcomma
      rw [hnext, findFrom_of_getElem? hcomma]
      simp [substr]
    · intro hend
      refine ⟨line.length, ?_⟩
      dsimp only at hend
      rw [hnext, findFrom_of_drop hend]
      dsimp only
      rw [hend, List.append_nil, List.nil_append]
  · rw [hplain] at h
    obtain ⟨hfind, hdrop, hreads⟩ := h.skip hcell
    have hnext := nextCell_plain hcells (getElem?_ne_quote hcell h htext)
    rw [← hr.separator] at hfind
    rw [hfind] at hnext
    refine ⟨{ r with cellIndex := r.cellIndex + 1, linePos := r.linePos + cell.length },
      ⟨hr.signature, hr.separator⟩, hcells, hreads, ?_, ?_⟩
    · intro hcomma
      rw [hnext, findFrom_of_getElem? hcomma, crlfToLf_of_not_special hcell]
      dsimp only
      rw [substr, Nat.add_sub_cancel_left, hdrop, List.take_left]
    · intro hend
      refine ⟨r.linePos, ?_⟩
      dsimp only at hend
      rw [hnext, findFrom_of_drop hend, crlfToLf_of_not_special hcell]
      dsimp only
      rw [hdrop, hend, List.append_nil]

theorem exists_nextCell_comma (h : r.Reads (cellText cell ++ ',' :: text)) :
    ∃ r', r.nextCell = (true, crlfToLf cell, r') ∧ r'.Unsigned ∧ r'.hasCells = true ∧
      r'.Reads text := by
  obtain ⟨r', hr', hcells', hreads, hcomma, -⟩ := exists_nextCell hr hcells h (by simp)
  obtain ⟨hchar, hrest⟩ := hreads.cons (by decide) (by simp)
  rw [← hr'.separator] at hchar
  exact ⟨_, hcomma hchar, ⟨hr'.signature, hr'.separator⟩, hcells', hrest⟩

theorem exists_nextCell_last (hend : EndsRow text stream) (h : r.Reads (cellText cell ++ text)) :
    ∃ r', r.nextCell = (true, crlfToLf cell, r') ∧ r'.Unsigned ∧ r'.hasCells = false ∧
      r'.stream = stream := by
  have htext : text.head? ≠ some '"' := by
    rcases hend with ⟨rfl, -⟩ | ⟨more, rfl, -⟩ <;> simp
  obtain ⟨r', hr', -, hreads, -, hlast⟩ := exists_nextCell hr hcells h htext
  have hline : r'.line.drop r'.linePos = [] ∧ r'.stream = stream := by
    rcases hend with ⟨rfl, rfl⟩ | ⟨more, rfl, rfl⟩
    · exact hreads.nil
    · exact hreads.crlf
  obtain ⟨linePos, hnext⟩ := hlast hline.1
  exact ⟨_, hnext, ⟨hr'.signature, hr'.separator⟩, rfl, hline.2⟩

/-! ## Rows and tables -/

theorem exists_readCells {cells : List (List Char)} (hend : EndsRow text stream)
    (h : r.Reads (rowText (cell :: cells) ++ text)) {fuel : Nat} (hfuel : cells.length + 1 < fuel) :
    ∃ r', readCells fuel r = some ((cell :: cells).map crlfToLf, r') ∧ r'.Unsigned ∧
      r'.stream = stream := by
  induction cells generalizing r cell fuel with
  | nil =>
    obtain ⟨fuel, rfl⟩ : ∃ n, fuel = n + 2 := ⟨fuel - 2, by simp at hfuel; omega⟩
    rw [rowText, List.flatMap_nil, List.append_nil] at h
    obtain ⟨r', hcell, hr', hno, hstream⟩ := exists_nextCell_last hr hcells hend h
    refine ⟨r', ?_, hr', hstream⟩
    have hlast : r'.nextCell = (false, [], r') := if_pos hno
    rw [readCells, hcell]
    dsimp only
    rw [readCells, hlast]
    rfl
  | cons next rest ih =>
    obtain ⟨fuel, rfl⟩ : ∃ n, fuel = n + 1 := ⟨fuel - 1, by omega⟩
    have hrow : rowText (cell :: next :: rest) ++ text =
        cellText cell ++ ',' :: (rowText (next :: rest) ++ text) := by
      simp [rowText]
    rw [hrow] at h
    obtain ⟨r', hcell, hr', hcells', hreads⟩ := exists_nextCell_comma hr hcells h
    obtain ⟨r'', hrest, hr'', hstream⟩ := ih hr' hcells' hreads (by simpa using hfuel)
    refine ⟨r'', ?_, hr'', hstream⟩
    rw [readCells, hcell]
    dsimp only
    rw [hrest]
    rfl

end

theorem exists_nextRow (hr : r.Unsigned) (htext : text ≠ [])
    (hstream : r.stream = Utf8.encode text) :
    ∃ r', r.nextRow = (true, r') ∧ r'.Unsigned ∧ r'.hasCells = true ∧ r'.Reads text := by
  obtain ⟨stream, line, hread, hreads⟩ := exists_readPhysicalLine
    (r := { r with rowIndex := r.rowIndex + 1, cellIndex := 0, linePos := 0 }) htext hstream
  refine ⟨{ r with
      stream, line, linePos := 0, rowIndex := r.rowIndex + 1, cellIndex := 0, hasCells := true },
    ?_, ⟨hr.signature, hr.separator⟩, rfl, hreads⟩
  unfold nextRow
  dsimp only
  rw [hread]
  dsimp only
  rw [if_neg (by simp [hr.signature])]

theorem nextRow_end (hstream : r.stream = []) : ∃ r', r.nextRow = (false, r') := by
  unfold nextRow readPhysicalLine
  dsimp only
  rw [hstream]
  exact ⟨_, rfl⟩

end CsvReader

/-- After a row comes the end of the text, or the rest of the table in a new line. -/
theorem exists_tableText_cons (row : List (List Char)) (rest : List (List (List Char))) :
    ∃ text, tableText (row :: rest) = rowText row ++ text ∧
      CsvReader.EndsRow text (Utf8.encode (tableText rest)) := by
  cases rest with
  | nil => exact ⟨[], rfl, .inl ⟨rfl, rfl⟩⟩
  | cons next rest =>
    refine ⟨'\r' :: '\n' :: tableText (next :: rest), ?_, .inr ⟨_, rfl, rfl⟩⟩
    simp [tableText]

theorem cellText_eq_nil {cell : List Char} (h : cellText cell = []) : cell = [] := by
  rcases cellText_spec cell with hquoted | ⟨hplain, -⟩
  · rw [hquoted] at h
    cases h
  · exact hplain ▸ h

theorem rowText_ne_nil {row : List (List Char)} (hrow : row ≠ []) (hempty : row ≠ [[]]) :
    rowText row ≠ [] := by
  intro hno
  cases row with
  | nil => exact hrow rfl
  | cons cell rest =>
    obtain ⟨hcell, hrest⟩ := List.append_eq_nil_iff.mp hno
    cases rest with
    | nil => exact hempty (by rw [cellText_eq_nil hcell])
    | cons next rest => cases hrest

theorem tableText_ne_nil {row : List (List Char)} {rest : List (List (List Char))} (hrow : row ≠ [])
    (hlast : (row :: rest).getLast? ≠ some [[]]) : tableText (row :: rest) ≠ [] := by
  intro hno
  obtain ⟨hfirst, hmore⟩ := List.append_eq_nil_iff.mp hno
  cases rest with
  | nil => exact rowText_ne_nil hrow (fun heq => hlast (by rw [heq]; rfl)) hfirst
  | cons next rest => cases hmore

def readSteps (table : List (List (List Char))) : Nat := (table.map fun row => row.length + 1).sum

theorem CsvReader.readTable_tableText {r : CsvReader} {table : List (List (List Char))}
    (hr : r.Unsigned) (hcells : ∀ row ∈ table, row ≠ []) (hlast : table.getLast? ≠ some [[]])
    (hstream : r.stream = Utf8.encode (tableText table)) {fuel : Nat}
    (hfuel : readSteps table < fuel) :
    readTable fuel r = some (table.map fun row => row.map crlfToLf) := by
  induction table generalizing r fuel with
  | nil =>
    obtain ⟨fuel, rfl⟩ : ∃ n, fuel = n + 1 := ⟨fuel - 1, by omega⟩
    obtain ⟨r', hnext⟩ := nextRow_end hstream
    rw [readTable, hnext]
    rfl
  | cons row rest ih =>
    obtain ⟨fuel, rfl⟩ : ∃ n, fuel = n + 1 := ⟨fuel - 1, by omega⟩
    obtain ⟨hrow, hrows⟩ := List.forall_mem_cons.mp hcells
    have hsteps : readSteps (row :: rest) = row.length + 1 + readSteps rest := List.sum_cons
    have hrest : rest.getLast? ≠ some [[]] := by
      cases rest with
      | nil => simp
      | cons next rest => exact hlast
    obtain ⟨r₁, hnext, hr₁, hcells₁, hreads⟩ :=
      exists_nextRow hr (tableText_ne_nil hrow hlast) hstream
    obtain ⟨text, htext, hend⟩ := exists_tableText_cons row rest
    rw [htext] at hreads
    obtain ⟨cell, cells, rfl⟩ := List.exists_cons_of_ne_nil hrow
    have hfuel' : (cell :: cells).length < fuel ∧ readSteps rest < fuel := by omega
    obtain ⟨r₂, hread, hr₂, hstream₂⟩ := exists_readCells hr₁ hcells₁ hend hreads hfuel'.1
    have htable := ih hr₂ hrows hrest hstream₂ hfuel'.2
    rw [readTable, hnext]
    dsimp only
    rw [hread]
    show (readTable fuel r₂).bind _ = _
    rw [htable]
    rfl

/-- A table that is written is read again, with the same rows and cells, in which every CR LF is
an LF. -/
theorem csv_roundTrip (table : List (List (List Char))) (hcells : ∀ row ∈ table, row ≠ [])
    (hlast : table.getLast? ≠ some [[]]) :
    ∀ fuel, readSteps table < fuel →
      CsvReader.readTable fuel { stream := (plainCsvWriter.writeTable table).stream } =
        some (table.map fun row => row.map crlfToLf) := by
  intro fuel hfuel
  exact CsvReader.readTable_tableText ⟨rfl, rfl⟩ hcells hlast (stream_writeTable table) hfuel

/-- Two rows with separators, quotes and line breaks, and empty cells. -/
theorem csv_roundTrip_quoted :
    CsvReader.readTable 20
      { stream := (plainCsvWriter.writeTable
        [[['a', ',', '"'], []], [[]], [[], ['\r', '\r', '\n', '\n', ' ']]]).stream } =
      some [[['a', ',', '"'], []], [[]], [[], ['\r', '\n', '\n', ' ']]] :=
  csv_roundTrip [[['a', ',', '"'], []], [[]], [[], ['\r', '\r', '\n', '\n', ' ']]]
    (by decide) (by decide) 20 (by decide)

end ScadaCore.Base
