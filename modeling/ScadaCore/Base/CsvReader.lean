import ScadaCore.Base.CsvWriter

/-!
# Base.CsvReader — text as tables

A `CsvReader` reads a table row by row and cell by cell. It has one physical line at hand and
takes the next one from the stream for a new row, or in the middle of a cell in quotes, which
may have line breaks in it.

What a reader has still to read is a text, of which it has the first line already, without the
CR that may stand at its end. `Reads` says so, and the lemmas about it say how a reader goes
through a text, whatever its position in the line.
-/

namespace ScadaCore.Base

/-! ## The reader -/

def findFrom (text : List Char) (c : Char) (pos : Nat) : Option Nat :=
  ((text.drop pos).findIdx? (· = c)).map (pos + ·)

def substr (text : List Char) (pos count : Nat) : List Char := (text.drop pos).take count

structure CsvReader where
  stream : List UInt8
  signature : List Char := []
  separator : Char := ','
  line : List Char := []
  linePos : Nat := 0
  hasCells : Bool := false
  rowIndex : Nat := 0
  cellIndex : Nat := 1
deriving DecidableEq, Repr

namespace CsvReader

def dropCr (line : List Char) : List Char :=
  if line.getLast? = some '\r' then line.dropLast else line

/-- `ReadPhysicalLine`. At the end of the stream nothing changes. -/
def readPhysicalLine (r : CsvReader) : Option CsvReader :=
  match Lines.getline 10 r.stream with
  | none => none
  | some (rawLine, stream) =>
    some { r with
      stream
      line := replaceSubstringsAfterOffset (dropCr (Utf8.decode rawLine)) 0 ['\r', '\n'] ['\n']
      linePos := 0 }

def nextRow (r : CsvReader) : Bool × CsvReader :=
  let r := { r with rowIndex := r.rowIndex + 1, cellIndex := 0, linePos := 0 }
  match r.readPhysicalLine with
  | none => (false, r)
  | some r =>
    let r := { r with hasCells := true }
    if r.signature ≠ [] then
      match r.signature.isPrefixOf r.line, r.line[r.signature.length]? with
      | true, some separator => (true, { r with separator, signature := [] })
      | _, _ => (true, { r with signature := [] })
    else
      (true, r)

variable {r r' : CsvReader} {text : List Char} {c : Char} {pos : Nat}

theorem length_lt_of_readPhysicalLine (h : r.readPhysicalLine = some r') :
    r'.stream.length < r.stream.length := by
  unfold readPhysicalLine at h
  split at h
  · cases h
  · rename_i hline
    cases h
    exact Lines.length_lt_of_getline hline

theorem lt_of_findFrom {p : Nat} (h : findFrom text c pos = some p) :
    pos ≤ p ∧ p < text.length := by
  obtain ⟨i, hi, rfl⟩ := Option.map_eq_some_iff.mp h
  have hlt := (List.findIdx?_eq_some_iff_findIdx_eq.mp hi).1
  rw [List.length_drop] at hlt
  omega

/-- The loop of `NextCell` after an opening quote. It ends after the closing quote, or fails at
the end of the stream. -/
def readQuoted (r : CsvReader) (str : List Char) : Bool × List Char × CsvReader :=
  match _hquote : findFrom r.line '"' r.linePos with
  | none =>
    match _hline : r.readPhysicalLine with
    | none => (false, str ++ r.line.drop r.linePos, { r with hasCells := false })
    | some r' => readQuoted r' (str ++ r.line.drop r.linePos ++ ['\n'])
  | some p =>
    if _hnext : r.line[p + 1]? = some '"' then
      readQuoted { r with linePos := p + 2 } (str ++ substr r.line r.linePos (p - r.linePos) ++ ['"'])
    else
      (true, str ++ substr r.line r.linePos (p - r.linePos), { r with linePos := p + 1 })
termination_by (r.stream.length, r.line.length - r.linePos)
decreasing_by
  · exact Prod.Lex.left _ _ (length_lt_of_readPhysicalLine _hline)
  · refine Prod.Lex.right _ ?_
    have hbounds := lt_of_findFrom _hquote
    obtain ⟨hlt, -⟩ := List.getElem?_eq_some_iff.mp _hnext
    omega

def nextCell (r : CsvReader) : Bool × List Char × CsvReader :=
  if r.hasCells = false then (false, [], r)
  else
    let r := { r with cellIndex := r.cellIndex + 1 }
    if r.line[r.linePos]? = some '"' then
      match readQuoted { r with linePos := r.linePos + 1 } [] with
      | (false, str, r) => (false, str, r)
      | (true, str, r) =>
        match findFrom r.line r.separator r.linePos with
        | none =>
          (true, str ++ r.line.drop r.linePos,
            { r with linePos := r.line.length, hasCells := false })
        | some sep =>
          (true, str ++ substr r.line r.linePos (sep - r.linePos), { r with linePos := sep + 1 })
    else
      match findFrom r.line r.separator r.linePos with
      | none => (true, r.line.drop r.linePos, { r with hasCells := false })
      | some p => (true, substr r.line r.linePos (p - r.linePos), { r with linePos := p + 1 })

/-- `NextCell` until there is no more, with a bound on the number of cells. -/
def readCells : Nat → CsvReader → Option (List (List Char) × CsvReader)
  | 0, _ => none
  | fuel + 1, r =>
    match r.nextCell with
    | (false, _, r) => some ([], r)
    | (true, str, r) => (readCells fuel r).map fun (cells, r) => (str :: cells, r)

/-- `NextRow` until there is no more, and the cells of every row. -/
def readTable : Nat → CsvReader → Option (List (List (List Char)))
  | 0, _ => none
  | fuel + 1, r =>
    match r.nextRow with
    | (false, _) => some []
    | (true, r) => do
      let (cells, r) ← readCells fuel r
      let rows ← readTable fuel r
      return cells :: rows

/-! ## What is still to be read -/

/-- What a reader has still to read. The line at hand is without the CR at its end. -/
def Reads (r : CsvReader) (text : List Char) : Prop :=
  ∃ raw, '\n' ∉ raw ∧ r.line.drop r.linePos = dropCr raw ∧
    (text = raw ∧ r.stream = [] ∨
      ∃ more, text = raw ++ '\n' :: more ∧ r.stream = Utf8.encode more)

theorem dropCr_cons {rest : List Char} (h : c = '\r' → rest ≠ []) :
    dropCr (c :: rest) = c :: dropCr rest := by
  unfold dropCr
  cases rest with
  | nil =>
    have hc : c ≠ '\r' := fun hno => h hno rfl
    simp [hc]
  | cons d rest =>
    rw [List.getLast?_cons_cons, List.dropLast_cons_cons]
    split_ifs <;> rfl

theorem dropCr_isPrefix (line : List Char) : dropCr line <+: line := by
  unfold dropCr
  split_ifs
  · exact List.dropLast_prefix line
  · exact List.prefix_refl line

theorem Reads.isPrefix (h : r.Reads text) : r.line.drop r.linePos <+: text := by
  obtain ⟨raw, -, hline, ⟨rfl, -⟩ | ⟨more, rfl, -⟩⟩ := h
  · rw [hline]
    exact dropCr_isPrefix text
  · rw [hline]
    exact (dropCr_isPrefix raw).trans (List.prefix_append raw _)

theorem Reads.getElem? (h : r.Reads text) (hc : r.line[r.linePos]? = some c) :
    text.head? = some c := by
  obtain ⟨rest, hrest⟩ := h.isPrefix
  rw [← List.head?_drop] at hc
  rw [← hrest, List.head?_append, hc]
  rfl

theorem Reads.cons (h : r.Reads (c :: text)) (hlf : c ≠ '\n')
    (hcr : c = '\r' → ∃ d rest, text = d :: rest ∧ d ≠ '\n') :
    r.line[r.linePos]? = some c ∧ { r with linePos := r.linePos + 1 }.Reads text := by
  have hnext : ∀ raw : List Char, (c = '\r' → raw ≠ []) → r.line.drop r.linePos = dropCr (c :: raw) →
      r.line[r.linePos]? = some c ∧ r.line.drop (r.linePos + 1) = dropCr raw := by
    intro raw hne hline
    rw [dropCr_cons hne] at hline
    constructor
    · rw [← List.head?_drop, hline]
      rfl
    · rw [← List.tail_drop, hline]
      rfl
  obtain ⟨raw, hraw, hline, ⟨rfl, hstream⟩ | ⟨more, htext, hstream⟩⟩ := h
  · have hne : c = '\r' → text ≠ [] := by
      intro heq hno
      obtain ⟨d, rest, hrest, -⟩ := hcr heq
      cases hrest.symm.trans hno
    obtain ⟨hhead, htail⟩ := hnext text hne hline
    exact ⟨hhead, text, fun hno => hraw (List.mem_cons_of_mem c hno), htail, .inl ⟨rfl, hstream⟩⟩
  · cases raw with
    | nil =>
      cases htext
      exact absurd rfl hlf
    | cons c' raw =>
      cases htext
      have hne : c = '\r' → raw ≠ [] := by
        rintro heq rfl
        obtain ⟨d, rest, hrest, hd⟩ := hcr heq
        cases hrest
        exact hd rfl
      obtain ⟨hhead, htail⟩ := hnext raw hne hline
      exact ⟨hhead, raw, fun hno => hraw (List.mem_cons_of_mem c hno), htail,
        .inr ⟨more, rfl, hstream⟩⟩

theorem Reads.lf (h : r.Reads ('\n' :: text)) :
    r.line.drop r.linePos = [] ∧ r.stream = Utf8.encode text := by
  obtain ⟨raw, hraw, hline, ⟨rfl, -⟩ | ⟨more, htext, hstream⟩⟩ := h
  · exact absurd List.mem_cons_self hraw
  · cases raw with
    | nil =>
      cases htext
      exact ⟨hline, hstream⟩
    | cons c raw =>
      cases htext
      exact absurd List.mem_cons_self hraw

theorem Reads.crlf (h : r.Reads ('\r' :: '\n' :: text)) :
    r.line.drop r.linePos = [] ∧ r.stream = Utf8.encode text := by
  obtain ⟨raw, hraw, hline, ⟨rfl, -⟩ | ⟨more, htext, hstream⟩⟩ := h
  · simp at hraw
  · rcases raw with _ | ⟨c, _ | ⟨d, raw⟩⟩
    · cases htext
    · cases htext
      exact ⟨hline, hstream⟩
    · cases htext
      simp at hraw

theorem Reads.nil (h : r.Reads []) : r.line.drop r.linePos = [] ∧ r.stream = [] := by
  obtain ⟨raw, -, hline, ⟨rfl, hstream⟩ | ⟨more, htext, -⟩⟩ := h
  · exact ⟨hline, hstream⟩
  · simp at htext

theorem replaceSubstrings_of_notMem {findThis replaceWith : List Char} (hfind : c ∈ findThis)
    (htext : c ∉ text) : replaceSubstrings findThis replaceWith 0 text = text := by
  induction text with
  | nil => rfl
  | cons d rest ih =>
    have hprefix : findThis.isPrefixOf (d :: rest) = false := by
      by_contra hno
      have hsub : findThis <+: d :: rest := by simpa using hno
      exact htext (hsub.subset hfind)
    rw [replaceSubstrings, hprefix, ih (fun hno => htext (List.mem_cons_of_mem d hno))]
    rfl

theorem exists_readPhysicalLine (htext : text ≠ []) (hstream : r.stream = Utf8.encode text) :
    ∃ stream line, r.readPhysicalLine = some { r with stream, line, linePos := 0 } ∧
      { r with stream, line, linePos := 0 }.Reads text := by
  have hline : ∀ raw : List Char, '\n' ∉ raw →
      replaceSubstringsAfterOffset (dropCr (Utf8.decode (Utf8.encode raw))) 0 ['\r', '\n'] ['\n'] =
        dropCr raw := by
    intro raw hraw
    have hnone : '\n' ∉ dropCr raw := fun hno => hraw ((dropCr_isPrefix raw).subset hno)
    rw [Utf8.decode_encode]
    exact replaceSubstrings_of_notMem (c := '\n') (by decide) hnone
  unfold readPhysicalLine
  rw [hstream]
  by_cases hlf : '\n' ∈ text
  · obtain ⟨raw, more, rfl, hraw⟩ := List.eq_append_cons_of_mem hlf
    have hget : Lines.getline 10 (Utf8.encode (raw ++ '\n' :: more)) =
        some (Utf8.encode raw, Utf8.encode more) := by
      rw [Utf8.encode_append]
      exact Lines.getline_append (Utf8.lf_notMem_encode hraw) _
    rw [hget]
    exact ⟨_, _, rfl, raw, hraw, hline raw hraw, .inr ⟨more, rfl, rfl⟩⟩
  · rw [Lines.getline_last (Utf8.lf_notMem_encode hlf) (Utf8.encode_ne_nil htext)]
    exact ⟨_, _, rfl, text, hlf, hline text hlf, .inl ⟨rfl, rfl⟩⟩

/-! ## The loop, one character at a time -/

theorem findFrom_of_getElem? (h : text[pos]? = some c) : findFrom text c pos = some pos := by
  obtain ⟨hlt, rfl⟩ := List.getElem?_eq_some_iff.mp h
  rw [findFrom, List.drop_eq_getElem_cons hlt, List.findIdx?_cons]
  simp

theorem findFrom_succ {d : Char} (h : text[pos]? = some d) (hne : d ≠ c) :
    findFrom text c pos = findFrom text c (pos + 1) := by
  obtain ⟨hlt, rfl⟩ := List.getElem?_eq_some_iff.mp h
  rw [findFrom, List.drop_eq_getElem_cons hlt, List.findIdx?_cons, if_neg (by simpa using hne),
    Option.map_map, findFrom]
  congr 1
  funext i
  exact (Nat.add_right_comm pos 1 i).symm

theorem findFrom_of_drop (h : text.drop pos = []) (c : Char) : findFrom text c pos = none := by
  rw [findFrom, h]
  rfl

theorem substr_succ (h : text[pos]? = some c) (count : Nat) :
    substr text pos (count + 1) = c :: substr text (pos + 1) count := by
  obtain ⟨hlt, rfl⟩ := List.getElem?_eq_some_iff.mp h
  rw [substr, List.drop_eq_getElem_cons hlt]
  rfl

variable {str : List Char}

theorem readQuoted_eq (r : CsvReader) (str : List Char) :
    readQuoted r str =
      match findFrom r.line '"' r.linePos with
      | none =>
        match r.readPhysicalLine with
        | none => (false, str ++ r.line.drop r.linePos, { r with hasCells := false })
        | some r' => readQuoted r' (str ++ r.line.drop r.linePos ++ ['\n'])
      | some p =>
        if r.line[p + 1]? = some '"' then
          readQuoted { r with linePos := p + 2 }
            (str ++ substr r.line r.linePos (p - r.linePos) ++ ['"'])
        else
          (true, str ++ substr r.line r.linePos (p - r.linePos), { r with linePos := p + 1 }) := by
  rw [readQuoted]
  split
  · rename_i hfind
    rw [hfind]
    split
    · rename_i hread
      rw [hread]
    · rename_i hread
      rw [hread]
  · rename_i hfind
    rw [hfind]
    dsimp only
    split_ifs <;> rfl

theorem readQuoted_char (hc : r.line[r.linePos]? = some c) (hne : c ≠ '"') {cell : List Char}
    (h : readQuoted { r with linePos := r.linePos + 1 } (str ++ [c]) = (true, cell, r')) :
    readQuoted r str = (true, cell, r') := by
  have hfind := findFrom_succ hc hne
  rw [readQuoted_eq] at h ⊢
  dsimp only at h
  cases hp : findFrom r.line '"' (r.linePos + 1) with
  | none =>
    rw [hfind, hp]
    rw [hp] at h
    have hread : { r with linePos := r.linePos + 1 }.readPhysicalLine = r.readPhysicalLine := rfl
    have hdrop : str ++ r.line.drop r.linePos = str ++ [c] ++ r.line.drop (r.linePos + 1) := by
      obtain ⟨hlt, heq⟩ := List.getElem?_eq_some_iff.mp hc
      rw [List.drop_eq_getElem_cons hlt, heq, List.append_assoc]
      rfl
    rw [hread] at h
    rw [hdrop]
    cases hline : r.readPhysicalLine with
    | none =>
      rw [hline] at h
      cases h
    | some r'' =>
      rw [hline] at h
      exact h
  | some p =>
    rw [hfind, hp]
    rw [hp] at h
    have hcount : p - r.linePos = p - (r.linePos + 1) + 1 := by
      have hlt := (lt_of_findFrom hp).1
      omega
    have hsub : str ++ substr r.line r.linePos (p - r.linePos) =
        str ++ [c] ++ substr r.line (r.linePos + 1) (p - (r.linePos + 1)) := by
      rw [hcount, substr_succ hc, List.append_assoc]
      rfl
    dsimp only
    rw [hsub]
    exact h

theorem readQuoted_double (hquote : r.line[r.linePos]? = some '"')
    (hnext : r.line[r.linePos + 1]? = some '"') :
    readQuoted r str = readQuoted { r with linePos := r.linePos + 2 } (str ++ ['"']) := by
  rw [readQuoted_eq, findFrom_of_getElem? hquote]
  dsimp only
  rw [if_pos hnext, Nat.sub_self, substr, List.take_zero, List.append_nil]

theorem readQuoted_close (hquote : r.line[r.linePos]? = some '"')
    (hnext : r.line[r.linePos + 1]? ≠ some '"') :
    readQuoted r str = (true, str, { r with linePos := r.linePos + 1 }) := by
  rw [readQuoted_eq, findFrom_of_getElem? hquote]
  dsimp only
  rw [if_neg hnext, Nat.sub_self, substr, List.take_zero, List.append_nil]

theorem readQuoted_line (hline : r.line.drop r.linePos = [])
    (hread : r.readPhysicalLine = some r') : readQuoted r str = readQuoted r' (str ++ ['\n']) := by
  rw [readQuoted_eq, findFrom_of_drop hline, hread]
  dsimp only
  rw [hline, List.append_nil]

/-! ## The two kinds of cells -/

theorem nextCell_quoted (hcells : r.hasCells = true) (hquote : r.line[r.linePos]? = some '"')
    (hread : readQuoted { r with linePos := r.linePos + 1, cellIndex := r.cellIndex + 1 } [] =
      (true, str, r')) :
    r.nextCell =
      match findFrom r'.line r'.separator r'.linePos with
      | none =>
        (true, str ++ r'.line.drop r'.linePos,
          { r' with linePos := r'.line.length, hasCells := false })
      | some sep =>
        (true, str ++ substr r'.line r'.linePos (sep - r'.linePos),
          { r' with linePos := sep + 1 }) := by
  unfold nextCell
  rw [if_neg (by simp [hcells])]
  dsimp only
  rw [if_pos hquote, hread]

theorem nextCell_plain (hcells : r.hasCells = true) (hquote : r.line[r.linePos]? ≠ some '"') :
    r.nextCell =
      match findFrom r.line r.separator r.linePos with
      | none =>
        (true, r.line.drop r.linePos,
          { r with cellIndex := r.cellIndex + 1, hasCells := false })
      | some p =>
        (true, substr r.line r.linePos (p - r.linePos),
          { r with cellIndex := r.cellIndex + 1, linePos := p + 1 }) := by
  unfold nextCell
  rw [if_neg (by simp [hcells])]
  dsimp only
  rw [if_neg hquote]

end CsvReader

end ScadaCore.Base
