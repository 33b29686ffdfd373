import Mathlib.Data.List.TakeWhile

/-!
# Data.Utf8 — text as bytes, and its lines

A text is a list of characters, whatever its encoding in memory. `encode` and `decode` go to
UTF-8 and back. A line feed is a byte of its own in UTF-8, so that it is all the same whether a
text is split into lines or its bytes are.
-/

namespace Utf8

def encode (text : List Char) : List UInt8 := text.flatMap String.utf8EncodeChar

/-- There is no text for bytes that are not UTF-8. -/
def decode (bytes : List UInt8) : List Char :=
  match bytes.toByteArray.utf8Decode? with
  | some text => text.toList
  | none => []

theorem encode_append (a b : List Char) : encode (a ++ b) = encode a ++ encode b :=
  List.flatMap_append

@[simp] theorem decode_encode (text : List Char) : decode (encode text) = text := by
  have h : (encode text).toByteArray.utf8Decode? = some text.toArray := List.utf8Decode?_utf8Encode
  rw [decode, h]

theorem lf_notMem_encodeChar {c : Char} (h : c ≠ '\n') : (10 : UInt8) ∉ String.utf8EncodeChar c := by
  have hval : c.val.toNat ≠ 10 := fun hno => h (Char.ext (UInt32.toNat_inj.mp hno))
  have htoNat : c.toNat = c.val.toNat := rfl
  unfold String.utf8EncodeChar
  dsimp only
  split_ifs <;> simp [← UInt8.toNat_inj] <;> omega

theorem lf_notMem_encode {text : List Char} (h : '\n' ∉ text) : (10 : UInt8) ∉ encode text := by
  intro hmem
  obtain ⟨c, hc, hlf⟩ := List.mem_flatMap.mp hmem
  exact lf_notMem_encodeChar (fun heq => h (heq ▸ hc)) hlf

theorem encode_ne_nil {text : List Char} (h : text ≠ []) : encode text ≠ [] := by
  intro hno
  apply h
  rw [← decode_encode text, hno]
  exact decode_encode []

end Utf8

namespace Lines

variable {α : Type*} [DecidableEq α] {lf : α}

/-- Takes a line from a stream: what comes before the next line feed, which is dropped. -/
def getline (lf : α) (stream : List α) : Option (List α × List α) :=
  if stream = [] then none
  else some (stream.takeWhile (· ≠ lf), (stream.dropWhile (· ≠ lf)).tail)

theorem length_lt_of_getline {stream line rest : List α} (h : getline lf stream = some (line, rest)) :
    rest.length < stream.length := by
  unfold getline at h
  split_ifs at h with hne
  cases h
  have hlength := (List.dropWhile_sublist (fun c => decide (c ≠ lf)) (l := stream)).length_le
  have hpos : 0 < stream.length := List.length_pos_iff.mpr hne
  rw [List.length_tail]
  omega

theorem getline_append {line : List α} (h : lf ∉ line) (rest : List α) :
    getline lf (line ++ lf :: rest) = some (line, rest) := by
  have hline : ∀ c ∈ line, decide (c ≠ lf) = true := fun c hc =>
    decide_eq_true (fun heq => h (heq ▸ hc))
  rw [getline, if_neg (by simp), List.takeWhile_append_of_pos hline,
    List.dropWhile_append_of_pos hline]
  simp

theorem getline_last {line : List α} (h : lf ∉ line) (hne : line ≠ []) :
    getline lf line = some (line, []) := by
  have hline : ∀ c ∈ line, decide (c ≠ lf) = true := fun c hc =>
    decide_eq_true (fun heq => h (heq ▸ hc))
  rw [getline, if_neg hne, List.takeWhile_eq_self_iff.mpr hline,
    List.dropWhile_eq_nil_iff.mpr hline]
  rfl

end Lines
