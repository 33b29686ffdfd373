import Mathlib.Data.List.Basic
import Mathlib.Data.List.Induction
import Mathlib.Algebra.Ring.Nat

/-!
# Data.Bytes — streams in chunks and little-endian words

`Chunked α` is a finite stream that arrives in non-empty pieces. A read takes
what one piece has for it, and `elements` is what all reads together see.

`LittleEndian` and `BigEndian` are words of any width as bytes, the lowest first and the
highest first. The numbers of big-endian words of one width are in the order of the words,
compared byte by byte: what counts is the first byte in which they differ.
-/

/-- A stream in non-empty chunks. -/
structure Chunked (α : Type*) where
  chunks : List (List α)
  nonempty : ∀ chunk ∈ chunks, chunk ≠ []

namespace Chunked

variable {α : Type*} (s : Chunked α)

def elements : List α := s.chunks.flatten

def read (n : Nat) : List α × Chunked α :=
  match s with
  | ⟨[], _⟩ => ([], ⟨[], by simp⟩)
  | ⟨chunk :: chunks, h⟩ =>
    if hle : chunk.length ≤ n then
      (chunk, ⟨chunks, fun c hc => h c (.tail _ hc)⟩)
    else
      (chunk.take n, ⟨chunk.drop n :: chunks, by
        intro c hc
        rcases List.mem_cons.mp hc with rfl | hc
        · simpa using hle
        · exact h c (.tail _ hc)⟩)

theorem read_append (n : Nat) : (s.read n).1 ++ (s.read n).2.elements = s.elements := by
  rcases s with ⟨_ | ⟨chunk, chunks⟩, h⟩
  · rfl
  · by_cases hle : chunk.length ≤ n
    · simp [read, hle, elements]
    · simp [read, hle, elements, ← List.append_assoc]

theorem length_read_le (n : Nat) : (s.read n).1.length ≤ n := by
  rcases s with ⟨_ | ⟨chunk, chunks⟩, h⟩
  · exact Nat.zero_le n
  · by_cases hle : chunk.length ≤ n
    · simp [read, hle]
    · simp only [read, hle, dite_false]
      exact List.length_take_le n chunk

theorem read_eq_nil {s : Chunked α} {n : Nat} (hn : 0 < n) :
    (s.read n).1 = [] ↔ s.elements = [] := by
  rcases s with ⟨_ | ⟨chunk, chunks⟩, h⟩
  · simp [read, elements]
  · have hchunk : chunk ≠ [] := h chunk (.head _)
    by_cases hle : chunk.length ≤ n
    · simp [read, hle, elements, hchunk]
    · have hpos : n ≠ 0 := by omega
      simp [read, hle, elements, hchunk, hpos]

end Chunked

theorem Bytes.forall_of_fin {p : UInt8 → Prop} (h : ∀ n : Fin 256, p (.ofFin n)) (b : UInt8) :
    p b :=
  h b.toFin

namespace LittleEndian

def encode : Nat → Nat → List UInt8
  | 0, _ => []
  | width + 1, n => UInt8.ofNat n :: encode width (n / 256)

def decode : List UInt8 → Nat
  | [] => 0
  | byte :: bytes => byte.toNat + 256 * decode bytes

@[simp] theorem length_encode (width n : Nat) : (encode width n).length = width := by
  induction width generalizing n with
  | zero => rfl
  | succ width ih => simp [encode, ih]

theorem decode_encode (width n : Nat) : decode (encode width n) = n % 256 ^ width := by
  induction width generalizing n with
  | zero => simp [encode, decode, Nat.mod_one]
  | succ width ih =>
    have hbyte : (UInt8.ofNat n).toNat = n % 256 := by simp
    rw [encode, decode, ih, hbyte, Nat.pow_succ', Nat.mod_mul]

end LittleEndian

section FirstDifference

variable {α : Type*} [DecidableEq α]

def firstDifference : List α → List α → Option (α × α)
  | x :: xs, y :: ys => if x = y then firstDifference xs ys else some (x, y)
  | _, _ => none

theorem ne_of_mem_firstDifference {xs ys : List α} {d : α × α} (h : d ∈ firstDifference xs ys) :
    d.1 ≠ d.2 := by
  induction xs generalizing ys with
  | nil => cases h
  | cons x xs ih =>
    cases ys with
    | nil => cases h
    | cons y ys =>
      rw [firstDifference] at h
      split_ifs at h with heq
      · exact ih h
      · cases h
        exact heq

theorem compareLex_eq_lt_iff (cmp : α → α → Ordering) [Std.LawfulEqCmp cmp]
    {xs ys : List α} (hlength : xs.length = ys.length) :
    List.compareLex cmp xs ys = .lt ↔ ∃ d ∈ firstDifference xs ys, cmp d.1 d.2 = .lt := by
  induction xs generalizing ys with
  | nil =>
    rw [List.length_nil, eq_comm, List.length_eq_zero_iff] at hlength
    subst hlength
    simp [firstDifference, List.compareLex]
  | cons x xs ih =>
    cases ys with
    | nil => cases hlength
    | cons y ys =>
      rw [List.compareLex_cons_cons, firstDifference]
      by_cases heq : x = y
      · subst heq
        rw [show cmp x x = .eq from Std.ReflCmp.compare_self, if_pos rfl]
        exact ih (Nat.succ.inj hlength)
      · have hne : cmp x y ≠ .eq := fun h => heq (Std.LawfulEqCmp.eq_of_compare h)
        rw [if_neg heq]
        cases hcmp : cmp x y <;> simp_all

end FirstDifference

namespace BigEndian

def encode (width n : Nat) : List UInt8 :=
  (List.range width).map fun i => UInt8.ofNat (n / 256 ^ (width - 1 - i))

variable (bytes : List UInt8)

def decode : Nat :=
  bytes.foldl (fun n byte => n * 256 + byte.toNat) 0

@[simp] theorem length_encode (width n : Nat) : (encode width n).length = width := by
  simp [encode]

theorem encode_succ (width n : Nat) :
    encode (width + 1) n = encode width (n / 256) ++ [UInt8.ofNat n] := by
  rw [encode, List.range_succ, List.map_append, List.map_singleton, Nat.add_sub_cancel,
    Nat.sub_self, Nat.pow_zero, Nat.div_one, encode]
  congr 1
  apply List.map_congr_left
  intro i hi
  have hlt : i < width := List.mem_range.mp hi
  have hexp : width - i = width - 1 - i + 1 := by omega
  rw [hexp, Nat.pow_succ', Nat.div_div_eq_div_mul]

theorem decode_concat (byte : UInt8) :
    decode (bytes ++ [byte]) = decode bytes * 256 + byte.toNat := by
  rw [decode, List.foldl_append]
  rfl

theorem decode_encode (width n : Nat) : decode (encode width n) = n % 256 ^ width := by
  induction width generalizing n with
  | zero => simp [encode, decode, Nat.mod_one]
  | succ width ih =>
    have hbyte : (UInt8.ofNat n).toNat = n % 256 := by simp
    rw [encode_succ, decode_concat, ih, hbyte, Nat.pow_succ', Nat.mod_mul, Nat.mul_comm,
      Nat.add_comm]

theorem decode_lt : decode bytes < 256 ^ bytes.length := by
  induction bytes using List.reverseRecOn with
  | nil => simp [decode]
  | append_singleton bytes byte ih =>
    have hbyte : byte.toNat < 256 := byte.toNat_lt
    rw [decode_concat, List.length_append, List.length_singleton, Nat.pow_succ]
    omega

theorem encode_decode : encode bytes.length (decode bytes) = bytes := by
  induction bytes using List.reverseRecOn with
  | nil => rfl
  | append_singleton bytes byte ih =>
    have hbyte : byte.toNat < 256 := byte.toNat_lt
    have hhigh : (decode bytes * 256 + byte.toNat) / 256 = decode bytes := by omega
    have hlow : UInt8.ofNat (decode bytes * 256 + byte.toNat) = byte := by
      apply UInt8.toNat_inj.mp
      rw [UInt8.toNat_ofNat']
      omega
    rw [List.length_append, List.length_singleton, decode_concat, encode_succ, hhigh, hlow, ih]

theorem decode_cons (byte : UInt8) (bytes : List UInt8) :
    decode (byte :: bytes) = byte.toNat * 256 ^ bytes.length + decode bytes := by
  induction bytes using List.reverseRecOn with
  | nil => simp [decode]
  | append_singleton bytes last ih =>
    rw [← List.cons_append, decode_concat, decode_concat, ih, List.length_append,
      List.length_singleton, Nat.pow_succ, Nat.add_mul, Nat.mul_assoc, Nat.add_assoc]

/-- Of two words the one with the lower number is lower at the first difference. -/
theorem decode_lt_iff {xs ys : List UInt8} (hlength : xs.length = ys.length) :
    decode xs < decode ys ↔ ∃ d ∈ firstDifference xs ys, d.1 < d.2 := by
  induction xs generalizing ys with
  | nil =>
    rw [List.length_nil, eq_comm, List.length_eq_zero_iff] at hlength
    subst hlength
    simp [firstDifference]
  | cons x xs ih =>
    cases ys with
    | nil => cases hlength
    | cons y ys =>
      have hrest : xs.length = ys.length := Nat.succ.inj hlength
      have hx : decode xs < 256 ^ ys.length := hrest ▸ decode_lt xs
      have hy : decode ys < 256 ^ ys.length := decode_lt ys
      rw [decode_cons, decode_cons, firstDifference, hrest]
      by_cases heq : x = y
      · subst heq
        rw [if_pos rfl, Nat.add_lt_add_iff_left]
        exact ih hrest
      · -- the bytes behind cannot make up for the difference
        have hne : x.toNat ≠ y.toNat := fun h => heq (UInt8.toNat_inj.mp h)
        rw [if_neg heq]
        simp only [Option.mem_some_iff, exists_eq_left', UInt8.lt_iff_toNat_lt]
        constructor
        · intro hlt
          by_contra hge
          have hstep : y.toNat + 1 ≤ x.toNat := by omega
          have hmul := Nat.mul_le_mul_right (256 ^ ys.length) hstep
          rw [Nat.add_mul, Nat.one_mul] at hmul
          omega
        · intro hlt
          have hmul := Nat.mul_le_mul_right (256 ^ ys.length) (Nat.succ_le_of_lt hlt)
          rw [Nat.succ_mul] at hmul
          omega

end BigEndian
