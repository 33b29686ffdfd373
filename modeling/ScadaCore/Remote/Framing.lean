import ScadaCore.Lts.System
import ScadaCore.Data.Bytes

/-!
# Remote.Framing — messages over a byte stream

`ProtocolMessageTransport` puts the size of a message, four bytes little-endian,
in front of it and reads messages back from a stream that arrives in chunks. The
stream ends with zero-byte reads or with an error.

* `reads_intact_iff`: a read that succeeds delivers a complete message, except
  where the stream ends within a payload: `ReadExact` returns the bytes that came
  as if they were all;
* `reads_frames`: what was written is read, message by message;
* `sent_received_iff`: of what `write` takes, the loops of both ends receive the
  payloads that are not empty and fit the buffer. The writer does not check.
-/

namespace ScadaCore.Remote

/-- The codes of `transport::error_code` that are told apart here. -/
inductive ErrorCode where
  | ioPending
  | failed
  | aborted
  | other (code : Int)
deriving DecidableEq, Repr

/-- The `transport_` below, by what it will deliver. `failure` is how reads go on
after that: with an error, which is `ERR_ABORTED` if the owner is destroyed while
it waits, or with nothing, at the end of the stream. -/
structure ByteTransport where
  incoming : Chunked UInt8
  failure : Option ErrorCode := none

variable (t : ByteTransport)

namespace ByteTransport

def bytes : List UInt8 := t.incoming.elements

def read (size : Nat) : Except ErrorCode (List UInt8) × ByteTransport :=
  match (t.incoming.read size).1, t.failure with
  | [], some code => (.error code, t)
  | bytes, _ => (.ok bytes, { t with incoming := (t.incoming.read size).2 })

theorem read_cases {size : Nat} (hsize : 0 < size) :
    (∃ t', t.read size = (t.failure.elim (.ok []) .error, t') ∧ t.bytes = [] ∧ t'.bytes = [] ∧
        t'.failure = t.failure) ∨
      ∃ byte bytes t', t.read size = (.ok (byte :: bytes), t') ∧ bytes.length + 1 ≤ size ∧
        t.bytes = byte :: bytes ++ t'.bytes ∧ t'.failure = t.failure := by
  have happend := t.incoming.read_append size
  have hlength := t.incoming.length_read_le size
  have hnil := Chunked.read_eq_nil (s := t.incoming) hsize
  rcases hread : (t.incoming.read size).1 with _ | ⟨byte, bytes⟩
  · left
    have hend : t.bytes = [] := hnil.mp hread
    cases hfailure : t.failure with
    | none =>
      refine ⟨{ t with incoming := (t.incoming.read size).2 }, ?_, hend, ?_, hfailure⟩
      · simp only [read, hread, hfailure]
        rfl
      · rw [hread, List.nil_append] at happend
        exact happend.trans hend
    | some code =>
      refine ⟨t, ?_, hend, hend, hfailure⟩
      simp only [read, hread, hfailure]
      rfl
  · right
    rw [hread] at happend hlength
    refine ⟨byte, bytes, { t with incoming := (t.incoming.read size).2 }, ?_, hlength,
      happend.symm, rfl⟩
    simp only [read, hread]

end ByteTransport

/-- `ReadExact`: the bytes that were placed in the buffer. The loop ends early on
an error, and with what there is on a read of zero bytes. -/
def readExact (t : ByteTransport) (size : Nat) : Except ErrorCode (List UInt8) × ByteTransport :=
  if size = 0 then
    (.ok [], t)
  else
    match t.read size with
    | (.error code, t) => (.error code, t)
    -- a read of zero bytes, which ends the loop without an error
    | (.ok [], t) => (.ok [], t)
    | (.ok (byte :: bytes), t) =>
      let (rest, t) := readExact t (size - (bytes.length + 1))
      (rest.map (byte :: bytes ++ ·), t)
termination_by size
decreasing_by omega

/-- The loop returns the next `size` bytes, or all there are; where these are
fewer it ends as the stream does. What it read is gone. -/
theorem readExact_spec (size : Nat) :
    (readExact t size).1 =
        (if size ≤ t.bytes.length then .ok (t.bytes.take size)
          else t.failure.elim (.ok t.bytes) .error) ∧
      (readExact t size).2.bytes = t.bytes.drop size ∧
      (readExact t size).2.failure = t.failure := by
  induction size using Nat.strong_induction_on generalizing t with
  | _ size ih =>
    rw [readExact]
    by_cases hzero : size = 0
    · simp [hzero]
    · have hpos : 0 < size := Nat.pos_of_ne_zero hzero
      rw [if_neg hzero]
      rcases t.read_cases hpos with ⟨t', hread, hend, hend', hfailure⟩ |
        ⟨byte, bytes, t', hread, hle, hbytes, hfailure⟩
      · -- the end of the stream: nothing more comes
        rw [hread]
        cases hcode : t.failure <;> simp [hend, hend', hfailure, hcode, hzero]
      · -- a chunk, after which the loop has less to do
        obtain ⟨hresult, hrest, hsame⟩ := ih (size - (bytes.length + 1)) (by omega) t'
        have hlength : t.bytes.length = bytes.length + 1 + t'.bytes.length := by
          rw [hbytes, List.length_append, List.length_cons]
        have hchunk : (byte :: bytes).length ≤ size := hle
        rw [hread]
        refine ⟨?_, ?_, hsame.trans hfailure⟩
        · simp only [hresult]
          by_cases hfits : size ≤ t.bytes.length
          · rw [if_pos hfits, if_pos (by omega), hbytes, List.take_append,
              List.take_of_length_le hchunk]
            rfl
          · rw [if_neg hfits, if_neg (by omega), hfailure, hbytes]
            cases t.failure <;> rfl
        · rw [hbytes, List.drop_append, List.drop_of_length_le hchunk]
          exact hrest

theorem readExact_of_end {t : ByteTransport} (hend : t.bytes = []) {size : Nat}
    {bytes : List UInt8} (hread : (readExact t size).1 = .ok bytes) : bytes = [] := by
  obtain ⟨hresult, -⟩ := readExact_spec t size
  rw [hresult, hend] at hread
  split at hread
  · cases hread
    exact List.take_nil
  · cases hfailure : t.failure with
    | none =>
      rw [hfailure] at hread
      cases hread
      rfl
    | some code =>
      rw [hfailure] at hread
      cases hread

def kHeaderSize : Nat := 4
def kMaxMessageSize : Nat := 16 * 1024 * 1024

/-- `GetIncomingMessageSize` less the header: the 32-bit number in the four bytes
of the header. -/
def getMessagePayloadSize (header : List UInt8) : Nat := LittleEndian.decode header

/-- `ReadPayloadSize`; the array for the header is zero where nothing was read. -/
def readPayloadSize : Except ErrorCode Nat × ByteTransport :=
  match readExact t kHeaderSize with
  | (.error code, t) => (.error code, t)
  | (.ok [], t) => (.ok 0, t)
  -- the check is on `*bytes_read == 0` only: a part of a header is taken for one
  | (.ok header, t) =>
    (.ok (getMessagePayloadSize (header ++ List.replicate (kHeaderSize - header.length) 0)), t)

structure ProtocolMessageTransport where
  transport : ByteTransport
  reading : Bool := false

variable (p : ProtocolMessageTransport) (data : List UInt8)

namespace ProtocolMessageTransport

def read (bufferSize : Nat) : Except ErrorCode (List UInt8) × ProtocolMessageTransport :=
  if p.reading then
    (.error .ioPending, p)
  else
    match readPayloadSize p.transport with
    | (.error code, transport) => (.error code, { p with transport })
    | (.ok 0, transport) => (.ok [], { p with transport })
    | (.ok payloadSize, transport) =>
      if payloadSize > bufferSize then
        (.error .failed, { p with transport })
      else
        let (payload, transport) := readExact transport payloadSize
        (payload, { p with transport })

/-- The message that `write` hands to the transport: `UpdateMessageSize` stores
the size of the payload in 32 bits. -/
def message : List UInt8 :=
  LittleEndian.encode kHeaderSize data.length ++ data

/-- `write`, given what `transport::Write` returns: its own result, and what was
handed to the transport. -/
def write (writeError : Option ErrorCode) : Except ErrorCode Nat × List UInt8 :=
  match writeError with
  | some code => (.error code, message data)
  | none => (.ok data.length, message data)

end ProtocolMessageTransport

/-! ## What a read returns -/

theorem readPayloadSize_spec {t : ByteTransport} (h : kHeaderSize ≤ t.bytes.length) :
    (readPayloadSize t).1 = .ok (getMessagePayloadSize (t.bytes.take kHeaderSize)) ∧
      (readPayloadSize t).2.bytes = t.bytes.drop kHeaderSize ∧
      (readPayloadSize t).2.failure = t.failure := by
  obtain ⟨hresult, hrest, hfailure⟩ := readExact_spec t kHeaderSize
  rw [if_pos h] at hresult
  have hlength : (t.bytes.take kHeaderSize).length = kHeaderSize := by
    rw [List.length_take]
    omega
  rcases hread : readExact t kHeaderSize with ⟨result, t'⟩
  rw [hread] at hresult hrest hfailure
  subst hresult
  unfold readPayloadSize
  rw [hread]
  cases hheader : t.bytes.take kHeaderSize with
  | nil =>
    rw [hheader] at hlength
    cases hlength
  | cons byte bytes =>
    rw [hheader] at hlength
    refine ⟨?_, hrest, hfailure⟩
    simp only [hlength, Nat.sub_self, List.replicate_zero, List.append_nil]

theorem readPayloadSize_short {t : ByteTransport} (h : t.bytes.length < kHeaderSize) :
    (readPayloadSize t).2.bytes = [] ∧ (readPayloadSize t).2.failure = t.failure := by
  obtain ⟨-, hrest, hfailure⟩ := readExact_spec t kHeaderSize
  rw [List.drop_of_length_le (Nat.le_of_lt h)] at hrest
  unfold readPayloadSize
  rcases hread : readExact t kHeaderSize with ⟨_ | _ | ⟨byte, bytes⟩, t'⟩
  all_goals
    rw [hread] at hrest hfailure
    exact ⟨hrest, hfailure⟩

namespace ProtocolMessageTransport

variable {p}

def bytes (p : ProtocolMessageTransport) : List UInt8 := p.transport.bytes

def announced (p : ProtocolMessageTransport) : Nat :=
  getMessagePayloadSize (p.bytes.take kHeaderSize)

theorem read_of_size {size : Nat} {t : ByteTransport} (hidle : p.reading = false)
    (hsize : readPayloadSize p.transport = (.ok size, t)) (bufferSize : Nat) :
    p.read bufferSize =
      if size = 0 then (.ok [], { p with transport := t })
      else if size > bufferSize then (.error .failed, { p with transport := t })
      else ((readExact t size).1, { p with transport := (readExact t size).2 }) := by
  unfold read
  rw [hidle, hsize]
  cases size with
  | zero => rfl
  | succ size => simp

theorem read_spec (hidle : p.reading = false) (h : kHeaderSize ≤ p.bytes.length)
    (bufferSize : Nat) :
    (p.read bufferSize).1 =
      if p.announced = 0 then .ok []
      else if p.announced > bufferSize then .error .failed
      else if p.announced ≤ (p.bytes.drop kHeaderSize).length then
        .ok ((p.bytes.drop kHeaderSize).take p.announced)
      else p.transport.failure.elim (.ok (p.bytes.drop kHeaderSize)) .error := by
  obtain ⟨hsize, hrest, hfailure⟩ := readPayloadSize_spec h
  have hsize' : readPayloadSize p.transport = (.ok p.announced, (readPayloadSize p.transport).2) :=
    Prod.ext hsize rfl
  have hread := read_of_size hidle hsize' bufferSize
  obtain ⟨hpayload, -, -⟩ := readExact_spec (readPayloadSize p.transport).2 p.announced
  rw [hrest, hfailure] at hpayload
  rw [hread]
  by_cases hzero : p.announced = 0
  · rw [if_pos hzero, if_pos hzero]
  · rw [if_neg hzero, if_neg hzero]
    by_cases hbig : p.announced > bufferSize
    · rw [if_pos hbig, if_pos hbig]
    · rw [if_neg hbig, if_neg hbig]
      exact hpayload

theorem idle_of_read {bufferSize : Nat} {payload : List UInt8}
    (hread : (p.read bufferSize).1 = .ok payload) : p.reading = false := by
  by_contra hbusy
  have hbusy : p.reading = true := by simpa using hbusy
  simp only [read, hbusy] at hread
  cases hread

theorem read_short (h : p.bytes.length < kHeaderSize) {bufferSize : Nat} {payload : List UInt8}
    (hread : (p.read bufferSize).1 = .ok payload) : payload = [] := by
  have hidle := idle_of_read hread
  obtain ⟨hrest, -⟩ := readPayloadSize_short h
  rcases hsize : readPayloadSize p.transport with ⟨code | size, t⟩
  · simp only [read, hidle, hsize] at hread
    cases hread
  · rw [hsize] at hrest
    rw [read_of_size hidle hsize] at hread
    split at hread
    · cases hread
      rfl
    · split at hread
      · cases hread
      · -- a part of a header may announce something, of which nothing is there
        exact readExact_of_end hrest hread

end ProtocolMessageTransport

/-! ## Truncated streams -/

/-- A reader and what it has read so far. -/
structure Reader where
  connection : ProtocolMessageTransport
  results : List (Except ErrorCode (List UInt8)) := []

def reader : Lts.System Reader Nat where
  init := { connection := p }
  step r bufferSize :=
    { connection := (r.connection.read bufferSize).2
      results := r.results ++ [(r.connection.read bufferSize).1] }

namespace Reader

/-- The stream starts with a header that announces the payload, and the
payload. -/
def Complete (bytes payload : List UInt8) : Prop :=
  ∃ header rest, bytes = header ++ payload ++ rest ∧ header.length = kHeaderSize ∧
    getMessagePayloadSize header = payload.length

/-- If the read succeeds with some bytes, they are a complete message. -/
def Intact (r : Reader) (bufferSize : Nat) : Prop :=
  ∀ payload, (r.connection.read bufferSize).1 = .ok payload → payload ≠ [] →
    Complete r.connection.bytes payload

/-- The stream ends, without an error, after a part of a payload that would fit
the buffer. -/
def CutInPayload (r : Reader) (bufferSize : Nat) : Prop :=
  r.connection.reading = false ∧ r.connection.transport.failure = none ∧
    kHeaderSize < r.connection.bytes.length ∧
    r.connection.bytes.length < kHeaderSize + r.connection.announced ∧
    r.connection.announced ≤ bufferSize

instance (r : Reader) (bufferSize : Nat) : Decidable (r.CutInPayload bufferSize) :=
  inferInstanceAs (Decidable (_ ∧ _ ∧ _ ∧ _ ∧ _))

theorem complete_length {bytes payload : List UInt8} (h : Complete bytes payload) :
    kHeaderSize ≤ bytes.length ∧
      getMessagePayloadSize (bytes.take kHeaderSize) = payload.length := by
  obtain ⟨header, rest, rfl, hheader, hsize⟩ := h
  rw [List.append_assoc]
  constructor
  · rw [List.length_append]
    omega
  · rw [← hheader, List.take_left]
    exact hsize

theorem complete_take {p : ProtocolMessageTransport} (hheader : kHeaderSize ≤ p.bytes.length)
    (hall : p.announced ≤ (p.bytes.drop kHeaderSize).length) :
    Complete p.bytes ((p.bytes.drop kHeaderSize).take p.announced) := by
  refine ⟨p.bytes.take kHeaderSize, (p.bytes.drop kHeaderSize).drop p.announced, ?_, ?_, ?_⟩
  · rw [List.append_assoc, List.take_append_drop, List.take_append_drop]
  · rw [List.length_take]
    omega
  · rw [List.length_take, Nat.min_eq_left hall]
    rfl

theorem not_intact_of_cut {r : Reader} {bufferSize : Nat} (hcut : r.CutInPayload bufferSize) :
    ¬ r.Intact bufferSize := by
  obtain ⟨hidle, hend, hheader, hshort, hfits⟩ := hcut
  intro hintact
  -- the read succeeds with the part of the payload that came
  have hlength : (r.connection.bytes.drop kHeaderSize).length < r.connection.announced := by
    rw [List.length_drop]
    omega
  have hread := ProtocolMessageTransport.read_spec hidle (by omega) bufferSize
  rw [if_neg (by omega), if_neg (by omega), if_neg (by omega), hend] at hread
  have hpart : r.connection.bytes.drop kHeaderSize ≠ [] := by
    rw [ne_eq, List.drop_eq_nil_iff]
    omega
  obtain ⟨-, hsize⟩ := complete_length (hintact _ hread hpart)
  exact absurd hsize (Nat.ne_of_gt hlength)

theorem intact_iff (r : Reader) (bufferSize : Nat) :
    r.Intact bufferSize ↔ ¬ r.CutInPayload bufferSize := by
  constructor
  · intro hintact hcut
    exact not_intact_of_cut hcut hintact
  · intro hwhole payload hread hpos
    have hidle := ProtocolMessageTransport.idle_of_read hread
    by_cases hshort : r.connection.bytes.length < kHeaderSize
    · exact absurd (ProtocolMessageTransport.read_short hshort hread) hpos
    · have hheader : kHeaderSize ≤ r.connection.bytes.length := by omega
      rw [ProtocolMessageTransport.read_spec hidle hheader] at hread
      split at hread
      · cases hread
        exact absurd rfl hpos
      · split at hread
        · cases hread
        · split at hread
          next hall =>
            cases hread
            exact complete_take hheader hall
          next hfits hpart =>
            -- a part of the payload has been returned: the stream was cut
            rw [List.length_drop] at hpart
            cases hend : r.connection.transport.failure with
            | some code =>
              rw [hend] at hread
              cases hread
            | none =>
              rw [hend] at hread
              cases hread
              have hsome : kHeaderSize < r.connection.bytes.length := by
                rw [ne_eq, List.drop_eq_nil_iff] at hpos
                omega
              exact absurd ⟨hidle, hend, hsome, by omega, by omega⟩ hwhole

/-- Of the reads of a connection, those that succeed with some bytes deliver a
complete message, exactly if the stream does not end within a payload that fits
the buffer. -/
theorem reads_intact_iff (p : ProtocolMessageTransport) (bufferSizes : List Nat) :
    (reader p).Meets Intact bufferSizes ↔
      (reader p).Meets (fun r bufferSize => ¬ r.CutInPayload bufferSize) bufferSizes :=
  (reader p).meets_congr (fun _ => True) trivial (fun _ _ _ => trivial)
    (fun r bufferSize _ => r.intact_iff bufferSize) bufferSizes

/-- A message of five bytes, of which two have arrived when the stream ends. -/
def cutStream : ProtocolMessageTransport :=
  { transport := { incoming := ⟨[[5, 0, 0, 0, 97, 98]], by decide⟩ } }

theorem cutStream_not_intact : ¬ (reader cutStream).Meets Intact [16] := by
  intro hmeets
  have hintact : Intact { connection := cutStream } 16 := hmeets [] 16 (List.prefix_refl _)
  exact (intact_iff _ _).mp hintact (by decide)

end Reader

/-! ## Round trip -/

open ProtocolMessageTransport

/-- The payload is one that `read` takes: not the empty one, whose header says
that the stream has ended, and not larger than the buffer. -/
def Receivable : Prop :=
  1 ≤ data.length ∧ data.length ≤ kMaxMessageSize

instance (data : List UInt8) : Decidable (Receivable data) :=
  inferInstanceAs (Decidable (_ ∧ _))

section Message

variable {p} {data rest : List UInt8}

/-- The header of a message holds the size of its payload modulo the width of the
header, whatever the size is. -/
theorem announced_message (hbytes : p.bytes = message data ++ rest) :
    kHeaderSize ≤ p.bytes.length ∧ p.announced = data.length % 256 ^ kHeaderSize ∧
      p.bytes.drop kHeaderSize = data ++ rest := by
  have hsplit : p.bytes = LittleEndian.encode kHeaderSize data.length ++ (data ++ rest) := by
    rw [hbytes, message, List.append_assoc]
  have hheader := LittleEndian.length_encode kHeaderSize data.length
  refine ⟨?_, ?_, ?_⟩
  · rw [hsplit, List.length_append, hheader]
    omega
  · rw [announced, hsplit, List.take_left' hheader, getMessagePayloadSize,
      LittleEndian.decode_encode]
  · rw [hsplit, List.drop_left' hheader]

theorem read_message (hidle : p.reading = false) (hbytes : p.bytes = message data ++ rest)
    (hdata : Receivable data) {bufferSize : Nat} (hle : data.length ≤ bufferSize) :
    (p.read bufferSize).1 = .ok data ∧ (p.read bufferSize).2.bytes = rest ∧
      (p.read bufferSize).2.reading = false := by
  obtain ⟨hheader, hannounced, hdrop⟩ := announced_message hbytes
  obtain ⟨hpos, hmax⟩ := hdata
  have hwidth : kMaxMessageSize < 256 ^ kHeaderSize := by decide
  rw [Nat.mod_eq_of_lt (by omega)] at hannounced
  obtain ⟨hsize, hrest, -⟩ := readPayloadSize_spec hheader
  have hsize : (readPayloadSize p.transport).1 = .ok data.length := by
    rw [← hannounced]
    exact hsize
  -- the payload is there, and it fits
  obtain ⟨hpayload, hleft, -⟩ := readExact_spec (readPayloadSize p.transport).2 data.length
  rw [hrest.trans hdrop, if_pos (by simp), List.take_left] at hpayload
  rw [hrest.trans hdrop, List.drop_left] at hleft
  rw [read_of_size hidle (Prod.ext hsize rfl), if_neg (by omega), if_neg (by omega)]
  exact ⟨hpayload, hleft, hidle⟩

theorem read_not_receivable (hidle : p.reading = false) (hbytes : p.bytes = message data ++ rest)
    (hnot : ¬ Receivable data) :
    (p.read kMaxMessageSize).1 = .ok [] ∨ (p.read kMaxMessageSize).1 = .error .failed ∨
      ∃ part, (p.read kMaxMessageSize).1 = .ok part ∧ part ≠ [] ∧ part ≠ data := by
  rcases announced_message hbytes with ⟨hheader, hannounced, hdrop⟩
  rw [read_spec hidle hheader, hdrop]
  by_cases hzero : p.announced = 0
  · rw [if_pos hzero]
    exact .inl rfl
  · rw [if_neg hzero]
    by_cases hbig : p.announced > kMaxMessageSize
    · rw [if_pos hbig]
      exact .inr (.inl rfl)
    · rw [if_neg hbig]
      -- the size has been cut to the width of the header, so it is too small
      have hle : p.announced ≤ data.length := by
        rw [hannounced]
        exact Nat.mod_le _ _
      have hlt : p.announced < data.length := by
        apply Nat.lt_of_le_of_ne hle
        intro heq
        exact hnot ⟨by omega, by omega⟩
      rw [if_pos (by rw [List.length_append]; omega)]
      refine .inr (.inr ⟨_, rfl, ?_, ?_⟩)
      · intro hnil
        have hlength := congrArg List.length hnil
        rw [List.length_take, List.length_append, List.length_nil] at hlength
        omega
      · intro hsame
        have hlength := congrArg List.length hsame
        rw [List.length_take, List.length_append] at hlength
        omega

end Message

/-- The reads of a reader that has already read something: one message a read. -/
theorem runFrom_frames {payloads : List (List UInt8)}
    {bufferSize : Nat}
    (hsizes : ∀ data ∈ payloads, 1 ≤ data.length ∧ data.length ≤ min kMaxMessageSize bufferSize)
    {r : Reader} (hidle : r.connection.reading = false)
    (hbytes : r.connection.bytes = payloads.flatMap fun data => (write data none).2) :
    ((reader p).runFrom r (List.replicate payloads.length bufferSize)).results =
        r.results ++ payloads.map .ok ∧
      ((reader p).runFrom r (List.replicate payloads.length bufferSize)).connection.bytes = [] := by
  -- on the messages: a read takes the first off the stream, whatever was read before
  induction payloads generalizing r with
  | nil => exact ⟨by simp, hbytes⟩
  | cons data payloads ih =>
    obtain ⟨hpos, hle⟩ := hsizes data (.head _)
    have hdata : Receivable data := ⟨hpos, by omega⟩
    have hfits : data.length ≤ bufferSize := by omega
    obtain ⟨hread, hrest, hidle'⟩ := read_message hidle hbytes hdata hfits
    have hstep : (reader p).step r bufferSize =
        ⟨(r.connection.read bufferSize).2, r.results ++ [.ok data]⟩ := by
      rw [← hread]
      rfl
    rw [List.length_cons, List.replicate_succ, Lts.System.runFrom_cons, hstep]
    obtain ⟨hresults, hleft⟩ :=
      ih (r := ⟨(r.connection.read bufferSize).2, r.results ++ [.ok data]⟩)
        (fun d hd => hsizes d (.tail _ hd)) hidle' hrest
    refine ⟨?_, hleft⟩
    rw [hresults, List.append_assoc]
    rfl

/-- Messages that have been written are read back, one by one and with nothing
left, however their bytes arrive. -/
theorem reads_frames (payloads : List (List UInt8)) (bufferSize : Nat)
    (hsizes : ∀ data ∈ payloads, 1 ≤ data.length ∧ data.length ≤ min kMaxMessageSize bufferSize)
    (p : ProtocolMessageTransport) (hidle : p.reading = false)
    (hbytes : p.bytes = payloads.flatMap fun data => (write data none).2) :
    ((reader p).run (List.replicate payloads.length bufferSize)).results =
        payloads.map .ok ∧
      ((reader p).run (List.replicate payloads.length bufferSize)).connection.bytes = [] :=
  runFrom_frames p hsizes hidle hbytes

/-- Two messages, in chunks that cut the first header and join the messages. -/
def twoMessages : ProtocolMessageTransport :=
  { transport := { incoming := ⟨[[2, 0], [0, 0, 97, 98, 1], [0, 0, 0, 99]], by decide⟩ } }

theorem reads_twoMessages :
    ((reader twoMessages).run [16, 16]).results = [.ok [97, 98], .ok [99]] ∧
      ((reader twoMessages).run [16, 16]).connection.bytes = [] :=
  reads_frames [[97, 98], [99]] 16 (by decide) twoMessages rfl (by decide)

/-! ## The peer -/

/-- The loop that reads messages, and what it has passed to
`OnTransportMessageReceived`. -/
structure ReadLoop where
  connection : ProtocolMessageTransport
  received : List (List UInt8) := []
  closed : Bool := false

/-- The iterations of `ServerConnection::Run`, which are also those of
`SessionProxy::Connect`: the buffer is made once, and a read that fails or reads
nothing closes the connection. -/
def readLoop : Lts.System ReadLoop Unit where
  init := { connection := p }
  step r _ :=
    if r.closed then
      r
    else
      match r.connection.read kMaxMessageSize with
      | (.error _, connection) => { r with connection, closed := true }
      -- taken for a graceful close
      | (.ok [], connection) => { r with connection, closed := true }
      | (.ok payload, connection) => { r with connection, received := r.received ++ [payload] }

namespace ReadLoop

variable {p} {r : ReadLoop}

/-- An iteration of an open connection, by what the read returned. -/
theorem step_of_open (hopen : r.closed = false) :
    (readLoop p).step r () =
      match (r.connection.read kMaxMessageSize).1 with
      | .error _ | .ok [] =>
        { r with connection := (r.connection.read kMaxMessageSize).2, closed := true }
      | .ok payload =>
        { r with
          connection := (r.connection.read kMaxMessageSize).2
          received := r.received ++ [payload] } := by
  simp only [readLoop, hopen]
  rcases r.connection.read kMaxMessageSize with ⟨_ | _ | ⟨byte, bytes⟩, connection⟩ <;> rfl

theorem runFrom_closed (hclosed : r.closed = true) (es : List Unit) :
    (readLoop p).runFrom r es = r := by
  induction es with
  | nil => rfl
  | cons e es ih =>
    have hstep : (readLoop p).step r e = r := by
      simp only [readLoop, hclosed, if_true]
    rw [Lts.System.runFrom_cons, hstep, ih]

theorem received_prefix (r : ReadLoop) (es : List Unit) :
    r.received <+: ((readLoop p).runFrom r es).received := by
  apply (readLoop p).runFrom_invariant (fun r' => r.received <+: r'.received)
  · intro r' e hprefix
    by_cases hclosed : r'.closed = true
    · rw [show (readLoop p).step r' e = r' from runFrom_closed hclosed [e]]
      exact hprefix
    · rw [step_of_open (Bool.eq_false_iff.mpr hclosed)]
      split
      · exact hprefix
      · exact hprefix
      · exact hprefix.trans (List.prefix_append _ _)
  · exact List.prefix_refl _

end ReadLoop

/-- From any point of an open connection: the messages that follow are received,
each as it was, if and only if all of them are receivable. -/
theorem ReadLoop.runFrom_received_iff (payloads : List (List UInt8))
    {r : ReadLoop} (hidle : r.connection.reading = false) (hopen : r.closed = false)
    (hbytes : r.connection.bytes = payloads.flatMap message) :
    (((readLoop p).runFrom r (List.replicate payloads.length ())).received =
        r.received ++ payloads ∧
      ((readLoop p).runFrom r (List.replicate payloads.length ())).closed = false) ↔
      ∀ data ∈ payloads, Receivable data := by
  -- on the messages, of which an iteration takes the first off the stream
  induction payloads generalizing r with
  | nil => simp [hopen]
  | cons data payloads ih =>
    have hfirst : r.connection.bytes = message data ++ payloads.flatMap message := hbytes
    rw [List.length_cons, List.replicate_succ, Lts.System.runFrom_cons]
    by_cases hdata : Receivable data
    · -- the message is received, and the others decide
      rcases read_message hidle hfirst hdata hdata.2 with ⟨hread, hrest, hidle'⟩
      have hstep : (readLoop p).step r () =
          { r with
            connection := (r.connection.read kMaxMessageSize).2
            received := r.received ++ [data] } := by
        rw [ReadLoop.step_of_open hopen, hread]
        rcases data with _ | ⟨byte, bytes⟩
        · exact absurd hdata.1 (by decide)
        · rfl
      have hnext := ih (r := { r with
        connection := (r.connection.read kMaxMessageSize).2
        received := r.received ++ [data] }) hidle' hopen hrest
      rw [hstep, List.forall_mem_cons, and_iff_right hdata, ← hnext, List.append_assoc]
      rfl
    · -- nothing makes up for a message that was lost
      refine iff_of_false ?_ (fun hall => hdata (hall data (.head _)))
      rintro ⟨hreceived, hopen'⟩
      rcases read_not_receivable hidle hfirst hdata with
        hread | hread | ⟨part, hread, hpart, hcut⟩
      · rw [ReadLoop.step_of_open hopen, hread, ReadLoop.runFrom_closed rfl] at hopen'
        cases hopen'
      · rw [ReadLoop.step_of_open hopen, hread, ReadLoop.runFrom_closed rfl] at hopen'
        cases hopen'
      · have hprefix := ReadLoop.received_prefix (p := p) ((readLoop p).step r ())
          (List.replicate payloads.length ())
        rw [hreceived, ReadLoop.step_of_open hopen, hread] at hprefix
        rcases part with _ | ⟨byte, bytes⟩
        · exact hpart rfl
        · have htail : [byte :: bytes] <+: data :: payloads :=
            (List.prefix_append_right_inj r.received).mp hprefix
          exact hcut (List.cons_prefix_cons.mp htail).1

/-- **What is sent can be received.** `write` reports success for every payload that
the transport takes. The peer receives each of them as it was, over a connection
that stays open, if and only if each has at least one byte and at most as many as
the buffer. -/
theorem sent_received_iff (payloads : List (List UInt8)) (p : ProtocolMessageTransport)
    (hidle : p.reading = false)
    (hbytes : p.bytes = payloads.flatMap fun data => (write data none).2) :
    (∀ data ∈ payloads, (write data none).1 = .ok data.length) ∧
      ((((readLoop p).run (List.replicate payloads.length ())).received = payloads ∧
        ((readLoop p).run (List.replicate payloads.length ())).closed = false) ↔
        ∀ data ∈ payloads, 1 ≤ data.length ∧ data.length ≤ kMaxMessageSize) := by
  constructor
  · intro data _
    rfl
  · exact ReadLoop.runFrom_received_iff p payloads (r := { connection := p }) hidle rfl hbytes

theorem sent_received_twoMessages :
    (∀ data ∈ [[97, 98], [99]], (write data none).1 = .ok data.length) ∧
      ((((readLoop twoMessages).run [(), ()]).received = [[97, 98], [99]] ∧
        ((readLoop twoMessages).run [(), ()]).closed = false) ↔
        ∀ data ∈ ([[97, 98], [99]] : List (List UInt8)),
          1 ≤ data.length ∧ data.length ≤ kMaxMessageSize) :=
  sent_received_iff [[97, 98], [99]] twoMessages rfl (by decide)

def arrived : ProtocolMessageTransport :=
  { transport := { incoming := ⟨[message data], by
      intro chunk hchunk
      rw [List.mem_singleton.mp hchunk]
      exact List.cons_ne_nil _ _⟩ } }

theorem bytes_arrived : (arrived data).bytes = message data ++ [] := by
  simp [ProtocolMessageTransport.bytes, ByteTransport.bytes, arrived, Chunked.elements]

theorem arrived_closed {data : List UInt8}
    (hsize : data.length % 256 ^ kHeaderSize = 0 ∨
      kMaxMessageSize < data.length % 256 ^ kHeaderSize) :
    ((readLoop (arrived data)).run [()]).received = [] ∧
      ((readLoop (arrived data)).run [()]).closed = true := by
  rcases announced_message (bytes_arrived data) with ⟨hheader, hannounced, -⟩
  have hread := read_spec (p := arrived data) rfl hheader kMaxMessageSize
  rw [hannounced] at hread
  rw [show (readLoop (arrived data)).run [()] = (readLoop (arrived data)).step
    { connection := arrived data } () from rfl, ReadLoop.step_of_open rfl]
  rcases hsize with hzero | hbig
  · rw [if_pos hzero] at hread
    rw [hread]
    exact ⟨rfl, rfl⟩
  · rw [if_neg (by omega), if_pos hbig] at hread
    rw [hread]
    exact ⟨rfl, rfl⟩

/-- `write` reports success for a payload of one byte more than the buffer and for
an empty one. The reader of the first rejects the header, that of the second takes
it for the end of the stream. -/
theorem sent_not_received :
    let large : List UInt8 := List.replicate (kMaxMessageSize + 1) 0
    (write large none).1 = .ok (kMaxMessageSize + 1) ∧
      ((readLoop (arrived large)).run [()]).received = [] ∧
      ((readLoop (arrived large)).run [()]).closed = true ∧
      (write [] none).1 = .ok 0 ∧
      ((readLoop (arrived [])).run [()]).received = [] ∧
      ((readLoop (arrived [])).run [()]).closed = true := by
  have hlarge : (List.replicate (kMaxMessageSize + 1) (0 : UInt8)).length = kMaxMessageSize + 1 :=
    List.length_replicate
  have hrejected : kMaxMessageSize <
      (List.replicate (kMaxMessageSize + 1) (0 : UInt8)).length % 256 ^ kHeaderSize := by
    rw [hlarge]
    decide
  rcases arrived_closed (.inr hrejected) with ⟨hreceived, hclosed⟩
  have hempty : ((readLoop (arrived [])).run [()]).received = [] ∧
      ((readLoop (arrived [])).run [()]).closed = true := arrived_closed (.inl rfl)
  refine ⟨?_, hreceived, hclosed, rfl, hempty⟩
  rw [write, hlarge]

end ScadaCore.Remote
