import SolarConnect.Misc.Bytes

/-!
# Request bodies

`read_body` of `admin_ports.c`: the loop that reads the body of a request into a buffer. The
sequence of what `httpd_req_recv` gives is up to the peer. A receive that times out is tried again,
for as long as the peer keeps the connection open, while `receive_form_body` of `http_server.c`
gives up.
-/

namespace SolarConnect.Http

open Bytes

/-- What a call of `httpd_req_recv` meets. -/
inductive RecvResult
  /-- Bytes, at least one. -/
  | bytes (first : Byte) (rest : List Byte)
  /-- `HTTPD_SOCK_ERR_TIMEOUT`. -/
  | timeout
  /-- The peer has closed the connection, or another error. -/
  | failed
  deriving DecidableEq

/-- The bytes that are there. -/
def RecvResult.payload : RecvResult → List Byte
  | .bytes first rest => first :: rest
  | .timeout => []
  | .failed => []

/-- Where `read_body` is: in the loop, with `received` bytes in the buffer, or back at its
    caller. -/
inductive Reading
  | loop (received : Nat) (buf : List Byte)
  | returned (result : Int) (buf : List Byte)
  deriving DecidableEq

/-- `read_body` up to its loop (`admin_ports.c:145-149`): `total` is an `int`. -/
def startReading (contentLen : BitVec 32) (buf : List Byte) : Reading :=
  if contentLen.toInt ≤ 0 ∨ buf.length ≤ contentLen.toNat then .returned (-1) buf
  else .loop 0 buf

/-- One pass of the loop (`admin_ports.c:150-161`): `httpd_req_recv` puts at most
    `total - received` bytes in the buffer. -/
def recvOnce (total : Nat) (r : RecvResult) : Reading → Reading
  | .returned result buf => .returned result buf
  | .loop received buf =>
    match r with
    | .timeout => .loop received buf
    | .failed => .returned (-1) buf
    | .bytes first rest =>
      let data := (first :: rest).take (total - received)
      let buf := writeAt buf received data
      let received := received + data.length
      if received < total then .loop received buf
      else .returned received (writeAt buf received [0])

/-- `read_body` (`admin_ports.c:143-162`) after `k` calls of `httpd_req_recv`. -/
def readBody (contentLen : BitVec 32) (buf : List Byte) (recv : Nat → RecvResult) :
    Nat → Reading
  | 0 => startReading contentLen buf
  | k + 1 => recvOnce contentLen.toNat (recv k) (readBody contentLen buf recv k)

/-- The bytes of the first `k` calls. -/
def arrived (recv : Nat → RecvResult) : Nat → List Byte
  | 0 => []
  | k + 1 => arrived recv k ++ (recv k).payload

/-! ## What is returned -/

/-- The body is in the buffer, with a NUL behind it. -/
structure Stored (contentLen : BitVec 32) (before after sent : List Byte) : Prop where
  fits : contentLen.toNat < before.length
  size : after.length = before.length
  enough : contentLen.toNat ≤ sent.length
  body : after.take contentLen.toNat = sent.take contentLen.toNat
  nul : byteAt after contentLen.toNat = 0

/-- `read_body` is back, with the body or with -1. -/
def Answered (contentLen : BitVec 32) (before sent : List Byte) : Reading → Prop
  | .loop _ _ => False
  | .returned result after =>
    result = -1 ∨ result = contentLen.toNat ∧ Stored contentLen before after sent

/-- The bytes that have arrived are in the buffer, and more are to come. -/
structure Receiving (contentLen : BitVec 32) (before now sent : List Byte) : Prop where
  fits : contentLen.toNat < before.length
  size : now.length = before.length
  more : sent.length < contentLen.toNat
  body : now.take sent.length = sent

/-- The loop's invariant, and what `read_body` returns. -/
def Reads (contentLen : BitVec 32) (before sent : List Byte) : Reading → Prop
  | .loop received now => received = sent.length ∧ Receiving contentLen before now sent
  | .returned result after => Answered contentLen before sent (.returned result after)

theorem startReading_reads (contentLen : BitVec 32) (buf : List Byte) :
    Reads contentLen buf [] (startReading contentLen buf) := by
  unfold startReading
  split
  · exact Or.inl rfl
  · rename_i good
    rw [not_or] at good
    have positive : 0 < contentLen.toNat := by
      have value := good.1
      rw [BitVec.toInt_eq_toNat_cond] at value
      split at value
      · omega
      · omega
    exact ⟨rfl, not_le.mp good.2, rfl, positive, rfl⟩

/-- What comes later does not change what was stored. -/
theorem Stored.append {contentLen : BitVec 32} {before after sent : List Byte}
    (stored : Stored contentLen before after sent) (more : List Byte) :
    Stored contentLen before after (sent ++ more) := by
  refine ⟨stored.fits, stored.size, ?_, ?_, stored.nul⟩
  · rw [List.length_append]
    exact stored.enough.trans (Nat.le_add_right _ _)
  · rw [List.take_append_of_le_length stored.enough]
    exact stored.body

/-- The bytes of a call are put behind those that are there. -/
theorem Receiving.take_writeAt {contentLen : BitVec 32} {before now sent data : List Byte}
    (receiving : Receiving contentLen before now sent)
    (room : sent.length + data.length ≤ contentLen.toNat) :
    (writeAt now sent.length data).take (sent.length + data.length) = sent ++ data := by
  have fits := receiving.fits
  rw [take_writeAt_end now sent.length data (by rw [receiving.size]; omega), receiving.body]

/-- The last bytes, and the NUL behind them. -/
theorem Receiving.stored {contentLen : BitVec 32} {before now sent payload data : List Byte}
    (receiving : Receiving contentLen before now sent)
    (taken : payload.take (contentLen.toNat - sent.length) = data)
    (whole : sent.length + data.length = contentLen.toNat) :
    Stored contentLen before
      (writeAt (writeAt now sent.length data) contentLen.toNat [0]) (sent ++ payload) := by
  have fits := receiving.fits
  have inside : contentLen.toNat + [(0 : Byte)].length ≤
      (writeAt now sent.length data).length := by
    rw [writeAt_length, receiving.size, List.length_singleton]
    omega
  refine ⟨fits, ?_, ?_, ?_, ?_⟩
  · rw [writeAt_length, writeAt_length, receiving.size]
  · have length := congrArg List.length taken
    rw [List.length_take] at length
    rw [List.length_append]
    omega
  · have front : ((writeAt (writeAt now sent.length data) contentLen.toNat [0]).take
        contentLen.toNat) = (writeAt now sent.length data).take contentLen.toNat := by
      rw [Bytes.take_writeAt, writeAt, writeAt, List.set_eq_of_length_le (List.length_take_le _ _)]
    rw [front, List.take_append, List.take_of_length_le receiving.more.le, taken]
    have stands := receiving.take_writeAt whole.le
    rw [whole] at stands
    exact stands
  · rw [byteAt_writeAt _ _ inside, if_pos (by rw [List.length_singleton]; omega), Nat.sub_self]
    rfl

/-- A pass of the loop keeps the invariant. -/
theorem recvOnce_reads {contentLen : BitVec 32} {before sent : List Byte} (r : RecvResult)
    {reading : Reading} (reads : Reads contentLen before sent reading) :
    Reads contentLen before (sent ++ r.payload) (recvOnce contentLen.toNat r reading) := by
  cases reading with
  | returned result after =>
    rcases reads with failed | ⟨count, stored⟩
    · exact Or.inl failed
    · exact Or.inr ⟨count, stored.append _⟩
  | loop received now =>
    obtain ⟨rfl, receiving⟩ := reads
    cases r with
    | timeout =>
      rw [RecvResult.payload, List.append_nil]
      exact ⟨rfl, receiving⟩
    | failed => exact Or.inl rfl
    | bytes first rest =>
      have more := receiving.more
      dsimp only [recvOnce, RecvResult.payload]
      generalize payloadIs : first :: rest = payload
      generalize taken : payload.take (contentLen.toNat - sent.length) = data
      have length := congrArg List.length taken
      rw [List.length_take] at length
      split
      · -- what is short of the body has been taken whole
        rename_i short
        have whole : data = payload := by
          rw [← taken]
          exact List.take_of_length_le (by omega)
        have stands := receiving.take_writeAt short.le
        subst whole
        refine ⟨by rw [List.length_append], receiving.fits, ?_, ?_, ?_⟩
        · rw [writeAt_length, receiving.size]
        · rw [List.length_append]
          exact short
        · rw [List.length_append]
          exact stands
      · rename_i full
        have whole : sent.length + data.length = contentLen.toNat := by omega
        rw [whole]
        exact Or.inr ⟨rfl, receiving.stored taken whole⟩

theorem readBody_reads (contentLen : BitVec 32) (buf : List Byte) (recv : Nat → RecvResult)
    (k : Nat) : Reads contentLen buf (arrived recv k) (readBody contentLen buf recv k) := by
  induction k with
  | zero => exact startReading_reads contentLen buf
  | succ k ih => exact recvOnce_reads (recv k) ih

/-! ## Whether it returns -/

/-- The length of the body is rejected, or some call fails other than by a timeout, or the bytes
    that arrive add up to the body. -/
def Ends (contentLen : BitVec 32) (buf : List Byte) (recv : Nat → RecvResult) : Prop :=
  (contentLen.toInt ≤ 0 ∨ buf.length ≤ contentLen.toNat) ∨
    ∃ k, recv k = .failed ∨ contentLen.toNat ≤ (arrived recv k).length

/-- `read_body` returns after finitely many calls, with the body or with -1. -/
def Returns (contentLen : BitVec 32) (buf : List Byte) (recv : Nat → RecvResult) : Prop :=
  ∃ k, Answered contentLen buf (arrived recv k) (readBody contentLen buf recv k)

theorem returns_of_returned {contentLen : BitVec 32} {buf after : List Byte} {result : Int}
    {recv : Nat → RecvResult} {k : Nat}
    (returned : readBody contentLen buf recv k = .returned result after) :
    Returns contentLen buf recv := by
  have reads := readBody_reads contentLen buf recv k
  rw [returned] at reads
  refine ⟨k, ?_⟩
  rw [returned]
  exact reads

theorem recvOnce_eq_failed {total received : Nat} {r : RecvResult} {now last : List Byte}
    (failed : recvOnce total r (.loop received now) = .returned (-1) last) : r = .failed := by
  cases r with
  | timeout => cases failed
  | failed => rfl
  | bytes first rest =>
    dsimp only [recvOnce] at failed
    split at failed
    · cases failed
    · have count := (Reading.returned.inj failed).1
      omega

/-- As long as no call fails and the bytes do not add up, the loop goes on. -/
theorem readBody_continues {contentLen : BitVec 32} {buf : List Byte} {recv : Nat → RecvResult}
    (goes : ¬ Ends contentLen buf recv) (k : Nat) :
    ∃ received now, readBody contentLen buf recv k = .loop received now := by
  rw [Ends, not_or, not_exists] at goes
  obtain ⟨accepted, endless⟩ := goes
  induction k with
  | zero => exact ⟨0, buf, if_neg accepted⟩
  | succ k ih =>
    obtain ⟨received, now, loops⟩ := ih
    have after := readBody_reads contentLen buf recv (k + 1)
    have quiet := not_or.mp (endless k)
    have short := (not_or.mp (endless (k + 1))).2
    cases next : readBody contentLen buf recv (k + 1) with
    | loop received now => exact ⟨received, now, rfl⟩
    | returned result last =>
      rw [next] at after
      rcases after with rfl | ⟨-, stored⟩
      · rw [readBody, loops] at next
        exact absurd (recvOnce_eq_failed next) quiet.1
      · exact absurd stored.enough short

/-- Reading a body ends exactly if its length is rejected, the bytes arrive, or a call fails. -/
theorem readBody_returns_iff (contentLen : BitVec 32) (buf : List Byte)
    (recv : Nat → RecvResult) : Returns contentLen buf recv ↔ Ends contentLen buf recv := by
  constructor
  · rintro ⟨k, answered⟩
    by_contra goes
    obtain ⟨received, now, loops⟩ := readBody_continues goes k
    rw [loops] at answered
    exact answered
  · rintro (rejected | ⟨k, ended⟩)
    · have returned : readBody contentLen buf recv 0 = .returned (-1) buf := if_pos rejected
      exact returns_of_returned returned
    · have reads := readBody_reads contentLen buf recv k
      cases state : readBody contentLen buf recv k with
      | returned result after => exact returns_of_returned state
      | loop received now =>
        rw [state] at reads
        rcases ended with failed | enough
        · have returned : readBody contentLen buf recv (k + 1) = .returned (-1) now := by
            rw [readBody, state, failed]
            rfl
          exact returns_of_returned returned
        · exact absurd reads.2.more (not_lt.mpr enough)

/-- A peer that sends nothing and keeps the connection open holds `read_body` in its loop. -/
theorem readBody_silent_peer : ¬ Returns 1 (List.replicate 256 0) fun _ => .timeout := by
  rw [Returns, not_exists]
  have loops (k : Nat) :
      readBody 1 (List.replicate 256 0) (fun _ => .timeout) k =
        .loop 0 (List.replicate 256 0) := by
    induction k with
    | zero =>
      rw [readBody, startReading, List.length_replicate]
      exact if_neg (by decide)
    | succ k ih =>
      rw [readBody, ih]
      rfl
  intro k
  rw [loops k]
  exact id

end SolarConnect.Http
