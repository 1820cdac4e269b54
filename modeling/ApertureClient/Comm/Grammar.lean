import ApertureClient.Comm.Wire

/-!
# What a stream makes `recv_message` do

`readFrame` is what one call does to a byte stream, in terms of the stream and the
limit alone.  `recvOn_eq_readFrame` says that `recvMessage` does just that, however the
transport cuts the stream up and whatever the buffer of the connection holds; the stream
may come from any peer.
-/

namespace Comm

open Framing Interaction

variable {host : Endian} {eof : Exception}

/-- The length that a stream announces. -/
def announced (host : Endian) (stream : Bytes) : UInt32 :=
  Connection.messageSize host (stream.take 4)

/-- What `recv_message` makes of a stream that is all there is: how it ends, and what it
leaves. -/
def readFrame (host : Endian) (eof : Exception) (limit : UInt32) (stream : Bytes) :
    Except Exception Bytes × Bytes :=
  let size := announced host stream
  if stream.length < 4 then (.error eof, [])
  else if limit < size then
    (.error (exception .invalidMessageSize (Connection.recvTooLong limit size)), stream.drop 4)
  else if stream.length < 4 + size.toNat then (.error eof, [])
  else (.ok ((stream.drop 4).take size.toNat), stream.drop (4 + size.toNat))

/-- A read fails on a transport that does not throw because nothing is left. -/
theorem nothing_left {sched : Schedule} {stream : Bytes} {e : Exception}
    {tr : List (Event (StreamReply UInt8 Exception fun _ : Empty => Unit))}
    {env' : Stream.Env UInt8 Exception} (healthy : sched.failure = none)
    (follow : Prog.Follows (Stream.serve eof fun x : Empty => x.elim)
      ⟨stream, [], sched.amounts, sched.failure⟩ tr env')
    (fail : Stream.EndsInFailedRead tr e) : e = eof ∧ env'.incoming = [] := by
  rcases Stream.follows_failed_read follow fail with due | nothing
  · rw [healthy] at due
    cases due
  · exact nothing

theorem announced_append {bytes : Bytes} (four : bytes.length = 4) (rest : Bytes) :
    announced host (bytes ++ rest) = Connection.messageSize host bytes := by
  rw [announced, ← four, List.take_left]

/-- **`recv_message` on any stream.** -/
theorem recvOn_eq_readFrame (host : Endian) (eof : Exception) (sched : Schedule) (conn : Connection)
    (stream : Bytes) (healthy : sched.failure = none) :
    let out := recvOn host eof sched conn stream
    (out.1, out.2.2) = readFrame host eof conn.maxBufferSize stream ∧
      (conn.maxBufferSize < announced host stream → out.2.1 = conn) := by
  generalize call : recvOn host eof sched conn stream = out
  obtain ⟨r, conn', unread⟩ := out
  obtain ⟨tr, env', follow, -, outcome, rfl, read⟩ := recvOn_outcome host eof sched conn _ call
  cases outcome with
  | headerFailed fail lt =>
      -- a transport that does not throw fails only at the end of the stream
      obtain ⟨rfl, none⟩ := nothing_left healthy follow fail
      rw [none, List.append_nil] at read
      rw [none, read, readFrame, if_pos lt]
      exact ⟨rfl, fun _ => rfl⟩
  | @tooLong bytes four got long =>
      rw [got] at read
      subst read
      have some : ¬ (bytes ++ env'.incoming).length < 4 := by
        rw [List.length_append]
        omega
      rw [readFrame, announced_append four, if_neg some, if_pos long, ← four, List.drop_left]
      exact ⟨rfl, fun _ => rfl⟩
  | @bodyFailed e bytes part four fail fits got lt =>
      obtain ⟨rfl, none⟩ := nothing_left healthy follow fail
      rw [none, got, List.append_nil] at read
      subst read
      have length : (bytes ++ part).length = 4 + part.length := by rw [List.length_append, four]
      have within := UInt32.not_lt.mpr fits
      rw [readFrame, announced_append four, if_neg (by omega), if_neg within,
        if_pos (by omega), none]
      exact ⟨rfl, fun long => absurd long within⟩
  | @received bytes body four fits got size =>
      rw [got, List.append_assoc] at read
      subst read
      have length : (bytes ++ (body ++ env'.incoming)).length
          = 4 + (body.length + env'.incoming.length) := by
        rw [List.length_append, List.length_append, four]
      have within := UInt32.not_lt.mpr fits
      rw [readFrame, announced_append four, if_neg (by omega), if_neg within, if_neg (by omega),
        ← size]
      refine ⟨?_, fun long => absurd long within⟩
      rw [← List.drop_drop, ← four, List.drop_left, List.take_left, List.drop_left]

/-- What is made of a stream that starts with a length. -/
theorem readFrame_header {limit size : UInt32} {rest : Bytes} :
    readFrame host eof limit (Word.ofNat host 4 size.toNat ++ rest)
      = if limit < size then
          (.error (exception .invalidMessageSize (Connection.recvTooLong limit size)), rest)
        else if rest.length < size.toNat then (.error eof, [])
        else (.ok (rest.take size.toNat), rest.drop size.toNat) := by
  have four : (Word.ofNat host 4 size.toNat).length = 4 := Word.ofNat_length host 4 size.toNat
  have length : (Word.ofNat host 4 size.toNat ++ rest).length = 4 + rest.length := by
    rw [List.length_append, four]
  have behind : (Word.ofNat host 4 size.toNat ++ rest).drop 4 = rest := List.drop_left' four
  have short : 4 + rest.length < 4 + size.toNat ↔ rest.length < size.toNat := by omega
  simp only [readFrame, announced_append four, Connection.messageSize_encode, length,
    ← List.drop_drop, behind, short]
  rw [if_neg (by omega)]

/-- A stream of at least four bytes starts with a length. -/
theorem eq_header_append {stream : Bytes} (some : 4 ≤ stream.length) :
    stream = Word.ofNat host 4 (announced host stream).toNat ++ stream.drop 4 := by
  have four : (stream.take 4).length = 4 := by
    rw [List.length_take]
    omega
  have small := Word.toNat_lt host (stream.take 4)
  have same := Word.ofNat_toNat host (stream.take 4)
  rw [four] at small same
  have value : (announced host stream).toNat = Word.toNat host (stream.take 4) :=
    UInt32.toNat_ofNat_of_lt' small
  rw [value, same, List.take_append_drop]

/-- **`recv_message` accepts exactly the frames.**  A frame within the limit is returned and
nothing behind it is read, a length over the limit is refused with the buffer as it was,
and on every other stream the call throws; how the reads cut up the stream and what the
buffer holds make no difference. -/
theorem recvOn_grammar (host : Endian) (eof : Exception) (sched : Schedule) (conn : Connection)
    (stream : Bytes) (healthy : sched.failure = none) :
    let out := recvOn host eof sched conn stream
    (∀ size : UInt32, ∀ body rest, stream = Word.ofNat host 4 size.toNat ++ (body ++ rest) →
      body.length = size.toNat → size ≤ conn.maxBufferSize → out.1 = .ok body ∧ out.2.2 = rest) ∧
    (∀ size : UInt32, ∀ rest, stream = Word.ofNat host 4 size.toNat ++ rest →
      conn.maxBufferSize < size →
      out.1 = .error (exception .invalidMessageSize
        (Connection.recvTooLong conn.maxBufferSize size)) ∧ out.2.1 = conn ∧ out.2.2 = rest) ∧
    ((∀ size : UInt32, ∀ rest, stream = Word.ofNat host 4 size.toNat ++ rest →
      size ≤ conn.maxBufferSize ∧ rest.length < size.toNat) → ∃ e, out.1 = .error e) ∧
    ∀ sched' : Schedule, ∀ conn' : Connection, sched'.failure = none →
      conn'.maxBufferSize = conn.maxBufferSize →
      (recvOn host eof sched' conn' stream).1 = out.1 ∧
        (recvOn host eof sched' conn' stream).2.2 = out.2.2 := by
  intro out
  obtain ⟨read, kept⟩ := recvOn_eq_readFrame host eof sched conn stream healthy
  have result : out.1 = (readFrame host eof conn.maxBufferSize stream).1 := congrArg Prod.fst read
  have unread : out.2.2 = (readFrame host eof conn.maxBufferSize stream).2 := congrArg Prod.snd read
  refine ⟨?_, ?_, ?_, ?_⟩
  · rintro size body rest rfl length fits
    rw [result, unread, readFrame_header, if_neg (UInt32.not_lt.mpr fits),
      if_neg (by rw [List.length_append]; omega), ← length, List.take_left, List.drop_left]
    exact ⟨rfl, rfl⟩
  · rintro size rest rfl long
    have size_eq : announced host (Word.ofNat host 4 size.toNat ++ rest) = size := by
      rw [announced_append (Word.ofNat_length _ _ _), Connection.messageSize_encode]
    rw [size_eq] at kept
    rw [result, unread, readFrame_header, if_pos long]
    exact ⟨rfl, kept long, rfl⟩
  · intro other
    -- a stream of four bytes announces a length, a shorter one does not
    by_cases some : 4 ≤ stream.length
    · obtain ⟨fits, short⟩ := other _ _ (eq_header_append some)
      rw [result, eq_header_append some, readFrame_header, if_neg (UInt32.not_lt.mpr fits),
        if_pos short]
      exact ⟨eof, rfl⟩
    · rw [result, readFrame, if_pos (Nat.lt_of_not_le some)]
      exact ⟨eof, rfl⟩
  · intro sched' conn' healthy' limit
    obtain ⟨read', -⟩ := recvOn_eq_readFrame host eof sched' conn' stream healthy'
    rw [limit] at read'
    exact ⟨(congrArg Prod.fst read').trans result.symm, (congrArg Prod.snd read').trans unread.symm⟩

/-- A frame of two bytes and what comes behind it, read a byte at a time. -/
theorem recvOn_grammar_of_two :
    (recvOn .little (exception .connectionShutDown "") ⟨fun _ => 1, none⟩
      ⟨[1, 2, 3], minBufferSize, none⟩ [2, 0, 0, 0, 8, 9, 7]).1 = .ok [8, 9] :=
  ((recvOn_grammar .little (exception .connectionShutDown "") ⟨fun _ => 1, none⟩
    ⟨[1, 2, 3], minBufferSize, none⟩ [2, 0, 0, 0, 8, 9, 7] rfl).1 2 [8, 9] [7] rfl rfl
      (by decide)).1

end Comm
