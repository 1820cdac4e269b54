import ApertureClient.Vdms.Session

/-!
# One exchange

`TokenBasedVDMSClient::query` measures a request as a `size_t`, encodes it with a
function that takes an `int` and does nothing when the size is too large for one,
and sends it with one that takes a `uint32_t`.  So a request is put on the wire as
it is, or not at all, unless its size has been reduced to one that is within the
limit of the connection.

The reply is decoded by `ParseFromArray`, whose result is not looked at either: a
payload that is not a message is returned as whatever was decoded of it.
-/

namespace VDMS

open Comm Framing Interaction

/-! ## Encodings -/

namespace QueryMessage

/-- No encoding starts with a zero: a field starts with its number. -/
theorem encode_head (cmd : QueryMessage) : ∀ b ∈ cmd.encode.head?, b ≠ 0 := by
  have field : ∀ number content, number = 1 ∨ number = 2 ∨ number = 3 →
      ∃ b rest, field number content = b :: rest ∧ b ≠ 0 := by
    rintro number content (rfl | rfl | rfl)
    · exact ⟨10, _, rfl, by decide⟩
    · exact ⟨18, _, rfl, by decide⟩
    · exact ⟨26, _, rfl, by decide⟩
  unfold encode singular
  by_cases json : cmd.json = []
  · rw [if_pos json, List.nil_append]
    cases cmd.blobs with
    | nil =>
        rw [List.flatMap_nil, List.nil_append]
        by_cases token : cmd.token = []
        · simp [token]
        · obtain ⟨b, rest, eq, some⟩ := field 3 cmd.token (by simp)
          simp [token, eq, some]
    | cons blob blobs =>
        obtain ⟨b, rest, eq, some⟩ := field 2 blob (by simp)
        simp [eq, some]
  · obtain ⟨b, rest, eq, some⟩ := field 1 cmd.json (by simp)
    simp [json, eq, some]

/-- What is sent in place of a request that protobuf does not encode. -/
theorem message_bytes_of_long {cmd : QueryMessage} (long : intMax < cmd.byteSizeLong) :
    cmd.message.bytes = List.replicate (cmd.byteSizeLong % 2 ^ 32) 0 := by
  have passed : cmd.message.bytes = cmd.buffer.take (cmd.buffer.length % 2 ^ 32) := rfl
  have untouched : cmd.buffer = List.replicate cmd.byteSizeLong 0 := by
    simp [buffer, serializeToArray, long]
  rw [passed, untouched, List.length_replicate, List.take_replicate,
    Nat.min_eq_left (Nat.mod_le _ _)]

/-- The size that the connection is given. -/
theorem message_size (cmd : QueryMessage) : cmd.message.size = UInt32.ofNat cmd.byteSizeLong := by
  have length : cmd.message.bytes.length = cmd.byteSizeLong % 2 ^ 32 := by
    by_cases small : cmd.byteSizeLong ≤ intMax
    · have below : cmd.byteSizeLong < 2 ^ 32 := by
        unfold intMax at small
        omega
      rw [message_bytes small, Nat.mod_eq_of_lt below]
      rfl
    · rw [message_bytes_of_long (Nat.lt_of_not_le small), List.length_replicate]
  apply UInt32.toNat_inj.mp
  rw [Message.size_toNat, length]
  rfl

end QueryMessage

/-! ## One call -/

/-- What one call of `query` sends on: a connection, what was written to it, how the
transport behaves, and what `recv_message` will do. -/
structure Outgoing where
  conn : Connection
  wire : Bytes
  sched : Schedule
  reply : Except Comm.Exception Bytes

/-- How the calls of `query` are answered. -/
def Outgoing.serve (host : Endian) (eof : Comm.Exception) :
    (op : ClientOp) → Outgoing → ClientReply op × Outgoing
  | .connect, o => (.ok (), o)
  | .send request, o =>
      let out := sendOn host eof o.sched request.cmd.message o.conn o.wire
      (out.1, { o with conn := out.2.1, wire := out.2.2 })
  | .recv, o => (o.reply, o)
  | .now _, o => (0, o)

/-- A call threw and wrote nothing, or it wrote the frame of the encoded request. -/
def SentWhole {α : Type} (host : Endian) (cmd : QueryMessage) (wire : Bytes)
    (r : Except Thrown α) (wire' : Bytes) : Prop :=
  ((∃ thrown, r = .error thrown) ∧ wire' = wire) ∨
    (cmd.encode.length < 2 ^ 32 ∧
      wire' = wire ++ (Word.ofNat host 4 cmd.encode.length ++ cmd.encode))

/-- The size that the connection is given is over its limit, or the request can be encoded
and its header is written in one piece. -/
def Sendable (cmd : QueryMessage) (o : Outgoing) : Prop :=
  o.conn.maxBufferSize < UInt32.ofNat cmd.byteSizeLong ∨
    (cmd.byteSizeLong ≤ QueryMessage.intMax ∧ 4 ≤ o.sched.amounts 0)

variable {D : Type} {codec : Codec D} {host : Endian} {eof : Comm.Exception} {σ : Type}

/-- What an exchange does to the wire is what `send_message` does. -/
theorem Answer.wire {request : Request} {tr : Trace} {r : Except Thrown Response} {o o' : Outgoing}
    (answer : Answer codec request tr r)
    (follow : Prog.Follows (Outgoing.serve host eof) o tr o') :
    o'.wire = (sendOn host eof o.sched request.cmd.message o.conn o.wire).2.2 ∧
      ∀ e, (sendOn host eof o.sched request.cmd.message o.conn o.wire).1 = .error e →
        ∃ thrown, r = .error thrown := by
  have sends : ∀ {reply : Except Comm.Exception Unit} {tail : Trace},
      Prog.Follows (Outgoing.serve host eof) o (⟨.send request, reply⟩ :: tail) o' →
        (sendOn host eof o.sched request.cmd.message o.conn o.wire).1 = reply ∧
          Prog.Follows (Outgoing.serve host eof)
            (Outgoing.serve host eof (.send request) o).2 tail o' :=
    fun follow => Prog.follows_cons_iff.mp follow
  cases answer with
  | notSent e =>
      obtain ⟨-, rest⟩ := sends follow
      cases rest
      exact ⟨rfl, fun _ _ => ⟨_, rfl⟩⟩
  | notReceived e =>
      obtain ⟨-, rest⟩ := sends follow
      obtain ⟨-, rfl⟩ := Prog.follows_singleton_iff.mp rest
      exact ⟨rfl, fun _ _ => ⟨_, rfl⟩⟩
  | received payload =>
      obtain ⟨sent, rest⟩ := sends follow
      obtain ⟨-, rfl⟩ := Prog.follows_singleton_iff.mp rest
      refine ⟨rfl, fun e failed => ?_⟩
      rw [sent] at failed
      cases failed

/-- A frame of zeros is not the frame of a request. -/
theorem frame_ne_of_long {cmd : QueryMessage} (long : QueryMessage.intMax < cmd.byteSizeLong)
    (small : cmd.byteSizeLong < 2 ^ 32) :
    cmd.message.frame host ≠ Word.ofNat host 4 cmd.encode.length ++ cmd.encode := by
  intro same
  have zeros := QueryMessage.message_bytes_of_long long
  rw [Nat.mod_eq_of_lt small] at zeros
  have frames : Word.ofNat host 4 cmd.message.bytes.length ++ cmd.message.bytes
      = Word.ofNat host 4 cmd.encode.length ++ cmd.encode := same
  have body := (List.append_inj frames (by simp)).2
  rw [zeros] at body
  have first : cmd.encode.head? = some 0 := by
    have some : 0 < cmd.byteSizeLong := Nat.zero_lt_of_lt long
    rw [← body, List.head?_replicate, if_neg (by omega)]
  exact QueryMessage.encode_head cmd 0 first rfl

/-- What is on the wire after a call, by what `send_message` did. -/
theorem sentWhole_iff {cmd : QueryMessage} {o : Outgoing} {α : Type} {r : Except Thrown α}
    {sent : Except Comm.Exception Unit × Connection × Bytes} (healthy : o.sched.failure = none)
    (spec : Sent host o.sched cmd.message o.conn o.wire sent)
    (throws : ∀ e, sent.1 = .error e → ∃ thrown, r = .error thrown) :
    SentWhole host cmd o.wire r sent.2.2 ↔ Sendable cmd o := by
  have size := cmd.message_size
  have length := cmd.message.frame_length host
  have header : (Word.ofNat host 4 cmd.encode.length ++ cmd.encode).length
      = 4 + cmd.encode.length := by simp
  cases spec with
  | tooLong long =>
      rw [size] at long
      exact iff_of_true (Or.inl ⟨throws _ rfl, rfl⟩) (Or.inl long)
  | refused fits refuses =>
      obtain ⟨e, due⟩ := Schedule.refuses_iff.mp refuses
      rw [healthy] at due
      cases due
  | whole fits takes =>
      rw [size] at fits
      have within := UInt32.not_lt.mpr fits
      have wrote : ¬ (o.wire ++ cmd.message.frame host = o.wire) := by
        intro same
        have := congrArg List.length same
        simp only [List.length_append] at this
        omega
      simp only [SentWhole, Sendable, within, wrote, and_false, false_or,
        List.append_right_inj, takes.1, and_true]
      constructor
      · rintro ⟨small, same⟩
        by_contra long
        exact frame_ne_of_long (Nat.lt_of_not_le long) small same
      · intro small
        have bytes := QueryMessage.message_bytes small
        refine ⟨?_, by rw [Message.frame_eq, Message.size_toNat, bytes]⟩
        rw [← bytes]
        exact cmd.message.small
  | @torn e k fits some breaks pos part =>
      rw [size] at fits
      have within := UInt32.not_lt.mpr fits
      have cut : ¬ 4 ≤ o.sched.amounts 0 := fun enough =>
        breaks ⟨enough, Schedule.lasts_of_healthy healthy _⟩
      have count : ((cmd.message.frame host).take k).length = k := by
        rw [List.length_take]
        omega
      refine iff_of_false ?_ ?_
      · rintro (⟨-, same⟩ | ⟨small, same⟩)
        · have := congrArg List.length same
          rw [List.length_append, count] at this
          omega
        · have := congrArg List.length (List.append_cancel_left same)
          rw [count, header] at this
          have whole : cmd.message.bytes.length = cmd.encode.length := by
            rw [← Message.size_toNat, size]
            exact Nat.mod_eq_of_lt small
          omega
      · rintro (long | ⟨-, enough⟩)
        · exact within long
        · exact cut enough

/-- **A request is sent whole or not at all** just when the size the connection is given is
over its limit, or protobuf encodes the request and its header is not cut. -/
theorem TokenBasedVDMSClient.query_sentWhole_iff (host : Endian) (eof : Comm.Exception)
    (site : Site) (json : Bytes) (blobs : List Bytes) (token : Bytes) (s : σ) (o : Outgoing)
    (healthy : o.sched.failure = none) :
    let out := Prog.interp (Outgoing.serve host eof)
      (TokenBasedVDMSClient.query codec site json blobs token s) o
    SentWhole host ⟨json, blobs, token⟩ o.wire out.1.1 out.2.wire ↔
      Sendable ⟨json, blobs, token⟩ o := by
  intro out
  obtain ⟨tr, run, follow⟩ : ∃ tr,
      Prog.Runs (TokenBasedVDMSClient.query codec site json blobs token s) tr (.ret out.1) ∧
        Prog.Follows (Outgoing.serve host eof) o tr out.2 := Prog.interp_runs _ _ _
  clear_value out
  obtain ⟨-, answer⟩ := (TokenBasedVDMSClient.query_answer codec).mp run
  obtain ⟨wire, throws⟩ := answer.wire follow
  rw [wire]
  exact sentWhole_iff healthy (sendOn_spec host eof o.sched _ o.conn o.wire) throws

/-- A small request, whose reply does not come. -/
theorem TokenBasedVDMSClient.query_sentWhole_iff_of_small :
    let o : Outgoing := ⟨Connection.mk' none, [], ⟨fun _ => 4, none⟩,
      .error (exception .connectionShutDown "")⟩
    let out := Prog.interp (Outgoing.serve .little (exception .connectionShutDown ""))
      (TokenBasedVDMSClient.query (Sample.library []) .query (text "[]") [[7]] (text "t") ()) o
    SentWhole .little ⟨text "[]", [[7]], text "t"⟩ [] out.1.1 out.2.wire ↔
      Sendable ⟨text "[]", [[7]], text "t"⟩ o :=
  TokenBasedVDMSClient.query_sentWhole_iff .little (exception .connectionShutDown "") .query
    (text "[]") [[7]] (text "t") () _ rfl

/-- A request with one blob and nothing else is six bytes longer than its blob. -/
theorem QueryMessage.byteSizeLong_of_blob {blob : Bytes} (large : 2 ^ 28 ≤ blob.length)
    (small : blob.length < 2 ^ 35) :
    (⟨[], [blob], []⟩ : QueryMessage).byteSizeLong = blob.length + 6 := by
  have five : (QueryMessage.varint blob.length).length = 5 := by
    have a : ¬ blob.length < 128 := by omega
    have b : ¬ blob.length / 128 < 128 := by omega
    have c : ¬ blob.length / 128 / 128 < 128 := by omega
    have d : ¬ blob.length / 128 / 128 / 128 < 128 := by omega
    have e : blob.length / 128 / 128 / 128 / 128 < 128 := by omega
    simp [QueryMessage.varint, QueryMessage.varintBytes, a, b, c, d, e]
  have tag : (QueryMessage.varint (8 * 2 + 2)).length = 1 := by decide
  simp only [QueryMessage.byteSizeLong, QueryMessage.encode, QueryMessage.singular, if_true,
    List.nil_append, List.append_nil, List.flatMap_cons, List.flatMap_nil, QueryMessage.field,
    List.length_append, five, tag]
  omega

/-- A request of four gigabytes is sent as an empty frame. -/
theorem TokenBasedVDMSClient.query_not_sentWhole :
    let blob : Bytes := List.replicate (2 ^ 32 - 6) 0
    let out := Prog.interp (Outgoing.serve .little (exception .connectionShutDown ""))
      (TokenBasedVDMSClient.query (Sample.library []) .query [] [blob] [] ())
      ⟨Connection.mk' none, [], ⟨fun _ => 4, none⟩, .ok []⟩
    out.2.wire = [0, 0, 0, 0] ∧ out.1.1 = .ok ⟨[], []⟩ ∧
      ¬ SentWhole .little ⟨[], [blob], []⟩ [] out.1.1 out.2.wire := by
  intro blob out
  have length : blob.length = 2 ^ 32 - 6 := List.length_replicate
  have size : (⟨[], [blob], []⟩ : QueryMessage).byteSizeLong = 2 ^ 32 := by
    rw [QueryMessage.byteSizeLong_of_blob (by omega) (by omega)]
    omega
  have long : QueryMessage.intMax < (⟨[], [blob], []⟩ : QueryMessage).byteSizeLong := by
    rw [size]
    decide
  have empty : (⟨[], [blob], []⟩ : QueryMessage).message = ⟨[], by decide⟩ := by
    rw [Message.mk.injEq, QueryMessage.message_bytes_of_long long, size]
    rfl
  have sent : sendOn .little (exception .connectionShutDown "") ⟨fun _ => 4, none⟩
      (⟨[], [blob], []⟩ : QueryMessage).message (Connection.mk' none) []
      = (.ok (), Connection.mk' none, [0, 0, 0, 0]) := by
    rw [empty]
    rfl
  have run : (TokenBasedVDMSClient.query (Sample.library []) .query [] [blob] []).Completes ()
      [⟨.send ⟨.query, ⟨[], [blob], []⟩⟩, .ok ()⟩, ⟨.recv, .ok []⟩]
      (.ok ((Sample.library []).response [])) () :=
    (TokenBasedVDMSClient.query_answer _).mpr ⟨rfl, .received []⟩
  have follow : Prog.Follows (Outgoing.serve .little (exception .connectionShutDown ""))
      ⟨Connection.mk' none, [], ⟨fun _ => 4, none⟩, .ok []⟩
      [⟨.send ⟨.query, ⟨[], [blob], []⟩⟩, .ok ()⟩, ⟨.recv, .ok []⟩]
      ⟨Connection.mk' none, [0, 0, 0, 0], ⟨fun _ => 4, none⟩, .ok []⟩ := by
    refine Prog.follows_cons_iff.mpr ⟨?_, Prog.follows_singleton_iff.mpr ⟨rfl, ?_⟩⟩
    · simp only [Outgoing.serve, sent]
    · simp only [Outgoing.serve, sent]
  have eq : out = _ := Prog.interp_eq_of_runs run follow
  clear_value out
  subst eq
  refine ⟨rfl, by decide, ?_⟩
  rintro (⟨⟨thrown, failed⟩, -⟩ | ⟨small, -⟩)
  · cases failed
  · exact absurd size (Nat.ne_of_lt small)

/-! ## Replies -/

/-- A payload is returned as the message it encodes, or, when it encodes none, the call
throws. -/
def DecodedOrThrown (codec : Codec D) (payload : Bytes) (r : Except Thrown Response) : Prop :=
  (∀ response, r = .ok response ↔ (codec.parseFromArray payload).1 = true ∧
    response = ⟨(codec.parseFromArray payload).2.json, (codec.parseFromArray payload).2.blobs⟩) ∧
  ((codec.parseFromArray payload).1 = false → ∃ thrown, r = .error thrown)

/-- What a call returns that has received a payload. -/
theorem Answer.response {request : Request} {tr : Trace} {r : Except Thrown Response}
    {payload : Bytes} (answer : Answer codec request tr r) (received : ⟨.recv, .ok payload⟩ ∈ tr) :
    r = .ok (codec.response payload) := by
  cases answer with
  | notSent e => simp at received
  | notReceived e => simp at received
  | received payload' =>
      obtain rfl : payload = payload' := by simpa using received
      rfl

/-- **A malformed reply is an error** just when there is none: the payload is returned as the
message it encodes if it encodes one, and as something else if it does not. -/
theorem TokenBasedVDMSClient.query_decodedOrThrown_iff {site : Site} {json : Bytes}
    {blobs : List Bytes} {token payload : Bytes} {s s' : σ} {tr : Trace}
    {r : Except Thrown Response}
    (run : (TokenBasedVDMSClient.query codec site json blobs token).Completes s tr r s')
    (received : ⟨.recv, .ok payload⟩ ∈ tr) :
    DecodedOrThrown codec payload r ↔ (codec.parseFromArray payload).1 = true := by
  obtain ⟨-, answer⟩ := (TokenBasedVDMSClient.query_answer codec).mp run
  obtain rfl := answer.response received
  constructor
  · rintro ⟨decoded, -⟩
    exact ((decoded _).mp rfl).1
  · intro valid
    refine ⟨fun response => ?_, fun malformed => ?_⟩
    · simp only [valid, true_and, Except.ok.injEq]
      exact eq_comm
    · cases valid.symm.trans malformed

namespace Sample

/-- A varint at the front of bytes, and the bytes behind it. -/
def varint? : Bytes → Option (ℕ × Bytes)
  | [] => none
  | b :: rest =>
      if b < 128 then some (b.toNat, rest)
      else (varint? rest).map fun more => (b.toNat - 128 + 128 * more.1, more.2)

/-- Read at most `fuel` fields into a message, up to one that is not complete. -/
def parseFields : ℕ → QueryMessage → Bytes → Bool × QueryMessage
  | _, msg, [] => (true, msg)
  | 0, msg, _ :: _ => (false, msg)
  | fuel + 1, msg, tag :: rest =>
      match varint? rest with
      | none => (false, msg)
      | some (n, rest) =>
          if rest.length < n then (false, msg)
          else if tag = 10 then parseFields fuel { msg with json := rest.take n } (rest.drop n)
          else if tag = 18 then
            parseFields fuel { msg with blobs := msg.blobs ++ [rest.take n] } (rest.drop n)
          else if tag = 26 then parseFields fuel { msg with token := rest.take n } (rest.drop n)
          else (false, msg)

/-- A codec that decodes the fields of a message. -/
def decoding : Codec Float where
  parseFromArray payload := parseFields payload.length ⟨[], [], []⟩ payload
  parse := (library []).parse
  dump := (library []).dump

example : decoding.parseFromArray (⟨text "[]", [[7], []], text "t"⟩ : QueryMessage).encode
    = (true, ⟨text "[]", [[7], []], text "t"⟩) := by decide

end Sample

/-- A reply with two blobs. -/
theorem TokenBasedVDMSClient.query_decodedOrThrown_iff_of_blobs :
    let payload := (⟨text "[]", [[7], []], []⟩ : QueryMessage).encode
    DecodedOrThrown Sample.decoding payload (.ok ⟨text "[]", [[7], []]⟩) ↔
      (Sample.decoding.parseFromArray payload).1 = true := by
  intro payload
  have run : (TokenBasedVDMSClient.query Sample.decoding .query (text "[]") [] []).Completes ()
      (Sample.exchanged .query (text "[]") [] payload) (.ok ⟨text "[]", [[7], []]⟩) () :=
    Prog.runs_of_replay (by decide +kernel)
  exact TokenBasedVDMSClient.query_decodedOrThrown_iff run (by decide)

/-- A reply that is cut inside its second blob is returned as a reply with one. -/
theorem TokenBasedVDMSClient.query_not_decodedOrThrown :
    let payload := (⟨text "[]", [[7], [8, 9]], []⟩ : QueryMessage).encode.take 10
    (TokenBasedVDMSClient.query Sample.decoding .query (text "[]") [] []).Completes ()
        (Sample.exchanged .query (text "[]") [] payload) (.ok ⟨text "[]", [[7]]⟩) () ∧
      (Sample.decoding.parseFromArray payload).1 = false ∧
      ¬ DecodedOrThrown Sample.decoding payload (.ok ⟨text "[]", [[7]]⟩) := by
  intro payload
  have malformed : (Sample.decoding.parseFromArray payload).1 = false := by decide
  refine ⟨Prog.runs_of_replay (by decide +kernel), malformed, ?_⟩
  rintro ⟨-, throws⟩
  obtain ⟨thrown, failed⟩ := throws malformed
  cases failed

end VDMS
