import ApertureClient.Comm.Transfers

/-!
# The calls of a connection are runs of the machine

`Connection.sendMessage` and `Connection.recvMessage` are written as the source is, with their
loops, and ask for natural numbers of bytes; the machine of `Comm.Transfers` computes with machine
words and stops at every call of the transport.  Here the first is run on the second: whatever the
transport answers, a call asks for exactly what the machine waits for, and leaves the connection
and the outcome the machine ends with (`sendMessage_along`, `recvMessage_along`).

What is proved of the states of the machine so holds of the calls of the methods:
`sendMessage_inRange` and `recvMessage_inRange`.
-/

namespace Comm

namespace Transfers

open Framing Interaction

variable {X : Type} {R : X → Type} {host : Endian}

/-- A call of `read` or `write` and what the transport answered. -/
abbrev Asked (R : X → Type) := Interaction.Event (StreamReply UInt8 Exception R)

/-- What a state asks of the transport. -/
def State.asks (host : Endian) (s : State) : Option (StreamOp UInt8 X) :=
  match s.phase with
  | .idle _ => none
  | .sendHeader m => some (.write (Word.ofNat host 4 m.size.toNat) 0 4)
  | .sendBody m bytesSent =>
      some (.write m.bytes bytesSent.toNat (m.size.toUInt64 - bytesSent).toNat)
  | .recvHeader _ bytesRecv => some (.read bytesRecv.toNat (4 - bytesRecv).toNat)
  | .recvBody n bytesRecv => some (.read bytesRecv.toNat (n.toUInt64 - bytesRecv).toNat)

/-- An answer as an event of the machine. -/
def answer : Asked R → Option Event
  | ⟨.read _ _, .ok chunk⟩ => some (.delivered chunk.1)
  | ⟨.write _ _ _, .ok k⟩ => some (.wrote (UInt64.ofNat k.1))
  | ⟨.read _ _, .error e⟩ => some (.threw e)
  | ⟨.write _ _ _, .error e⟩ => some (.threw e)
  | ⟨.other _, _⟩ => none

/-- `Along host s tr s'`: from `s` the machine asks for what `tr` asks for, and told the answers in
`tr` it comes to `s'`. -/
inductive Along (host : Endian) (s : State) : List (Asked R) → State → Prop
  | nil : Along host s [] s
  | snoc {mid s' : State} {tr : List (Asked R)} {asked : Asked R} {e : Event} :
      Along host s tr mid → mid.asks host = some asked.1 → answer asked = some e →
      step host mid e = some s' → Along host s (tr ++ [asked]) s'

theorem Along.single {s s' : State} {asked : Asked R} {e : Event}
    (asks : s.asks host = some asked.1) (answered : answer asked = some e)
    (next : step host s e = some s') : Along host s [asked] s' :=
  .snoc .nil asks answered next

/-- Runs compose. -/
theorem Along.append {s mid s' : State} {tr tr' : List (Asked R)} (first : Along host s tr mid)
    (last : Along host mid tr' s') : Along host s (tr ++ tr') s' := by
  induction last with
  | nil => simpa using first
  | snoc _ asks answered next ih =>
      rw [← List.append_assoc]
      exact .snoc ih asks answered next

/-! ## Counters as machine words -/

/-- A counter that fits is the number it counts. -/
theorem counter_toNat {n : ℕ} (small : n < 2 ^ 32) : (UInt64.ofNat n).toNat = n :=
  UInt64.toNat_ofNat_of_lt' (Nat.lt_of_lt_of_le small (by decide))

/-- Comparing a counter with a size. -/
theorem counter_lt_iff {n : ℕ} {size : UInt32} (small : n < 2 ^ 32) :
    UInt64.ofNat n < size.toUInt64 ↔ n < size.toNat := by
  rw [UInt64.lt_iff_toNat_lt, counter_toNat small, UInt32.toNat_toUInt64]

/-- What is left of a buffer. -/
theorem left_toNat {n : ℕ} {size : UInt32} (inside : n < size.toNat) :
    (size.toUInt64 - UInt64.ofNat n).toNat = size.toNat - n := by
  have small : n < 2 ^ 32 := Nat.lt_trans inside size.toNat_lt
  rw [remaining_toNat ((counter_lt_iff small).mpr inside), counter_toNat small,
    UInt32.toNat_toUInt64]

/-! ## Sending -/

/-- At the head of the loop of `send_message` with something left to write. -/
theorem drain_of_lt {conn : Connection} {m : Message} {n : ℕ} (more : n < m.size.toNat) :
    drain conn m (UInt64.ofNat n) = ⟨conn, .sendBody m (UInt64.ofNat n)⟩ := by
  have small : n < 2 ^ 32 := Nat.lt_trans more m.size.toNat_lt
  rw [drain, if_pos ((counter_lt_iff small).mpr more)]

/-- What it then asks for. -/
theorem asks_sendBody {conn : Connection} {m : Message} {n : ℕ} (more : n < m.size.toNat) :
    (⟨conn, .sendBody m (UInt64.ofNat n)⟩ : State).asks (X := X) host
      = some (.write m.bytes n (m.size.toNat - n)) := by
  have small : n < 2 ^ 32 := Nat.lt_trans more m.size.toNat_lt
  simp only [State.asks, counter_toNat small, left_toNat more]

/-- At the head of the loop of `send_message` with nothing left. -/
theorem drain_of_eq {conn : Connection} {m : Message} :
    drain conn m (UInt64.ofNat m.size.toNat)
      = .done (conn.observeBytesSent m.size.toNat) (.ok none) := by
  have small := m.size.toNat_lt
  rw [drain, if_neg fun more => Nat.lt_irrefl _ ((counter_lt_iff small).mp more),
    counter_toNat small]

/-- The loop of `send_message` on the machine. -/
theorem drain_along (host : Endian) {m : Message} {conn conn' : Connection} {tr : List (Asked R)}
    {r : Except Exception ℕ}
    (run : Method.Completes
      (Method.loop (fun bytesSent => decide (bytesSent < m.size.toNat))
        (fun bytesSent => do
          let sent ← Stream.write m.bytes bytesSent (m.size.toNat - bytesSent)
          pure (bytesSent + sent.1)) m.size.toNat 0) conn tr r conn') :
    conn' = conn ∧
      ((r = .ok m.size.toNat ∧
          Along host (drain conn m 0) tr (drain conn m (UInt64.ofNat m.size.toNat))) ∨
        ∃ e, r = .error e ∧ Along host (drain conn m 0) tr (.done conn (.error e))) := by
  -- between two iterations the machine is at the head of its loop, with the same counter
  have rule := Method.completes_countLoop
    (fun bytesSent c tr => c = conn ∧
      Along host (drain conn m 0) tr (drain conn m (UInt64.ofNat bytesSent)))
    (fun bytesSent c tr next c' tr' go inv once => by
      obtain ⟨rfl, along⟩ := inv
      obtain ⟨sent, rfl, heq, rfl⟩ | ⟨e, -, heq, -⟩ := Stream.completes_write_pure.mp once
      · cases heq
        have some := sent.2
        have small := m.size.toNat_lt
        refine ⟨⟨rfl, ?_⟩, by omega, by omega⟩
        rw [drain_of_lt go] at along
        refine .snoc along (e := .wrote (UInt64.ofNat sent.1)) (asks_sendBody go) rfl ?_
        have fits : UInt64.ofNat sent.1 ≤ m.size.toUInt64 - UInt64.ofNat bytesSent := by
          rw [UInt64.le_iff_toNat_le, left_toNat go, counter_toNat (by omega)]
          exact some.2
        rw [UInt64.ofNat_add]
        exact if_pos fits
      · cases heq)
    ⟨rfl, .nil⟩ run
  rcases rule with ⟨rfl, rfl, along⟩ |
    ⟨e, k, c₁, tr₁, tr₂, rfl, rfl, go, ⟨rfl, along⟩, thrown⟩
  · exact ⟨rfl, Or.inl ⟨rfl, along⟩⟩
  · obtain ⟨sent, -, heq, -⟩ | ⟨e', rfl, heq, rfl⟩ := Stream.completes_write_pure.mp thrown
    · cases heq
    · cases heq
      rw [drain_of_lt go] at along
      exact ⟨rfl, Or.inr ⟨e, rfl, .snoc along (asks_sendBody go) rfl rfl⟩⟩

/-- **`send_message` on the machine.** -/
theorem sendMessage_along {m : Message} {conn conn' : Connection} {tr : List (Asked R)}
    {r : Except Exception Unit}
    (run : (Connection.sendMessage host m.bytes m.size).Completes conn tr r conn') :
    Along host (sendMessage conn m) tr (.done conn' (r.map fun _ => none)) := by
  rw [Connection.sendMessage, Method.completes_get_bind] at run
  rw [sendMessage]
  by_cases long : conn.maxBufferSize < m.size
  · rw [if_pos long] at run ⊢
    obtain ⟨rfl, rfl, rfl⟩ := Method.completes_raise.mp run
    exact .nil
  rw [if_neg long] at run ⊢
  rcases Method.completes_bind.mp run with
    ⟨e, rfl, failed⟩ | ⟨ret0, c₁, tr₁, tr₂, rfl, wrote, rest⟩
  · obtain ⟨rfl, rfl⟩ := Stream.completes_write.mp failed
    exact .single (e := .threw e) rfl rfl rfl
  obtain ⟨rfl, rfl⟩ := Stream.completes_write.mp wrote
  have most := ret0.2.2
  have count : (UInt64.ofNat ret0.1).toNat = ret0.1 := counter_toNat (by omega)
  -- the write of the header
  have first : Along host ⟨c₁, .sendHeader m⟩
      [(⟨.write (Word.ofNat host 4 m.size.toNat) 0 4, .ok ret0⟩ : Asked R)]
      (wroteHeader c₁ m (UInt64.ofNat ret0.1)) := by
    refine .single (e := .wrote (UInt64.ofNat ret0.1)) rfl rfl (if_pos ?_)
    rw [UInt64.le_iff_toNat_le, count]
    exact most
  refine first.append ?_
  rw [wroteHeader]
  by_cases whole : ret0.1 = 4
  · rw [if_neg (not_not.mpr whole)] at rest
    rw [whole, if_neg (not_not.mpr (show UInt64.ofNat 4 = 4 from rfl))]
    rcases Method.completes_bind.mp rest with
      ⟨e, rfl, failed⟩ | ⟨bytesSent, c₂, tr₃, tr₄, rfl, drained, observed⟩
    · obtain ⟨rfl, ⟨heq, -⟩ | ⟨e', heq, along⟩⟩ := drain_along host failed
      · cases heq
      · cases heq
        exact along
    · obtain ⟨rfl, ⟨heq, along⟩ | ⟨e', heq, -⟩⟩ := drain_along host drained
      · cases heq
        obtain ⟨rfl, rfl, rfl⟩ := Method.completes_modify.mp observed
        rw [List.append_nil]
        rw [drain_of_eq] at along
        exact along
      · cases heq
  · rw [if_pos whole] at rest
    obtain ⟨rfl, rfl, rfl⟩ := Method.completes_raise.mp rest
    have short : UInt64.ofNat ret0.1 ≠ 4 := fun four => whole (by rw [← count, four]; rfl)
    rw [if_pos short]
    exact .nil

/-! ## Receiving -/

/-- `recv_and_check` on the machine, which is at the head of the loop in `head b n` when the buffer
is `b` and `n` bytes have been read, and leaves it with the connection `conn b` when a read
throws. -/
theorem recvAndCheck_along {size : ℕ} (head : Bytes → UInt64 → State)
    (conn : Bytes → Connection)
    (waits : ∀ b n, n < size →
      (head b (UInt64.ofNat n)).asks (X := X) host = some (.read n (size - n)))
    (takes : ∀ b n (bytes : Bytes), n < size → bytes.length ≤ size - n →
      step host (head b (UInt64.ofNat n)) (.delivered bytes)
        = some (head (Connection.store n bytes b) (UInt64.ofNat (n + bytes.length))))
    (throws : ∀ b n e, n < size →
      step host (head b (UInt64.ofNat n)) (.threw e) = some (.done (conn b) (.error e)))
    {buffer buffer' : Bytes} {tr : List (Asked R)} {r : Except Exception ℕ}
    (run : (Connection.recvAndCheck size).Completes buffer tr r buffer') :
    (r = .ok size ∧ Along host (head buffer 0) tr (head buffer' (UInt64.ofNat size))) ∨
      ∃ e, r = .error e ∧ Along host (head buffer 0) tr (.done (conn buffer') (.error e)) := by
  have rule := Method.completes_countLoop
    (fun bytesRecv b tr => Along host (head buffer 0) tr (head b (UInt64.ofNat bytesRecv)))
    (fun bytesRecv b tr next b' tr' go along once => by
      obtain ⟨chunk, rfl, heq, rfl⟩ | ⟨e, -, heq, -⟩ := Stream.completes_read_modify.mp once
      · cases heq
        have some := chunk.2
        refine ⟨?_, by omega, by omega⟩
        exact .snoc along (waits b bytesRecv go) rfl (takes b bytesRecv chunk.1 go some.2)
      · cases heq)
    .nil run
  rcases rule with ⟨rfl, along⟩ | ⟨e, n, b, tr₁, tr₂, rfl, rfl, go, along, thrown⟩
  · exact Or.inl ⟨rfl, along⟩
  · obtain ⟨chunk, -, heq, -⟩ | ⟨e', rfl, heq, rfl⟩ := Stream.completes_read_modify.mp thrown
    · cases heq
    · cases heq
      exact Or.inr ⟨e, rfl, .snoc along (waits _ n go) rfl (throws _ n e go)⟩

/-- At the head of the first loop with something left to read. -/
theorem fillHeader_of_lt {conn : Connection} {header : Bytes} {n : ℕ} (more : n < 4) :
    fillHeader host conn header (UInt64.ofNat n) = ⟨conn, .recvHeader header (UInt64.ofNat n)⟩ := by
  have inside : UInt64.ofNat n < (4 : UInt32).toUInt64 := (counter_lt_iff (by omega)).mpr more
  exact if_pos inside

/-- At the head of the second loop with something left to read. -/
theorem fillBody_of_lt {conn : Connection} {size : UInt32} {n : ℕ} (more : n < size.toNat) :
    fillBody conn size (UInt64.ofNat n) = ⟨conn, .recvBody size (UInt64.ofNat n)⟩ := by
  have small : n < 2 ^ 32 := Nat.lt_trans more size.toNat_lt
  rw [fillBody, if_pos ((counter_lt_iff small).mpr more)]

/-- The first loop of `recv_message` on the machine. -/
theorem recvHeader_along {conn : Connection} {buffer buffer' : Bytes} {tr : List (Asked R)}
    {r : Except Exception ℕ}
    (run : (Connection.recvAndCheck 4).Completes buffer tr r buffer') :
    (r = .ok 4 ∧ Along host (fillHeader host conn buffer 0) tr (fillHeader host conn buffer' 4)) ∨
      ∃ e, r = .error e ∧
        Along host (fillHeader host conn buffer 0) tr (.done conn (.error e)) := by
  have left : ∀ n < 4, (4 - UInt64.ofNat n).toNat = 4 - n := fun n more => @left_toNat n 4 more
  refine recvAndCheck_along (fillHeader host conn) (fun _ => conn)
    (fun b n more => ?_) (fun b n bytes more bound => ?_) (fun b n e more => ?_) run
  · rw [fillHeader_of_lt more]
    simp only [State.asks, counter_toNat (show n < 2 ^ 32 by omega), left n more]
  · rw [fillHeader_of_lt more, step, left n more, if_pos bound, counter_toNat (by omega),
      UInt64.ofNat_add]
  · rw [fillHeader_of_lt more]
    rfl

/-- The second loop of `recv_message` on the machine. -/
theorem recvBody_along {conn : Connection} {size : UInt32} {buffer : Bytes} {tr : List (Asked R)}
    {r : Except Exception ℕ}
    (run : (Connection.recvAndCheck size.toNat).Completes conn.bufferStr tr r buffer) :
    (r = .ok size.toNat ∧ Along host (fillBody conn size 0) tr
        (fillBody { conn with bufferStr := buffer } size (UInt64.ofNat size.toNat))) ∨
      ∃ e, r = .error e ∧ Along host (fillBody conn size 0) tr
        (.done { conn with bufferStr := buffer } (.error e)) := by
  refine recvAndCheck_along (fun b n => fillBody { conn with bufferStr := b } size n)
    (fun b => { conn with bufferStr := b })
    (fun b n more => ?_) (fun b n bytes more bound => ?_) (fun b n e more => ?_) run
  · rw [fillBody_of_lt more]
    simp only [State.asks, counter_toNat (Nat.lt_trans more size.toNat_lt), left_toNat more]
  · rw [fillBody_of_lt more, step, left_toNat more, if_pos bound,
      counter_toNat (Nat.lt_trans more size.toNat_lt), UInt64.ofNat_add]
  · rw [fillBody_of_lt more]
    rfl

/-- **`recv_message` on the machine.** -/
theorem recvMessage_along {conn conn' : Connection} {tr : List (Asked R)}
    {r : Except Exception Bytes}
    (run : (Connection.recvMessage host).Completes conn tr r conn') :
    Along host (fillHeader host conn (List.replicate 4 0) 0) tr (.done conn' (r.map some)) := by
  rw [Connection.recvMessage] at run
  rcases Method.completes_bind.mp run with
    ⟨e, rfl, failed⟩ | ⟨⟨bytesRecv, header⟩, c₁, tr₁, tr₂, rfl, gotHeader, rest⟩
  · obtain ⟨out, buffer, rfl, threw, readHeader⟩ := Method.completes_onLocal.mp failed
    obtain ⟨rfl, -⟩ | ⟨e', rfl, along⟩ := recvHeader_along readHeader
    · cases threw
    · cases threw
      exact along
  obtain ⟨out, buffer, rfl, returned, readHeader⟩ := Method.completes_onLocal.mp gotHeader
  obtain ⟨rfl, first⟩ | ⟨e', rfl, -⟩ := recvHeader_along readHeader
  swap
  · cases returned
  cases returned
  refine first.append ?_
  simp only [ne_eq, not_true_eq_false, if_false] at rest
  rw [Method.completes_get_bind] at rest
  simp only [fillHeader, UInt64.lt_irrefl, if_false, ne_eq, not_true_eq_false]
  by_cases long : c₁.maxBufferSize < Connection.messageSize host header
  · rw [if_pos long] at rest ⊢
    obtain ⟨rfl, rfl, rfl⟩ := Method.completes_raise.mp rest
    exact .nil
  rw [if_neg long] at rest ⊢
  rw [Method.completes_modify_bind] at rest
  rcases Method.completes_bind.mp rest with
    ⟨e, rfl, failed⟩ | ⟨count, c₂, tr₃, tr₄, rfl, gotBody, last⟩
  · obtain ⟨body, rfl, fill⟩ := Method.completes_focus.mp failed
    obtain ⟨heq, -⟩ | ⟨e', heq, along⟩ := recvBody_along fill
    · cases heq
    · cases heq
      exact along
  obtain ⟨body, rfl, fill⟩ := Method.completes_focus.mp gotBody
  obtain ⟨heq, along⟩ | ⟨e', heq, -⟩ := recvBody_along fill
  swap
  · cases heq
  cases heq
  refine along.append ?_
  have size := (Connection.messageSize host header).toNat_lt
  have full : ¬ UInt64.ofNat (Connection.messageSize host header).toNat
      < (Connection.messageSize host header).toUInt64 :=
    fun more => Nat.lt_irrefl _ ((counter_lt_iff size).mp more)
  have same : UInt64.ofNat (Connection.messageSize host header).toNat
      = (Connection.messageSize host header).toUInt64 := UInt64.ofNat_uInt32ToNat _
  rw [same] at full ⊢
  rw [fillBody, if_neg full, if_neg (not_not.mpr rfl)]
  rw [if_neg (not_not.mpr rfl), Method.completes_get_bind] at last
  by_cases other : (Connection.messageSize host header).toNat ≠ body.length
  · rw [if_pos other] at last ⊢
    obtain ⟨rfl, rfl, rfl⟩ := Method.completes_raise.mp last
    exact .nil
  · rw [if_neg other] at last ⊢
    rw [Method.completes_modify_bind, Method.completes_get_bind] at last
    obtain ⟨rfl, rfl, rfl⟩ := Method.completes_pure.mp last
    exact .nil

/-! ## The calls are in range -/

/-- Something is moved, at most a gigabyte, and a write drains its buffer to the end. -/
def OpInRange : StreamOp UInt8 X → Prop
  | .read _ length => 1 ≤ length ∧ length ≤ 2 ^ 30
  | .write data offset length => 1 ≤ length ∧ length ≤ 2 ^ 30 ∧ offset + length = data.length
  | .other _ => False

/-- What a sound state asks for is in range. -/
theorem State.Sound.asks_inRange {s : State} (sound : s.Sound) {op : StreamOp UInt8 X}
    (asks : s.asks host = some op) : OpInRange op := by
  obtain ⟨conn, p⟩ := s
  cases p with
  | idle o => cases asks
  | sendHeader m =>
      cases asks
      exact ⟨by decide, by decide, by simp⟩
  | sendBody m bytesSent =>
      cases asks
      have range := sound.inRange (t := ⟨m.bytes.length, m.size.toUInt64, bytesSent⟩) rfl
      exact ⟨range.atLeast, range.atMost, range.fills⟩
  | recvHeader header bytesRecv =>
      cases asks
      have range := sound.inRange (t := ⟨header.length, 4, bytesRecv⟩) rfl
      exact ⟨range.atLeast, range.atMost⟩
  | recvBody n bytesRecv =>
      cases asks
      have range := sound.inRange (t := ⟨conn.bufferStr.length, n.toUInt64, bytesRecv⟩) rfl
      exact ⟨range.atLeast, range.atMost⟩

/-- Along a run from a sound state, everything asked for is in range. -/
theorem Along.inRange {s s' : State} {tr : List (Asked R)} (along : Along host s tr s')
    (sound : s.Sound) : s'.Sound ∧ ∀ asked ∈ tr, OpInRange asked.1 := by
  induction along with
  | nil => exact ⟨sound, by simp⟩
  | snoc _ asks answered next ih =>
      obtain ⟨between, before⟩ := ih
      refine ⟨sound_step between next, fun asked there => ?_⟩
      rcases List.mem_append.mp there with earlier | last
      · exact before asked earlier
      · rw [List.mem_singleton.mp last]
        exact between.asks_inRange asks

/-- `send_message` passes lengths in range, and leaves the limit clamped. -/
theorem sendMessage_inRange {m : Message} {conn conn' : Connection} {tr : List (Asked R)}
    {r : Except Exception Unit} (clamped : Clamped conn)
    (run : (Connection.sendMessage host m.bytes m.size).Completes conn tr r conn') :
    Clamped conn' ∧ ∀ asked ∈ tr, OpInRange asked.1 := by
  obtain ⟨sound, all⟩ := (sendMessage_along run).inRange (sound_sendMessage clamped m)
  exact ⟨sound.clamped, all⟩

/-- `recv_message` passes lengths in range, and leaves the limit clamped. -/
theorem recvMessage_inRange {conn conn' : Connection} {tr : List (Asked R)}
    {r : Except Exception Bytes} (clamped : Clamped conn)
    (run : (Connection.recvMessage host).Completes conn tr r conn') :
    Clamped conn' ∧ ∀ asked ∈ tr, OpInRange asked.1 := by
  obtain ⟨sound, all⟩ := (recvMessage_along run).inRange (sound_fillHeader clamped host rfl 0)
  exact ⟨sound.clamped, all⟩

end Transfers

end Comm
