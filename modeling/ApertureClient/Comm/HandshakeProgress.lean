import ApertureClient.Comm.Agreement
import ApertureClient.Comm.FailFast
import ApertureClient.Interaction.Progress

/-!
# Progress of the handshake

The client sends its hello message before it reads, and the server answers the message it reads
before it decides anything.  So neither waits for the other with nothing on its way: on every run
of the two, both finish, whatever their masks and the client's version, however the reads are cut
into pieces and in whatever order the two go on.

The client has not connected before and its port is valid.  The transport is faithful: no call
fails, the TLS handshake included, and headers are written whole.
-/

namespace Comm

open Framing Interaction Transition

variable {host : Endian} {tr : SocketTrace}

/-- A party that has been served faithfully until a read failed was undisturbed. -/
theorem undisturbed_of_starved {offset n : ℕ} {e : Exception}
    (ends : Stream.EndsInFailedRead tr e)
    (served : ∀ ev ∈ tr, Duplex.Served faithful ev ∨ ev = ⟨.read offset n, .error e⟩) :
    Undisturbed host tr where
  calls x reply among := by
    rcases served _ among with ok | heq
    · exact ok
    · cases heq
  writes e' fail := by
    -- the last call was a read
    obtain ⟨before, data, offset', length, -, rfl⟩ := fail
    obtain ⟨before', offset'', length', -, heq⟩ := ends
    obtain ⟨-, last⟩ := List.append_inj' heq rfl
    cases last
  headers size k among := by
    rcases served _ among with ok | heq
    · exact ok (by simp)
    · cases heq

theorem readResponse_ne_peerClosed (response : Bytes) :
    ConnClient.readResponse host response ≠ .error peerClosed := by
  unfold ConnClient.readResponse ConnClient.chooseTransport
  split_ifs
  all_goals simp [exception, peerClosed, ExceptionType.num]

theorem chooseTransport_ne_peerClosed (hello : HelloMessage) :
    ConnServer.chooseTransport hello ≠ .error peerClosed := by
  unfold ConnServer.chooseTransport
  split_ifs
  all_goals simp [exception, peerClosed, ExceptionType.num]

/-- **A client that waits** has sent its hello message, and has not read a whole frame. -/
theorem connectOutcome_starved {hello : HelloMessage} {client : ConnClient}
    (outcome : ConnectOutcome host hello client tr (.error peerClosed))
    (undisturbed : Undisturbed host tr) :
    Stream.sent tr = (hello.message host).frame host ∧
      ∀ (m : Message) (later unread : Bytes), m.size ≤ defaultBufferSize →
        m.frame host ++ later = Stream.received tr ++ unread →
        (Stream.received tr).length < (m.frame host).length := by
  generalize closed : peerClosed = e at outcome
  cases outcome with
  | badPort bad => simp [exception, peerClosed, ExceptionType.num] at closed
  | systemFailed among fails => exact absurd (undisturbed.calls _ _ among) fails
  | rejected calls exchange rejects =>
      exact absurd (closed ▸ rejects) (readResponse_ne_peerClosed _)
  | exchangeFailed calls exchange =>
      cases exchange with
      | sendFailed failed => exact (hello_not_failed failed rfl undisturbed).elim
      | recvFailed sent quiet quiet' got =>
          obtain ⟨sent, limit⟩ := hello_sent sent
          refine ⟨by simp [calls.sent_eq, sent, quiet'], fun m later unread fits stream => ?_⟩
          simp only [Stream.received_append, calls.received_eq, quiet, List.nil_append] at stream ⊢
          rcases recvOutcome_error got stream with long | ⟨-, short⟩
          · rw [limit] at long
            exact absurd fits (UInt32.not_le.mpr long)
          · exact short

/-- **A server that waits** has not read the client's hello message. -/
theorem negotiateOutcome_starved {allowedProtocols : Protocol} {conn : Connection}
    (limit : conn.maxBufferSize = defaultBufferSize)
    (outcome : NegotiateOutcome host allowedProtocols conn tr (.error peerClosed))
    (undisturbed : Undisturbed host tr) {hello : HelloMessage} {later unread : Bytes}
    (stream : (hello.message host).frame host ++ later = Stream.received tr ++ unread) :
    (Stream.received tr).length < ((hello.message host).frame host).length := by
  generalize closed : peerClosed = e at outcome
  cases outcome with
  | recvFailed quiet got =>
      rcases recvOutcome_error got stream with long | ⟨-, short⟩
      · rw [limit] at long
        exact absurd (hello.message_fits host) (UInt32.not_le.mpr long)
      · exact short
  | malformed quiet got eight => simp [exception, peerClosed, ExceptionType.num] at closed
  | sendFailed quiet got eight failed quiet' =>
      rw [Stream.received_append, quiet', List.append_nil] at stream
      obtain ⟨rfl, rfl, -, rfl⟩ := recvOutcome_ok got stream
      exact (hello_not_failed failed limit undisturbed).elim
  | rejected quiet got eight sent quiet' rejects =>
      exact absurd (closed ▸ rejects) (chooseTransport_ne_peerClosed _)
  | systemFailed among fails => exact absurd (undisturbed.calls _ _ among) fails

theorem obliging_faithful : Duplex.Obliging faithful where
  answers x := ⟨succeeding x, succeeds_succeeding x⟩
  accepts _ n pos := ⟨⟨n, pos, le_rfl⟩, fun _ => rfl⟩

/-- Both parties have finished. -/
def Finished {α γ : Type} (c : Duplex.Config UInt8 Exception SystemReply α γ) : Prop :=
  (∃ a, c.left = .ret a) ∧ ∃ b, c.right = .ret b

/-- Where neither party can go on, both have finished. -/
theorem finished_of_stuck {version : UInt32} {client : ConnClient}
    (fresh : client.connection = none) (good : ¬ client.server.BadPort)
    {allowedProtocols : Protocol} {metrics : Option ConnMetrics}
    {c : Duplex.Config UInt8 Exception SystemReply
      (Except Exception Established × ConnClient) (Except Exception Established × Connection)}
    (reaches : Duplex.Reaches faithful Usable Usable
      (handshake host version client allowedProtocols metrics) c)
    (stuck : Stuck (Duplex.Works faithful) c) : Finished c := by
  obtain ⟨trL, trR, h⟩ := reaches.traces
  have fastL := ConnClient.failFast_connectAs (e := peerClosed) host version client
  have fastR := ConnServer.failFast_negotiateProtocol (e := peerClosed) host allowedProtocols
    (Connection.mk' metrics)
  have toRight := h.toRight
  have toLeft := h.toLeft
  rw [Duplex.Balanced] at toRight toLeft
  -- what a waiting server has read is less than a hello message
  have serverShort : ∀ {offset n k}, c.right = .call (.read offset n) k →
      ∀ (hello : HelloMessage) (later unread : Bytes),
        (hello.message host).frame host ++ later = Stream.received trR ++ unread →
        (Stream.received trR).length < ((hello.message host).frame host).length := by
    intro offset n k waits hello later unread stream
    have ran := h.right
    rw [waits] at ran
    obtain ⟨tr', s, run, ends, received, -, served⟩ := ran.starved fastR
    rw [← received] at stream ⊢
    exact negotiateOutcome_starved rfl (negotiateProtocol_outcome run)
      (undisturbed_of_starved ends served) stream
  rcases Duplex.stuck_left obliging_faithful (fastL.runs h.left.runs) stuck with
    ⟨a, left⟩ | ⟨offset, n, k, left, unreadL⟩
  · rcases Duplex.stuck_right obliging_faithful (fastR.runs h.right.runs) stuck with
      ⟨b, right⟩ | ⟨offset, n, k, right, unreadR⟩
    · exact ⟨⟨a, left⟩, b, right⟩
    -- a client that has finished has sent its hello message
    have ranL := h.left.runs
    rw [left] at ranL
    rcases connectOutcome_undisturbed (connectAs_outcome fresh ranL)
        (undisturbed_of_served host h.left.served) with ⟨bad, -⟩ | ⟨sent, -⟩
    · exact absurd bad good
    rw [sent, unreadR] at toRight
    have short := serverShort right _ _ _ toRight
    have := congrArg List.length toRight
    simp only [List.length_append, List.length_nil] at this
    omega
  have ranL := h.left
  rw [left] at ranL
  have none := ranL.later_of_call
  obtain ⟨tr', s, run, ends, received, sent', served⟩ := ranL.starved fastL
  obtain ⟨sent, short⟩ := connectOutcome_starved (connectAs_outcome fresh run)
    (undisturbed_of_starved ends served)
  rw [sent'] at sent
  rw [received] at short
  rw [sent, none] at toRight
  rw [unreadL] at toLeft
  rcases Duplex.stuck_right obliging_faithful (fastR.runs h.right.runs) stuck with
    ⟨b, right⟩ | ⟨offset', n', k', right, unreadR⟩
  · -- a server that has finished has answered
    have ranR := h.right.runs
    rw [right] at ranR
    obtain ⟨-, serves⟩ := negotiateOutcome_undisturbed rfl (negotiateProtocol_outcome ranR)
      (undisturbed_of_served host h.right.served)
      (fun _ => Duplex.not_endsInFailedRead h.right.served)
    obtain ⟨-, answered, -⟩ := serves _ _ _ toRight
    rw [answered] at toLeft
    have := congrArg List.length toLeft
    have := short _ _ _ (HelloMessage.message_fits host _) toLeft
    simp only [List.length_append, List.length_nil] at *
    omega
  · rw [unreadR] at toRight
    have := serverShort right _ _ _ toRight
    have := congrArg List.length toRight
    simp only [List.length_append, List.length_nil] at *
    omega

/-- **The handshake comes to an end.**  From every point it can get to, on every run, both parties
finish: neither waits for ever, and neither goes on for ever. -/
theorem handshake_inevitable (host : Endian) (version : UInt32) (client : ConnClient)
    (fresh : client.connection = none) (good : ¬ client.server.BadPort)
    (allowedProtocols : Protocol) (metrics : Option ConnMetrics)
    (c : Duplex.Config UInt8 Exception SystemReply
      (Except Exception Established × ConnClient) (Except Exception Established × Connection))
    (reaches : Duplex.Reaches faithful Usable Usable
      (handshake host version client allowedProtocols metrics) c) :
    Inevitable (Duplex.Works faithful) Finished c :=
  Duplex.inevitable reaches fun _ there stuck => finished_of_stuck fresh good there stuck

/-- A client and a server that have nothing in common finish all the same. -/
theorem handshake_inevitable_of_rejection :
    Inevitable (Duplex.Works faithful) Finished
      (handshake .little 1 ⟨.tls, none, ⟨"localhost", 55555⟩, none⟩ .tcp none) :=
  handshake_inevitable .little 1 ⟨.tls, none, ⟨"localhost", 55555⟩, none⟩ rfl (by decide) .tcp
    none _
    .refl

end Comm
