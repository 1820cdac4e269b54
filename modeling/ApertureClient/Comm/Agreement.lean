import ApertureClient.Comm.HandshakeRuns
import ApertureClient.Interaction.Duplex

/-!
# Handshake agreement

`ConnClient::connect` and `ConnServer::negotiate_protocol` run against each other
over a faithful stream in each direction, with every fragmentation of the reads
and every interleaving of their steps.  System calls and the TLS handshake
succeed, and a header is accepted in one piece.

By `Duplex.Reaches.traces` the two runs can be looked at one after the other: what
the server received is the client's hello message, so its answer is known, so
what the client received is known.  The two decision chains choose the same
transport on that answer, which settles all masks at once.
-/

namespace Comm

open Framing Interaction

/-- The transport and the operating system during the handshake. -/
def faithful : Manners UInt8 SystemCall SystemReply where
  accepts data n k := data.length = 4 → k = n
  answers := Succeeds

/-- Nothing gets in the way of a party that is served faithfully. -/
theorem undisturbed_of_served {tr : SocketTrace} (host : Endian)
    (served : ∀ e ∈ tr, Duplex.Served faithful e) : Undisturbed host tr where
  calls _ _ among := served _ among
  writes _ := Duplex.not_endsInFailedWrite served
  headers _ _ among := served _ among (by simp)

/-- A party that has a connection may use it. -/
def Usable {τ : Type} (result : Except Exception Established × τ) : Prop :=
  ∃ connection, result.1 = .ok connection

/-- A client and a server before the handshake. -/
def handshake (host : Endian) (version : UInt32) (client : ConnClient) (allowedProtocols : Protocol)
    (metrics : Option ConnMetrics) : Duplex.Config UInt8 Exception SystemReply
      (Except Exception Established × ConnClient) (Except Exception Established × Connection) :=
  Duplex.start (ConnClient.connectAs host version client)
    (ConnServer.negotiateProtocol host allowedProtocols (Connection.mk' metrics))

/-- **Handshake agreement.**  When both parties have finished, both have thrown or
both have a connection of the same transport, which is the one their masks and the
client's version select, and each has read the other's hello message and nothing
of what was sent after it. -/
theorem handshake_agreement (host : Endian) (version : UInt32) (client : ConnClient)
    (fresh : client.connection = none) (allowedProtocols : Protocol)
    (metrics : Option ConnMetrics)
    (c : Duplex.Config UInt8 Exception SystemReply
      (Except Exception Established × ConnClient) (Except Exception Established × Connection))
    (reaches : Duplex.Reaches faithful Usable Usable
      (handshake host version client allowedProtocols metrics) c)
    (rc rs : Except Exception Established) (client' : ConnClient) (conn' : Connection)
    (left : c.left = .ret (rc, client')) (right : c.right = .ret (rs, conn')) :
    (((∃ e, rc = .error e) ∧ ∃ e, rs = .error e) ∨
      ∃ a b, rc = .ok a ∧ rs = .ok b ∧ a.transport = b.transport) ∧
    (∀ transport, (∃ a, rc = .ok a ∧ a.transport = transport) ↔
      Agreed version client.allowedProtocols allowedProtocols transport) ∧
    c.toRight.unread = c.toRight.later ∧ c.toLeft.unread = c.toLeft.later := by
  obtain ⟨trL, trR, h⟩ := reaches.traces
  have ranL := h.left.runs
  have ranR := h.right.runs
  rw [left] at ranL
  rw [right] at ranR
  obtain ⟨some, serves⟩ := negotiateOutcome_undisturbed rfl (negotiateProtocol_outcome ranR)
    (undisturbed_of_served host h.right.served)
    (fun _ => Duplex.not_endsInFailedRead h.right.served)
  rcases connectOutcome_undisturbed (connectAs_outcome fresh ranL)
      (undisturbed_of_served host h.left.served) with
    ⟨-, ⟨e, rfl⟩, silent⟩ | ⟨sent, goesBy⟩
  -- a client that sent nothing leaves the server waiting
  · exfalso
    have none : c.toRight.later = [] := by
      by_contra more
      obtain ⟨a, heq, connection, ok⟩ := h.left.later more
      rw [left] at heq
      cases heq
      cases ok
    have nothing := h.toRight
    rw [Duplex.Balanced, silent, none] at nothing
    exact some (List.append_eq_nil_iff.mp nothing.symm).1
  -- the server reads what the client sent, and the client what the server answered
  have toRight := h.toRight
  rw [Duplex.Balanced, sent] at toRight
  obtain ⟨readR, answered, verdictR⟩ := serves _ _ _ toRight
  have toLeft := h.toLeft
  rw [Duplex.Balanced, answered] at toLeft
  obtain ⟨readL, verdictL⟩ := goesBy _ _ _ (HelloMessage.message_fits host _)
    (fun _ fail => absurd fail (Duplex.not_endsInFailedRead h.left.served)) toLeft
  -- both go by the same answer, so each decides as the other does
  have decidedL : ∀ transport, (∃ a, rc = .ok a ∧ a.transport = transport) ↔
      Agreed version client.allowedProtocols allowedProtocols transport := by
    intro transport
    rw [← verdictL, HelloMessage.message, readResponse_toBytes, client_chooseTransport_iff,
      answer_selects_iff]
  have decidedR : ∀ transport, (∃ b, rs = .ok b ∧ b.transport = transport) ↔
      Agreed version client.allowedProtocols allowedProtocols transport := by
    intro transport
    rw [← verdictR, server_chooseTransport_iff, answer_selects_iff]
  refine ⟨?_, decidedL, readR, readL⟩
  cases rc with
  | ok a =>
      obtain ⟨b, ok, same⟩ := (decidedR _).mpr ((decidedL _).mp ⟨a, rfl, rfl⟩)
      exact Or.inr ⟨a, b, rfl, ok, same.symm⟩
  | error e =>
      cases rs with
      | error e' => exact Or.inl ⟨⟨e, rfl⟩, e', rfl⟩
      | ok b =>
          obtain ⟨a, ok, -⟩ := (decidedL _).mpr ((decidedR _).mp ⟨b, rfl, rfl⟩)
          cases ok

/-- A client that allows both transports meets a server that allows TLS and something
unknown: both end up with TLS, and nothing is left on the links. -/
theorem handshake_agreement_of_any :
    let c := Duplex.simulate succeeding 40
      (handshake .little 1 ⟨.any, none, ⟨"localhost", 55555⟩, none⟩ ⟨6⟩ none)
    c.toRight.unread = c.toRight.later ∧ c.toLeft.unread = c.toLeft.later :=
  (handshake_agreement .little 1 ⟨.any, none, ⟨"localhost", 55555⟩, none⟩ rfl ⟨6⟩ none _
    (Duplex.simulate_reaches succeeds_succeeding (fun _ _ _ => rfl) 40 _)
    (.ok ⟨.tls, Connection.mk' none⟩) (.ok ⟨.tls, Connection.mk' none⟩)
    ⟨.any, none, ⟨"localhost", 55555⟩, some ⟨.tls, Connection.mk' none⟩⟩
    { Connection.mk' none with bufferStr := [1, 0, 0, 0, 3, 0, 0, 0] }
    (Prog.eq_ret_of_result? (by decide +kernel)) (Prog.eq_ret_of_result? (by decide +kernel))).2.2

end Comm
