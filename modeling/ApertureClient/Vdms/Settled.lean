import ApertureClient.Vdms.Pairing

/-!
# Calls that succeed

A call that returns has received the reply to every request it has sent.  So if
nothing was on the connection before, nothing is on it afterwards, and the payload
that was received last is the server's reply to the request that was sent last.
-/

namespace VDMS

open Comm Framing Interaction

variable {D : Type} [FloatingPoint D] {codec : Codec D} {log : Log codec}
  {impl impl' : VDMSClientImpl} {tr : Trace} {host : Endian} {eof : Comm.Exception}
  {server : Server} {w w' : World}

/-- A request that is sent and answered. -/
theorem Settled.exchange (settled : Settled log w) {request : Request} {payload : Bytes}
    (follow : Prog.Follows (World.serve host eof server) w
      [⟨.send request, .ok ()⟩, ⟨.recv, .ok payload⟩] w') :
    Settled (log.answer ⟨request, payload⟩) w' := by
  obtain ⟨sent, follow⟩ := Prog.follows_cons_iff.mp follow
  obtain ⟨received, rfl⟩ := Prog.follows_singleton_iff.mp follow
  have coupled : Coupled host
      (log.step ⟨.send request, (World.serve host eof server (.send request) w).1⟩)
      (World.serve host eof server (.send request) w).2 :=
    coupled_step settled.coupled (.send request) settled.1 fun _ => settled.2.1
  rw [sent] at coupled
  exact (coupled.recv rfl).2 payload received

/-- A clock reading. -/
theorem Settled.now (settled : Settled log w) {reader : Reader} {now : TimePoint}
    (follow : Prog.Follows (World.serve host eof server) w [⟨.now reader, now⟩] w') :
    Settled (log.step ⟨.now reader, now⟩) w' := by
  obtain ⟨-, rfl⟩ := Prog.follows_singleton_iff.mp follow
  cases reader <;> exact settled

/-- A request that is answered. -/
theorem Settled.answer (settled : Settled log w) {request : Request} {response : Response}
    (answer : Answer codec request tr (.ok response))
    (follow : Prog.Follows (World.serve host eof server) w tr w') :
    Settled (tr.foldl Log.step log) w' := by
  cases answer with
  | received payload => exact settled.exchange follow

/-- A renewal of the token that succeeded. -/
theorem Settled.renewal (settled : Settled log w) {site : Site} {requestJson : Json Bytes D}
    (renewal : VDMSClientImpl.Renewal codec site requestJson impl tr (.ok ()) impl')
    (follow : Prog.Follows (World.serve host eof server) w tr w') :
    Settled (tr.foldl Log.step log) w' := by
  cases renewal with
  | @accepted json payload issuedAt token dumped processed =>
      have split : [(⟨.send ⟨site, ⟨json, [], []⟩⟩, .ok ()⟩ : Event ClientReply),
          ⟨.recv, .ok payload⟩, ⟨.now .processTokenResponse, issuedAt⟩]
          = [⟨.send ⟨site, ⟨json, [], []⟩⟩, .ok ()⟩, ⟨.recv, .ok payload⟩]
            ++ [⟨.now .processTokenResponse, issuedAt⟩] := rfl
      rw [split] at follow ⊢
      obtain ⟨mid, exchanged, read⟩ := follow.append_inv
      rw [List.foldl_append]
      exact (settled.exchange exchanged).now read

/-- A check of the token that succeeded. -/
theorem Settled.check (settled : Settled log w) {reader : Reader}
    {expired : AuthToken → TimePoint → Bool} {site : Site} {requestJson : Json Bytes D}
    (check : VDMSClientImpl.Check codec reader expired site requestJson impl tr (.ok ()) impl')
    (follow : Prog.Follows (World.serve host eof server) w tr w') :
    Settled (tr.foldl Log.step log) w' := by
  cases check with
  | live live => exact settled.now follow
  | @renewed now tail _ _ due renewal =>
      obtain ⟨read, rest⟩ := Prog.follows_cons_iff.mp follow
      exact (settled.now (Prog.follows_singleton_iff.mpr ⟨read, rfl⟩)).renewal renewal rest

/-- A call that returned. -/
theorem Settled.called (settled : Settled log w) {json : Bytes} {blobs : List Bytes}
    {response : Response}
    (called : VDMSClientImpl.Called codec json blobs impl tr (.ok response) impl')
    (follow : Prog.Follows (World.serve host eof server) w tr w') :
    Settled (tr.foldl Log.step log) w' := by
  cases called with
  | asked first second answer =>
      obtain ⟨w₁, checked, follow⟩ := follow.append_inv
      obtain ⟨w₂, refreshed, asked⟩ := follow.append_inv
      rw [List.foldl_append, List.foldl_append]
      exact ((settled.check first checked).check second refreshed).answer answer asked

/-- A client that has a token keeps one. -/
theorem Called.isSome {json : Bytes} {blobs : List Bytes} {r : Except Thrown Response}
    (called : VDMSClientImpl.Called codec json blobs impl tr r impl')
    (has : impl.authToken.isSome = true) : impl'.authToken.isSome = true := by
  have check : ∀ {reader : Reader} {expired : AuthToken → TimePoint → Bool} {site : Site}
      {requestJson : Json Bytes D} {impl₁ impl₂ : VDMSClientImpl} {tr : Trace}
      {r : Except Thrown Unit}, impl₁.authToken.isSome = true →
      VDMSClientImpl.Check codec reader expired site requestJson impl₁ tr r impl₂ →
      impl₂.authToken.isSome = true := by
    intro _ _ _ _ _ _ _ _ has₁ checked
    cases checked with
    | live live => exact has₁
    | renewed due renewal => exact Renewal.isSome renewal (Or.inl has₁)
  cases called with
  | reAuthenticationFailed first => exact check has first
  | refreshFailed first second => exact check (check has first) second
  | asked first second answer => exact check (check has first) second

/-- A construction that succeeded. -/
theorem settled_construct
    (constructed : (VDMSClientImpl.construct codec).Completes impl tr (.ok ()) impl')
    (follow : Prog.Follows (World.serve host eof server) w tr w') :
    Settled (tr.foldl Log.step log) w' := by
  obtain ⟨tail, rfl, renewal⟩ := VDMSClientImpl.construct_renewal constructed
  obtain ⟨connected, follow⟩ := Prog.follows_cons_iff.mp follow
  exact (settled_connect connected).renewal renewal follow

/-- **A call that returned.**  The payload its response was decoded from is what the server
answered to the caller's request, which the call sent. -/
theorem Settled.response (settled : Settled log w) {json : Bytes} {blobs : List Bytes}
    {response : Response}
    (called : VDMSClientImpl.Called codec json blobs impl tr (.ok response) impl')
    (follow : Prog.Follows (World.serve host eof server) w tr w') :
    ∃ before payload served,
      tr = before ++ [⟨.send ⟨.query, ⟨json, blobs, impl'.token.sessionToken⟩⟩, .ok ()⟩,
        ⟨.recv, .ok payload⟩] ∧
      w'.served = w.served ++ served ++
        [((⟨json, blobs, impl'.token.sessionToken⟩ : QueryMessage).message.bytes, payload)] ∧
      response = codec.response payload := by
  -- nothing is left on the connection, so the server has answered what the client logged
  have served := (settled.called called follow).2.2
  obtain ⟨before, payload, rfl, rfl, alternates⟩ := Called.exchanged called
  obtain ⟨renewals, kept⟩ := (alternates log settled.1).exchanges_kept
  refine ⟨before, payload, renewals.map fun exchange =>
    (exchange.request.cmd.message.bytes, exchange.payload), rfl, ?_, rfl⟩
  rw [List.foldl_append, Log.foldl_exchange] at served
  rw [← served, ← settled.2.2]
  simp only [Log.answered, Log.answer, ← kept, List.map_append, List.map_cons, List.map_nil]

end VDMS
