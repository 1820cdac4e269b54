import ApertureClient.Comm.Wire

/-!
# Runs of `recv_message`

What a run of calls takes off a wire that holds the frames of an honest peer,
when the caller goes on after a call has thrown.  A call that stops inside a frame,
because the frame is over the limit or because a read threw, leaves the rest of
the frame where the next header is expected; `RecvCall.FramesKept` says that no
later call reads on from there.
-/

namespace Comm

open Framing Interaction

variable (host : Endian) (eof : Exception)

/-- One call on a receiving connection. -/
inductive RecvCall
  | recvMessage (sched : Schedule)
  | setMaxBufferSize (limit : UInt32)

/-- A connection, the bytes it has not read, and how its calls of `recv_message`
have ended. -/
structure Receiver where
  conn : Connection
  unread : Bytes
  outcomes : List (Except Exception Bytes)

namespace Receiver

/-- One call. -/
def step (s : Receiver) : RecvCall → Receiver
  | .recvMessage sched =>
      let out := recvOn host eof sched s.conn s.unread
      ⟨out.2.1, out.2.2, s.outcomes ++ [out.1]⟩
  | .setMaxBufferSize limit => { s with conn := s.conn.setMaxBufferSize limit }

/-- Several calls, whatever becomes of each. -/
def run (s : Receiver) (calls : List RecvCall) : Receiver := calls.foldl (step host eof) s

variable {host eof}

/-- The messages returned so far, in order. -/
def returned (s : Receiver) : List Bytes := s.outcomes.filterMap Except.toOption

@[simp] theorem run_nil (s : Receiver) : s.run host eof [] = s := rfl

@[simp] theorem run_cons (s : Receiver) (call : RecvCall) (calls : List RecvCall) :
    s.run host eof (call :: calls) = (s.step host eof call).run host eof calls := rfl

end Receiver

namespace RecvCall

/-- The call reads nothing. -/
def ReadsNothing : RecvCall → Prop
  | recvMessage sched => sched.Refuses
  | setMaxBufferSize _ => True

/-- No call stops inside a frame, unless no later call reads anything: `limit` is
the limit of the connection and `ms` are the messages not read yet. -/
def FramesKept (limit : UInt32) : List Message → List RecvCall → Prop
  | _, [] => True
  | ms, setMaxBufferSize new :: calls =>
      FramesKept (min maxBufferSize (max minBufferSize new)) ms calls
  | [], recvMessage _ :: calls => FramesKept limit [] calls
  | m :: ms, recvMessage sched :: calls =>
      if sched.Refuses then FramesKept limit (m :: ms) calls
      else if m.size ≤ limit ∧ sched.Lasts (4 + m.bytes.length) then FramesKept limit ms calls
      else ∀ call ∈ calls, call.ReadsNothing

instance : DecidablePred ReadsNothing
  | recvMessage sched => inferInstanceAs (Decidable sched.Refuses)
  | setMaxBufferSize _ => inferInstanceAs (Decidable True)

instance decidableFramesKept : ∀ (limit : UInt32) (ms : List Message) (calls : List RecvCall),
    Decidable (FramesKept limit ms calls)
  | _, _, [] => inferInstanceAs (Decidable True)
  | _, ms, setMaxBufferSize _ :: calls => decidableFramesKept _ ms calls
  | limit, [], recvMessage _ :: calls => decidableFramesKept limit [] calls
  | limit, m :: ms, recvMessage sched :: calls =>
      have := decidableFramesKept limit (m :: ms) calls
      have := decidableFramesKept limit ms calls
      inferInstanceAs (Decidable (if sched.Refuses then FramesKept limit (m :: ms) calls
        else if m.size ≤ limit ∧ sched.Lasts (4 + m.bytes.length) then FramesKept limit ms calls
        else ∀ call ∈ calls, call.ReadsNothing))

end RecvCall

namespace Receiver

variable {host eof}

theorem returned_error (conn : Connection) (unread : Bytes)
    (outcomes : List (Except Exception Bytes)) (e : Exception) :
    (⟨conn, unread, outcomes ++ [.error e]⟩ : Receiver).returned
      = outcomes.filterMap Except.toOption := by
  simp [returned, Except.toOption]

/-- A call that finds nothing to read, or is refused, returns no message and leaves
the stream and the limit alone. -/
theorem step_nothing (host : Endian) (eof : Exception) {s : Receiver} {call : RecvCall}
    (nothing : call.ReadsNothing) :
    (s.step host eof call).returned = s.returned ∧ (s.step host eof call).unread = s.unread := by
  cases call with
  | recvMessage sched =>
      obtain ⟨e, heq⟩ := recvOn_nothing host eof sched s.conn s.unread (Or.inl nothing)
      simp only [step, heq, returned_error, and_true]
      rfl
  | setMaxBufferSize limit => exact ⟨rfl, rfl⟩

/-- Calls that read nothing return nothing. -/
theorem run_nothing {s : Receiver} {calls : List RecvCall}
    (nothing : ∀ call ∈ calls, call.ReadsNothing) :
    (s.run host eof calls).returned = s.returned := by
  induction calls generalizing s with
  | nil => rfl
  | cons call calls ih =>
      rw [run_cons, ih fun c hc => nothing c (List.mem_cons_of_mem _ hc)]
      exact (step_nothing host eof (nothing call List.mem_cons_self)).1

/-- A call at the end of the stream. -/
theorem step_end (host : Endian) (eof : Exception) {s : Receiver} (unread : s.unread = [])
    (sched : Schedule) :
    (s.step host eof (.recvMessage sched)).returned = s.returned ∧
      (s.step host eof (.recvMessage sched)).conn = s.conn ∧
      (s.step host eof (.recvMessage sched)).unread = [] := by
  obtain ⟨e, heq⟩ := recvOn_nothing host eof sched s.conn [] (Or.inr rfl)
  simp only [step, unread, heq, returned_error, and_true]
  rfl

/-- **What one call does at a frame boundary.**  Nothing, or it returns the next
message, or it stops inside the frame. -/
theorem step_frame (host : Endian) (eof : Exception) {s : Receiver} {m : Message} {rest : Bytes}
    (unread : s.unread = m.frame host ++ rest) (sched : Schedule) :
    let s' := s.step host eof (.recvMessage sched)
    (sched.Refuses ∧ s'.returned = s.returned ∧ s'.conn = s.conn ∧
      s'.unread = m.frame host ++ rest) ∨
    ((m.size ≤ s.conn.maxBufferSize ∧ sched.Lasts (4 + m.bytes.length)) ∧
      s'.outcomes = s.outcomes ++ [.ok m.bytes] ∧ s'.unread = rest ∧
      s'.conn = Connection.observeBytesRecv { s.conn with bufferStr := m.bytes } m.bytes.length) ∨
    (¬ sched.Refuses ∧ ¬ (m.size ≤ s.conn.maxBufferSize ∧ sched.Lasts (4 + m.bytes.length)) ∧
      s'.returned = s.returned) := by
  have spec := recvOn_spec host eof sched m s.conn rest
  have length := m.frame_length host
  simp only [step, unread]
  generalize recvOn host eof sched s.conn _ = out at spec
  cases spec with
  | refused refuses => exact Or.inl ⟨refuses, returned_error _ _ _ _, rfl, rfl⟩
  | received fits lasts =>
      rw [length] at lasts
      exact Or.inr (Or.inl ⟨⟨fits, lasts⟩, rfl, rfl, rfl⟩)
  | stranded some breaks limit pos part =>
      rw [length] at breaks
      exact Or.inr (Or.inr ⟨some, breaks, returned_error _ _ _ _⟩)

/-- What holds along a run of calls that started with the messages `ms` unread. -/
def InOrder (host : Endian) (eof : Exception) (s : Receiver) (ms : List Message)
    (calls : List RecvCall) (n : ℕ) : Prop :=
  (∃ got, (s.run host eof (calls.take n)).returned = s.returned ++ got ∧
      got <+: ms.map Message.bytes) ∧
    ∀ sched bytes, calls[n]? = some (.recvMessage sched) →
      (recvOn host eof sched (s.run host eof (calls.take n)).conn
        (s.run host eof (calls.take n)).unread).1 = .ok bytes →
      ∃ m later, m :: later <:+ ms ∧ bytes = m.bytes ∧
        (s.run host eof (calls.take n)).unread = Message.frames host (m :: later)

/-- A first call that returned the messages `took` of those that were unread. -/
theorem InOrder.cons {s : Receiver} (took : List Message) {later : List Message} {call : RecvCall}
    {calls : List RecvCall} {n : ℕ}
    (returned : (s.step host eof call).returned = s.returned ++ took.map Message.bytes)
    (next : InOrder host eof (s.step host eof call) later calls n) :
    InOrder host eof s (took ++ later) (call :: calls) (n + 1) := by
  obtain ⟨⟨got, all, front⟩, aligned⟩ := next
  refine ⟨⟨took.map Message.bytes ++ got, ?_, ?_⟩, fun sched bytes this got => ?_⟩
  · rw [List.take_succ_cons, run_cons, all, returned, List.append_assoc]
  · rw [List.map_append]
    exact (List.prefix_append_right_inj _).mpr front
  · obtain ⟨m, rest, suffix, eq, unread⟩ := aligned sched bytes this got
    exact ⟨m, rest, suffix.trans (List.suffix_append _ _), eq, unread⟩

/-- Calls that read nothing. -/
theorem inOrder_nothing {s : Receiver} {ms : List Message} {calls : List RecvCall}
    (nothing : ∀ call ∈ calls, call.ReadsNothing) (n : ℕ) : InOrder host eof s ms calls n := by
  refine ⟨⟨[], ?_, List.nil_prefix⟩, fun sched bytes this got => ?_⟩
  · rw [run_nothing fun call passed => nothing call (List.mem_of_mem_take passed), List.append_nil]
  · have refuses : sched.Refuses := nothing _ (List.mem_of_getElem? this)
    obtain ⟨e, heq⟩ := recvOn_nothing host eof sched (s.run host eof (calls.take n)).conn
      (s.run host eof (calls.take n)).unread (Or.inl refuses)
    rw [heq] at got
    cases got

/-- Before the first call. -/
theorem inOrder_zero {s : Receiver} {ms : List Message} {calls : List RecvCall}
    (unread : s.unread = Message.frames host ms) : InOrder host eof s ms calls 0 := by
  refine ⟨⟨[], by simp, List.nil_prefix⟩, fun sched bytes _ got => ?_⟩
  simp only [List.take_zero, run_nil, unread] at got ⊢
  cases ms with
  | nil =>
      obtain ⟨e, heq⟩ := recvOn_nothing host eof sched s.conn [] (Or.inr rfl)
      rw [Message.frames_nil, heq] at got
      cases got
  | cons m ms =>
      rw [Message.frames_cons] at got
      have spec := recvOn_spec host eof sched m s.conn (Message.frames host ms)
      generalize recvOn host eof sched s.conn _ = out at spec got
      cases spec with
      | refused refuses => cases got
      | received fits lasts =>
          cases got
          exact ⟨m, ms, List.suffix_rfl, rfl, rfl⟩
      | stranded some breaks limit pos part => cases got

theorem inOrder_of_framesKept (host : Endian) (eof : Exception) {s : Receiver} {ms : List Message}
    {calls : List RecvCall} (unread : s.unread = Message.frames host ms)
    (kept : RecvCall.FramesKept s.conn.maxBufferSize ms calls) (n : ℕ) :
    InOrder host eof s ms calls n := by
  induction calls generalizing s ms n with
  | nil => exact inOrder_nothing (by simp) n
  | cons call calls ih =>
      cases n with
      | zero => exact inOrder_zero unread
      | succ n =>
          cases call with
          | setMaxBufferSize limit =>
              exact ih (s := s.step host eof (.setMaxBufferSize limit)) unread kept n
          | recvMessage sched =>
              cases ms with
              | nil =>
                  obtain ⟨returned, conn, empty⟩ := step_end host eof unread sched
                  rw [← conn] at kept
                  exact InOrder.cons [] (by simpa using returned) (ih empty kept n)
              | cons m ms =>
                  -- where the call stops decides what the condition says about the later calls
                  rw [RecvCall.FramesKept] at kept
                  rcases step_frame host eof unread sched with
                    ⟨refuses, returned, conn, same⟩ | ⟨fits, outcomes, next, conn⟩ |
                    ⟨some, breaks, returned⟩
                  · rw [if_pos refuses, ← conn] at kept
                    exact InOrder.cons [] (by simpa using returned) (ih same kept n)
                  · rw [if_neg (fits.2.not_refuses (by omega)), if_pos fits] at kept
                    refine InOrder.cons [m] ?_ (ih next (by rw [conn]; exact kept) n)
                    simp [Receiver.returned, outcomes, Except.toOption]
                  · rw [if_neg some, if_neg breaks] at kept
                    exact InOrder.cons [] (by simpa using returned)
                      (inOrder_nothing kept n)

/-- A connection in front of the frames of `ms`. -/
def start (host : Endian) (conn : Connection) (ms : List Message) : Receiver :=
  ⟨conn, Message.frames host ms, []⟩

/-- **No misframing after a receive error.**  When no call stops inside a frame
and a later one reads on, the messages returned are the first messages of the
peer, in order, and every message is returned from the frame it was sent in. -/
theorem run_inOrder (host : Endian) (eof : Exception) (conn : Connection) (ms : List Message)
    (calls : List RecvCall) (kept : RecvCall.FramesKept conn.maxBufferSize ms calls) (n : ℕ) :
    ((start host conn ms).run host eof (calls.take n)).returned <+: ms.map Message.bytes ∧
      ∀ sched bytes, calls[n]? = some (.recvMessage sched) →
        (recvOn host eof sched ((start host conn ms).run host eof (calls.take n)).conn
          ((start host conn ms).run host eof (calls.take n)).unread).1 = .ok bytes →
        ∃ m later, m :: later <:+ ms ∧ bytes = m.bytes ∧
          ((start host conn ms).run host eof (calls.take n)).unread
            = Message.frames host (m :: later) := by
  obtain ⟨⟨got, all, front⟩, aligned⟩ :=
    inOrder_of_framesKept host eof (s := start host conn ms) rfl kept n
  exact ⟨by rw [all]; exact front, aligned⟩

/-- A call that fails before it has read anything, one that reads the next message,
and one that fails inside the frame after that. -/
theorem run_inOrder_of_three :
    ((start .little (Connection.mk' none) [⟨[7], by decide⟩, ⟨[8, 9], by decide⟩]).run .little
      (exception .connectionShutDown "")
      [.recvMessage ⟨fun _ => 2, some (0, exception .connectionShutDown "recv()")⟩,
        .recvMessage ⟨fun _ => 2, none⟩,
        .recvMessage ⟨fun _ => 2, some (5, exception .connectionShutDown "recv()")⟩]).returned
      <+: [[7], [8, 9]] :=
  (run_inOrder .little (exception .connectionShutDown "") (Connection.mk' none)
    [⟨[7], by decide⟩, ⟨[8, 9], by decide⟩]
    [.recvMessage ⟨fun _ => 2, some (0, exception .connectionShutDown "recv()")⟩,
      .recvMessage ⟨fun _ => 2, none⟩,
      .recvMessage ⟨fun _ => 2, some (5, exception .connectionShutDown "recv()")⟩]
    (by decide) 3).1

/-- A read that times out behind the header leaves the stream in front of the body,
whose first bytes the next call takes for a header. -/
theorem run_not_inOrder :
    ¬ ((start .little (Connection.mk' none) [⟨[1, 0, 0, 0, 7], by decide⟩]).run .little
      (exception .connectionShutDown "")
      [.recvMessage ⟨fun _ => 4, some (4, exception .connectionShutDown "recv()")⟩,
        .recvMessage ⟨fun _ => 4, none⟩]).returned.Sublist [[1, 0, 0, 0, 7]] := by
  decide

/-- Calls on a transport that does not throw read a message each. -/
theorem run_recvAll {s : Receiver} {ms : List Message} {rest : Bytes} {scheds : List Schedule}
    (unread : s.unread = Message.frames host ms ++ rest) (count : scheds.length = ms.length)
    (fits : ∀ m ∈ ms, m.size ≤ s.conn.maxBufferSize)
    (healthy : ∀ sched ∈ scheds, sched.failure = none) :
    (s.run host eof (scheds.map .recvMessage)).outcomes
        = s.outcomes ++ ms.map (fun m => .ok m.bytes) ∧
      (s.run host eof (scheds.map .recvMessage)).unread = rest ∧
      (s.run host eof (scheds.map .recvMessage)).conn.metrics = s.conn.metrics.map fun x =>
        { x with bytesRecv := x.bytesRecv ++ ms.map fun m => m.bytes.length } := by
  induction ms generalizing s scheds with
  | nil =>
      rw [List.length_eq_zero_iff.mp count]
      simpa using unread
  | cons m ms ih =>
      obtain ⟨sched, scheds, rfl⟩ := List.exists_cons_of_length_eq_add_one count
      rw [Message.frames_cons, List.append_assoc] at unread
      have lasts := Schedule.lasts_of_healthy (healthy sched List.mem_cons_self)
        (4 + m.bytes.length)
      rcases step_frame host eof unread sched with
        ⟨refuses, -⟩ | ⟨-, outcomes, next, conn⟩ | ⟨-, breaks, -⟩
      · exact absurd refuses (lasts.not_refuses (by omega))
      · obtain ⟨outcomes', unread', metrics'⟩ := ih next (by simpa using count)
          (by rw [conn]; exact fun m' among => fits m' (List.mem_cons_of_mem _ among))
          (fun sched' among => healthy sched' (List.mem_cons_of_mem _ among))
        rw [List.map_cons, run_cons, outcomes', unread', metrics', outcomes, conn]
        refine ⟨by simp, rfl, ?_⟩
        simp [Connection.observeBytesRecv, Function.comp_def]
      · exact absurd ⟨fits m List.mem_cons_self, lasts⟩ breaks

end Receiver

end Comm
