import ApertureClient.Comm.Receiving
import ApertureClient.Comm.Sending

/-!
# Framing round trip

The two ends of a connection put together: what one end sends with `sendMessage`
the other receives with `recvMessage`, however the transport cuts the bytes up.
-/

namespace Comm

open Framing Interaction

/-- **Framing round trip.**  Messages within the limits of both ends, sent over a
transport that takes every header in one piece and throws nothing, are received
as they were sent, and after each of them exactly the later ones are unread. -/
theorem messages_round_trip (host : Endian) (eof : Exception) (sender receiver : Connection)
    (sends : List SendCall) (recvs : List Schedule) (count : recvs.length = sends.length)
    (fits : ∀ call ∈ sends, call.message.size ≤ sender.maxBufferSize ∧
      call.message.size ≤ receiver.maxBufferSize)
    (writes : ∀ call ∈ sends, 4 ≤ call.sched.amounts 0 ∧ call.sched.failure = none)
    (reads : ∀ sched ∈ recvs, sched.failure = none) :
    let sent := (Sender.start sender).run host eof sends
    let after := fun j => (Receiver.mk receiver sent.wire []).run host eof
      ((recvs.take j).map .recvMessage)
    sent.outcomes = sends.map (fun _ => .ok ()) ∧
      (after recvs.length).outcomes = sends.map (fun call => .ok call.message.bytes) ∧
      (∀ j ≤ recvs.length,
        (after j).unread = Message.frames host ((sends.drop j).map SendCall.message)) ∧
      ∀ x y, sender.metrics = some x → receiver.metrics = some y →
        ∃ x' y', sent.conn.metrics = some x' ∧ (after recvs.length).conn.metrics = some y' ∧
          x'.bytesSent.sum
            = x.bytesSent.sum + (sends.map fun call => call.message.bytes.length).sum ∧
          y'.bytesRecv.sum
            = y.bytesRecv.sum + (sends.map fun call => call.message.bytes.length).sum := by
  intro sent after
  have whole : ∀ call ∈ sends, call.Writes (Sender.start sender).conn.maxBufferSize ∧
      ¬ call.Tears (Sender.start sender).conn.maxBufferSize := by
    intro call among
    obtain ⟨enough, healthy⟩ := writes call among
    have lasts := Schedule.lasts_of_healthy healthy (4 + call.message.bytes.length)
    exact ⟨⟨(fits call among).1, lasts.not_refuses (by omega)⟩,
      fun tears => tears.2 ⟨enough, lasts⟩⟩
  -- the wire is the frames of all messages, however they were cut up on the way
  obtain ⟨wire, outcomes, sentMetrics⟩ := Sender.run_whole host eof whole
  -- after each call exactly the later frames are left, so the next one starts at a boundary
  have step : ∀ j ≤ recvs.length,
      (after j).outcomes = ((sends.take j).map SendCall.message).map (fun m => .ok m.bytes) ∧
        (after j).unread = Message.frames host ((sends.drop j).map SendCall.message) ∧
        (after j).conn.metrics = receiver.metrics.map fun y =>
          { y with bytesRecv := y.bytesRecv ++
              ((sends.take j).map SendCall.message).map fun m => m.bytes.length } := by
    intro j le
    refine Receiver.run_recvAll (s := Receiver.mk receiver sent.wire []) ?_ ?_ ?_ ?_
    · rw [← Message.frames_append, ← List.map_append, List.take_append_drop]
      exact wire
    · simp [← count]
    · intro m among
      obtain ⟨call, taken, rfl⟩ := List.mem_map.mp among
      exact (fits call (List.mem_of_mem_take taken)).2
    · exact fun sched taken => reads sched (List.mem_of_mem_take taken)
  obtain ⟨received, -, recvMetrics⟩ := step recvs.length le_rfl
  rw [count, List.take_length] at received recvMetrics
  refine ⟨outcomes, ?_, fun j le => (step j le).2.1, fun x y hx hy => ?_⟩
  · rw [count, received, List.map_map]
    rfl
  · have hx' : (Sender.start sender).conn.metrics = some x := hx
    rw [hx'] at sentMetrics
    rw [hy] at recvMetrics
    refine ⟨_, _, sentMetrics, by rw [count]; exact recvMetrics, ?_, ?_⟩
    · simp
    · simp [Function.comp_def]

/-- Two messages, the second of them empty, read in pieces of at most three bytes into
a buffer that holds something else. -/
theorem messages_round_trip_of_two :
    ((Receiver.mk ⟨[1, 2, 3], minBufferSize, none⟩
        ((Sender.start (Connection.mk' none)).run .big (exception .connectionShutDown "")
          [⟨⟨[7, 8], by decide⟩, ⟨fun i => if i = 0 then 4 else 1, none⟩⟩,
            ⟨⟨[], by decide⟩, ⟨fun _ => 4, none⟩⟩]).wire []).run .big
      (exception .connectionShutDown "")
      (([⟨fun _ => 3, none⟩, ⟨fun i => i, none⟩].take 2).map .recvMessage)).outcomes
      = [.ok [7, 8], .ok []] :=
  (messages_round_trip .big (exception .connectionShutDown "") (Connection.mk' none)
    ⟨[1, 2, 3], minBufferSize, none⟩
    [⟨⟨[7, 8], by decide⟩, ⟨fun i => if i = 0 then 4 else 1, none⟩⟩,
      ⟨⟨[], by decide⟩, ⟨fun _ => 4, none⟩⟩]
    [⟨fun _ => 3, none⟩, ⟨fun i => i, none⟩] rfl (by decide) (by decide) (by decide)).2.1

end Comm
