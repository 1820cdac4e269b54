import ApertureClient.Comm.Wire

/-!
# Runs of `send_message`

What a run of calls puts on a wire when the caller goes on after a call has
thrown.  A call that throws before it has written anything is harmless: the next
one starts at a frame boundary again.  A call that throws inside its frame is
not, since nothing ever completes the frame; `SendCall.Tears` says when that is,
in terms of the message, the limit and the schedule of the call.
-/

namespace Comm

open Framing Interaction

variable (host : Endian) (eof : Exception)

/-- One call of `send_message`. -/
structure SendCall where
  message : Message
  sched : Schedule

/-- A connection, the wire it writes to, and how its calls have ended. -/
structure Sender where
  conn : Connection
  wire : Bytes
  outcomes : List (Except Exception Unit)

namespace Sender

/-- A connection that has written nothing. -/
def start (conn : Connection) : Sender := ⟨conn, [], []⟩

/-- One call. -/
def step (s : Sender) (call : SendCall) : Sender :=
  let out := sendOn host eof call.sched call.message s.conn s.wire
  ⟨out.2.1, out.2.2, s.outcomes ++ [out.1]⟩

/-- Several calls, whatever becomes of each. -/
def run (s : Sender) (calls : List SendCall) : Sender := calls.foldl (step host eof) s

variable {host eof}

@[simp] theorem run_nil (s : Sender) : s.run host eof [] = s := rfl

@[simp] theorem run_cons (s : Sender) (call : SendCall) (calls : List SendCall) :
    s.run host eof (call :: calls) = (s.step host eof call).run host eof calls := rfl

theorem run_append (s : Sender) (calls calls' : List SendCall) :
    s.run host eof (calls ++ calls') = (s.run host eof calls).run host eof calls' :=
  List.foldl_append

end Sender

namespace SendCall

/-- The call gets as far as writing something. -/
def Writes (limit : UInt32) (call : SendCall) : Prop :=
  call.message.size ≤ limit ∧ ¬ call.sched.Refuses

/-- The call writes a proper part of its frame: the transport takes the header in
two pieces, or throws inside the frame. -/
def Tears (limit : UInt32) (call : SendCall) : Prop :=
  call.Writes limit ∧ ¬ call.sched.TakesWhole (4 + call.message.bytes.length)

instance (limit : UInt32) (call : SendCall) : Decidable (call.Writes limit) :=
  inferInstanceAs (Decidable (_ ∧ _))

instance (limit : UInt32) (call : SendCall) : Decidable (call.Tears limit) :=
  inferInstanceAs (Decidable (_ ∧ _))

end SendCall

namespace Sender

variable {host eof}

/-- **What one call does.**  Nothing at all to the wire, or its whole frame, or a
proper part of it. -/
theorem step_cases (host : Endian) (eof : Exception) (s : Sender) (call : SendCall) :
    (¬ call.Writes s.conn.maxBufferSize ∧
      ∃ e, s.step host eof call = ⟨s.conn, s.wire, s.outcomes ++ [.error e]⟩) ∨
    (call.Writes s.conn.maxBufferSize ∧ ¬ call.Tears s.conn.maxBufferSize ∧
      s.step host eof call = ⟨s.conn.observeBytesSent call.message.bytes.length,
        s.wire ++ call.message.frame host, s.outcomes ++ [.ok ()]⟩) ∨
    (call.Tears s.conn.maxBufferSize ∧ ∃ e k, 0 < k ∧ k < (call.message.frame host).length ∧
      s.step host eof call =
        ⟨s.conn, s.wire ++ (call.message.frame host).take k, s.outcomes ++ [.error e]⟩) := by
  have spec := sendOn_spec host eof call.sched call.message s.conn s.wire
  have length := call.message.frame_length host
  unfold step
  generalize sendOn host eof call.sched call.message s.conn s.wire = out at spec
  cases spec with
  | tooLong long =>
      exact Or.inl ⟨fun writes => absurd writes.1 (UInt32.not_le.mpr long), _, rfl⟩
  | refused fits refuses => exact Or.inl ⟨fun writes => writes.2 refuses, _, rfl⟩
  | whole fits takes =>
      rw [length] at takes
      exact Or.inr (Or.inl
        ⟨⟨fits, takes.2.not_refuses (by omega)⟩, fun tears => tears.2 takes, rfl⟩)
  | torn fits some short pos part =>
      rw [length] at short
      exact Or.inr (Or.inr ⟨⟨⟨fits, some⟩, short⟩, _, _, pos, part, rfl⟩)

/-- No call changes the limit. -/
@[simp] theorem step_maxBufferSize (s : Sender) (call : SendCall) :
    (s.step host eof call).conn.maxBufferSize = s.conn.maxBufferSize := by
  rcases step_cases host eof s call with
    ⟨-, e, heq⟩ | ⟨-, -, heq⟩ | ⟨-, e, k, -, -, heq⟩ <;> simp [heq, Connection.observeBytesSent]

@[simp] theorem run_maxBufferSize (s : Sender) (calls : List SendCall) :
    (s.run host eof calls).conn.maxBufferSize = s.conn.maxBufferSize := by
  induction calls generalizing s with
  | nil => rfl
  | cons call calls ih => rw [run_cons, ih, step_maxBufferSize]

/-- Calls that write nothing leave the wire alone. -/
theorem run_silent {s : Sender} {calls : List SendCall}
    (silent : ∀ call ∈ calls, ¬ call.Writes s.conn.maxBufferSize) :
    (s.run host eof calls).wire = s.wire := by
  induction calls generalizing s with
  | nil => rfl
  | cons call calls ih =>
      have first := silent call List.mem_cons_self
      rw [run_cons, ih (by simpa using fun c hc => silent c (List.mem_cons_of_mem _ hc))]
      rcases step_cases host eof s call with
        ⟨-, e, heq⟩ | ⟨writes, -⟩ | ⟨tears, -⟩
      · rw [heq]
      · exact absurd writes first
      · exact absurd tears.1 first

/-- The messages of the calls that write something. -/
def written (limit : UInt32) (calls : List SendCall) : List Message :=
  (calls.filter fun call => decide (call.Writes limit)).map SendCall.message

/-- Calls that tear no frame put frames on the wire. -/
theorem run_clean {s : Sender} {calls : List SendCall}
    (clean : ∀ call ∈ calls, ¬ call.Tears s.conn.maxBufferSize) :
    (s.run host eof calls).wire
      = s.wire ++ Message.frames host (written s.conn.maxBufferSize calls) := by
  induction calls generalizing s with
  | nil => simp [written]
  | cons call calls ih =>
      have first := clean call List.mem_cons_self
      rw [run_cons, ih (by simpa using fun c hc => clean c (List.mem_cons_of_mem _ hc)),
        step_maxBufferSize]
      rcases step_cases host eof s call with
        ⟨silent, e, heq⟩ | ⟨writes, -, heq⟩ | ⟨tears, -⟩
      · simp [heq, written, silent]
      · simp [heq, written, writes]
      · exact absurd tears first

/-- Calls that all write their frames, with what they report. -/
theorem run_whole (host : Endian) (eof : Exception) {s : Sender} {calls : List SendCall}
    (whole : ∀ call ∈ calls, call.Writes s.conn.maxBufferSize ∧
      ¬ call.Tears s.conn.maxBufferSize) :
    (s.run host eof calls).wire = s.wire ++ Message.frames host (calls.map SendCall.message) ∧
      (s.run host eof calls).outcomes = s.outcomes ++ calls.map (fun _ => .ok ()) ∧
      (s.run host eof calls).conn.metrics = s.conn.metrics.map fun m =>
        { m with bytesSent := m.bytesSent ++ calls.map fun call => call.message.bytes.length } := by
  induction calls generalizing s with
  | nil => simp
  | cons call calls ih =>
      obtain ⟨writes, clean⟩ := whole call List.mem_cons_self
      rcases step_cases host eof s call with
        ⟨silent, -⟩ | ⟨-, -, heq⟩ | ⟨tears, -⟩
      · exact absurd writes silent
      · obtain ⟨wire, outcomes, metrics⟩ := ih (s := s.step host eof call)
          (by simpa using fun c hc => whole c (List.mem_cons_of_mem _ hc))
        rw [run_cons, wire, outcomes, metrics, heq]
        refine ⟨by simp, by simp, ?_⟩
        simp [Connection.observeBytesSent, Function.comp_def]
      · exact absurd tears clean

/-- A run in which nothing is written after a torn frame: no frame is torn, or one
is and all later calls are silent. -/
theorem pairwise_cases {limit : UInt32} {calls : List SendCall}
    (once : calls.Pairwise fun a b => a.Tears limit → ¬ b.Writes limit) :
    (∀ call ∈ calls, ¬ call.Tears limit) ∨
      ∃ clean call silent, calls = clean ++ call :: silent ∧
        (∀ c ∈ clean, ¬ c.Tears limit) ∧ call.Tears limit ∧ ∀ c ∈ silent, ¬ c.Writes limit := by
  induction calls with
  | nil => exact Or.inl (by simp)
  | cons call calls ih =>
      obtain ⟨after, later⟩ := List.pairwise_cons.mp once
      by_cases tears : call.Tears limit
      · exact Or.inr ⟨[], call, calls, rfl, by simp, tears, fun c hc => after c hc tears⟩
      · rcases ih later with none | ⟨clean, torn, silent, rfl, before, tears', quiet⟩
        · exact Or.inl (by simpa using ⟨tears, none⟩)
        · exact Or.inr ⟨call :: clean, torn, silent, rfl, by simpa using ⟨tears, before⟩, tears',
            quiet⟩

/-- What is on the wire, read frame by frame: the frames of passed messages, in the
order they were passed in, and then nothing or a proper part of one more. -/
def WellFramed (host : Endian) (passed : List Message) (wire : Bytes) (ms : List Message)
    (tail : Bytes) : Prop :=
  (Connection.header host).split wire = (ms.map Message.bytes, tail) ∧
    ((tail = [] ∧ ms.Sublist passed) ∨
      ∃ m, (ms ++ [m]).Sublist passed ∧ tail ≠ [] ∧ tail <+: m.frame host ∧ tail ≠ m.frame host)

theorem written_sublist (limit : UInt32) (calls : List SendCall) :
    (written limit calls).Sublist (calls.map SendCall.message) :=
  List.filter_sublist.map _

/-- Whole frames are well framed. -/
theorem wellFramed_written (limit : UInt32) (calls : List SendCall) :
    WellFramed host (calls.map SendCall.message) (Message.frames host (written limit calls))
      (written limit calls) [] := by
  refine ⟨?_, Or.inl ⟨rfl, written_sublist limit calls⟩⟩
  rw [← List.append_nil (Message.frames host _)]
  exact Message.split_frames (Connection.header host).next_nil

/-- Whole frames and a proper part of another are well framed. -/
theorem wellFramed_torn (limit : UInt32) (clean silent : List SendCall) (torn : SendCall) {k : ℕ}
    (pos : 0 < k) (part : k < (torn.message.frame host).length) :
    WellFramed host ((clean ++ torn :: silent).map SendCall.message)
      (Message.frames host (written limit clean) ++ (torn.message.frame host).take k)
      (written limit clean) ((torn.message.frame host).take k) := by
  refine ⟨Message.split_frames ((Connection.header host).next_take_frame torn.message.small part),
    Or.inr ⟨torn.message, ?_, ?_, List.take_prefix _ _, ?_⟩⟩
  · rw [List.map_append, List.map_cons]
    exact (written_sublist limit clean).append (List.singleton_sublist.mpr List.mem_cons_self)
  · rw [ne_eq, List.take_eq_nil_iff]
    rintro (zero | none)
    · omega
    · simp [none] at part
  · intro whole
    have := congrArg List.length whole
    rw [List.length_take] at this
    omega

/-- **No torn frame in front of later frames.**  When no call writes after a call
that tore a frame, the wire is well framed after every call, and an incomplete
frame on it stays where it is. -/
theorem run_wellFramed (host : Endian) (eof : Exception) (conn : Connection)
    (calls : List SendCall)
    (once : calls.Pairwise fun a b => a.Tears conn.maxBufferSize → ¬ b.Writes conn.maxBufferSize)
    (n : ℕ) :
    ∃ ms tail, WellFramed host ((calls.take n).map SendCall.message)
        ((start conn).run host eof (calls.take n)).wire ms tail ∧
      (tail ≠ [] → ∀ k, n ≤ k → ((start conn).run host eof (calls.take k)).wire
        = ((start conn).run host eof (calls.take n)).wire) := by
  rcases pairwise_cases once with none | ⟨clean, torn, silent, rfl, before, tears, quiet⟩
  · refine ⟨written conn.maxBufferSize (calls.take n), [], ?_, fun some => absurd rfl some⟩
    rw [run_clean fun call passed => none call (List.mem_of_mem_take passed)]
    exact wellFramed_written _ _
  -- up to the torn frame the wire is made of whole frames
  by_cases early : n ≤ clean.length
  · rw [List.take_append_of_le_length early]
    refine ⟨written conn.maxBufferSize (clean.take n), [], ?_, fun some => absurd rfl some⟩
    rw [run_clean fun call passed => before call (List.mem_of_mem_take passed)]
    exact wellFramed_written _ _
  -- behind it the calls are the clean ones, the torn one and some silent ones
  have late : ∀ k, n ≤ k → (clean ++ torn :: silent).take k
      = clean ++ torn :: silent.take (k - clean.length - 1) := by
    intro k le
    obtain ⟨j, rfl⟩ : ∃ j, k = clean.length + (j + 1) := ⟨k - clean.length - 1, by omega⟩
    rw [List.take_length_add_append, List.take_succ_cons]
    congr 3
    omega
  rcases step_cases host eof ((start conn).run host eof clean) torn with
    ⟨silent, -⟩ | ⟨-, whole, -⟩ | ⟨-, e, j, pos, part, heq⟩
  · rw [run_maxBufferSize] at silent
    exact absurd tears.1 silent
  · rw [run_maxBufferSize] at whole
    exact absurd tears whole
  have first : ((start conn).run host eof clean).wire
      = Message.frames host (written conn.maxBufferSize clean) :=
    run_clean (s := start conn) before
  -- the torn call leaves the same wire whatever comes after it
  have wire : ∀ k, n ≤ k → ((start conn).run host eof ((clean ++ torn :: silent).take k)).wire
      = Message.frames host (written conn.maxBufferSize clean)
        ++ (torn.message.frame host).take j := by
    intro k le
    have still : ∀ call ∈ silent.take (k - clean.length - 1), ¬ call.Writes
        (((start conn).run host eof clean).step host eof torn).conn.maxBufferSize := by
      intro call passed
      rw [step_maxBufferSize, run_maxBufferSize]
      exact quiet call (List.mem_of_mem_take passed)
    rw [late k le, run_append, run_cons, run_silent still, heq]
    simp only [first]
  refine ⟨written conn.maxBufferSize clean, (torn.message.frame host).take j, ?_,
    fun _ k le => by rw [wire k le, wire n le_rfl]⟩
  rw [wire n le_rfl, late n le_rfl]
  exact wellFramed_torn conn.maxBufferSize clean _ torn pos part

/-- Three calls of which the last throws at once, after one that tore its frame. -/
theorem run_wellFramed_of_three :
    ∃ ms tail, WellFramed .little [⟨[1], by decide⟩, ⟨[2, 3], by decide⟩, ⟨[4], by decide⟩]
      ((start (Connection.mk' none)).run .little (exception .connectionShutDown "")
        [⟨⟨[1], by decide⟩, ⟨fun _ => 4, none⟩⟩,
          ⟨⟨[2, 3], by decide⟩, ⟨fun _ => 4, some (5, exception .writeFail "")⟩⟩,
          ⟨⟨[4], by decide⟩, ⟨fun _ => 4, some (0, exception .writeFail "")⟩⟩]).wire ms tail := by
  obtain ⟨ms, tail, framed, -⟩ := run_wellFramed .little (exception .connectionShutDown "")
    (Connection.mk' none)
    [⟨⟨[1], by decide⟩, ⟨fun _ => 4, none⟩⟩,
      ⟨⟨[2, 3], by decide⟩, ⟨fun _ => 4, some (5, exception .writeFail "")⟩⟩,
      ⟨⟨[4], by decide⟩, ⟨fun _ => 4, some (0, exception .writeFail "")⟩⟩] (by decide) 3
  exact ⟨ms, tail, framed⟩

/-- A header accepted in two pieces is given up after the first, and the next
frame is written behind it. -/
theorem run_not_wellFramed :
    ¬ ∃ ms tail, WellFramed .little [⟨[1, 2], by decide⟩, ⟨[7], by decide⟩]
      ((start (Connection.mk' none)).run .little (exception .connectionShutDown "")
        [⟨⟨[1, 2], by decide⟩, ⟨fun _ => 2, none⟩⟩, ⟨⟨[7], by decide⟩, ⟨fun _ => 4, none⟩⟩]).wire
      ms tail := by
  rintro ⟨ms, tail, split, passed⟩
  have torn : (Connection.header .little).split
      ((start (Connection.mk' none)).run .little (exception .connectionShutDown "")
        [⟨⟨[1, 2], by decide⟩, ⟨fun _ => 2, none⟩⟩, ⟨⟨[7], by decide⟩, ⟨fun _ => 4, none⟩⟩]).wire
      = ([], [2, 0, 1, 0, 0, 0, 7]) := by decide
  rw [torn] at split
  obtain ⟨-, rfl⟩ := Prod.mk.inj split
  rcases passed with ⟨none, -⟩ | ⟨m, sub, -, front, -⟩
  · cases none
  · have among := sub.subset (List.mem_append_right ms List.mem_cons_self)
    have none : ∀ m ∈ [(⟨[1, 2], by decide⟩ : Message), ⟨[7], by decide⟩],
        ¬ [2, 0, 1, 0, 0, 0, 7] <+: m.frame .little := by decide
    exact none m among front

end Sender

end Comm
