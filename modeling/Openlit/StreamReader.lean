import Mathlib.Logic.Relation
import Mathlib.Tactic.Common

/-!
The goroutine that reads a stream of the Go SDK (`openai/streaming.go`) and the
consumer of its channel of ten slots. Closing the stream only closes the body,
so it does not help a reader that waits for a slot: the reader gets stuck
exactly if the stream has more than ten chunks beyond those that the consumer
received before.
-/
namespace Openlit.StreamReader

variable {Chunk : Type}

/-! ### Steps -/

/-- Where `readStream` is: in the loop, or past it with the deferred calls ahead. -/
inductive Reader (Chunk : Type)
  | scanning
  | sending (chunk : Chunk)
  | returned
  | spanEnded
  | channelClosed

/-- `body` are the chunks that are still to be read, `buffer` those that the
    scanner has. `receivedBeforeClose` is there once `Close` has been called. -/
structure State (Chunk : Type) where
  body : List Chunk
  buffer : List Chunk := []
  channel : List Chunk := []
  reader : Reader Chunk := .scanning
  bodyClosed : Bool := false
  cancelled : Bool := false
  received : Nat := 0
  receivedBeforeClose : Option Nat := none

/-- The slots of `stream.reader`. -/
def capacity : Nat := 10

/-- What the reader does on its own. -/
inductive ReaderStep : State Chunk → State Chunk → Prop
  | read {s : State Chunk} (n : Nat) (scanning : s.reader = .scanning) (empty : s.buffer = []) (available : s.bodyClosed = false)
      (some : 0 < n) (there : n ≤ s.body.length) :
      ReaderStep s { s with buffer := s.body.take n, body := s.body.drop n }
  | finish {s : State Chunk} (scanning : s.reader = .scanning) (empty : s.buffer = [])
      (failed : s.bodyClosed = true ∨ s.cancelled = true ∨ s.body = []) : ReaderStep s { s with reader := .returned }
  | scan {s : State Chunk} {chunk : Chunk} {rest : List Chunk} (scanning : s.reader = .scanning) (next : s.buffer = chunk :: rest) :
      ReaderStep s { s with buffer := rest, reader := .sending chunk }
  | send {s : State Chunk} {chunk : Chunk} (sending : s.reader = .sending chunk) (slot : s.channel.length < capacity) :
      ReaderStep s { s with channel := s.channel ++ [chunk], reader := .scanning }
  | abort {s : State Chunk} {chunk : Chunk} (sending : s.reader = .sending chunk) (cancelled : s.cancelled = true) :
      ReaderStep s { s with reader := .returned }
  | endSpan {s : State Chunk} (returned : s.reader = .returned) : ReaderStep s { s with reader := .spanEnded }
  | closeChannel {s : State Chunk} (ended : s.reader = .spanEnded) : ReaderStep s { s with reader := .channelClosed }
/-- `Recv` and `Close`. -/
inductive ConsumerStep : State Chunk → State Chunk → Prop
  | recv {s : State Chunk} {chunk : Chunk} {rest : List Chunk} (next : s.channel = chunk :: rest) :
      ConsumerStep s { s with channel := rest, received := s.received + 1 }
  | close {s : State Chunk} (first : s.bodyClosed = false) :
      ConsumerStep s { s with bodyClosed := true, receivedBeforeClose := some s.received }
inductive Step : State Chunk → State Chunk → Prop
  | reader {s after : State Chunk} (step : ReaderStep s after) : Step s after
  | consumer {s after : State Chunk} (step : ConsumerStep s after) : Step s after
  | cancel (s : State Chunk) : Step s { s with cancelled := true }

/-- What can be reached on a stream of chunks. -/
def Reachable (stream : List Chunk) (s : State Chunk) : Prop := Relation.ReflTransGen Step { body := stream } s
/-- After `Close`, which came when some chunks had been received, the reader can go on until the channel is closed. -/
def NeverStuck (stream : List Chunk) (receivedBeforeClose : Nat) : Prop :=
  ∀ s, Reachable stream s → s.receivedBeforeClose = some receivedBeforeClose → s.reader ≠ .channelClosed →
    ∃ after, ReaderStep s after

/-! ### A short stream -/

/-- The chunk that the reader holds. -/
def Reader.held : Reader Chunk → Nat
  | .sending _ => 1
  | _ => 0
/-- No chunk is duplicated. -/
structure Counted (stream : List Chunk) (s : State Chunk) : Prop where
  chunks : s.received + s.channel.length + s.reader.held + s.buffer.length + s.body.length ≤ stream.length
  before : ∀ k, s.receivedBeforeClose = some k → s.bodyClosed = true ∧ k ≤ s.received

theorem counted_readerStep {stream : List Chunk} {s after : State Chunk} (counted : Counted stream s) (step : ReaderStep s after) :
    Counted stream after := by
  have chunks := counted.chunks
  cases step with
  | read n scanning empty available some there =>
    refine ⟨?_, counted.before⟩
    simp only [empty, List.length_nil, List.length_take, List.length_drop] at chunks ⊢
    omega
  | finish scanning empty failed =>
    refine ⟨?_, counted.before⟩
    simp only [scanning, Reader.held] at chunks ⊢
    omega
  | scan scanning next =>
    refine ⟨?_, counted.before⟩
    simp only [scanning, next, Reader.held, List.length_cons] at chunks ⊢
    omega
  | send sending slot =>
    refine ⟨?_, counted.before⟩
    simp only [sending, Reader.held, List.length_append, List.length_singleton] at chunks ⊢
    omega
  | abort sending cancelled =>
    refine ⟨?_, counted.before⟩
    simp only [sending, Reader.held] at chunks ⊢
    omega
  | endSpan returned =>
    refine ⟨?_, counted.before⟩
    simpa only [returned, Reader.held] using chunks
  | closeChannel ended =>
    refine ⟨?_, counted.before⟩
    simpa only [ended, Reader.held] using chunks
theorem counted_step {stream : List Chunk} {s after : State Chunk} (counted : Counted stream s) (step : Step s after) :
    Counted stream after := by
  have chunks := counted.chunks
  cases step with
  | reader step => exact counted_readerStep counted step
  | consumer step =>
    cases step with
    | recv next =>
      refine ⟨?_, ?_⟩
      · simp only [next, List.length_cons] at chunks ⊢
        omega
      · intro k closed
        obtain ⟨bodyClosed, before⟩ := counted.before k closed
        exact ⟨bodyClosed, Nat.le_succ_of_le before⟩
    | close first =>
      refine ⟨chunks, ?_⟩
      rintro k ⟨⟩
      exact ⟨rfl, Nat.le_refl _⟩
  | cancel => exact ⟨chunks, counted.before⟩
theorem counted_reachable {stream : List Chunk} {s : State Chunk} (reachable : Reachable stream s) : Counted stream s := by
  induction reachable with
  | refl => exact ⟨by simp [Reader.held], by simp⟩
  | tail _ step ih => exact counted_step ih step

/-- A reader that is not at its end can go on, unless it holds a chunk and finds no slot. -/
theorem readerStep_or_full {s : State Chunk} (bodyClosed : s.bodyClosed = true) (unfinished : s.reader ≠ .channelClosed) :
    (∃ after, ReaderStep s after) ∨ ∃ chunk, s.reader = .sending chunk ∧ capacity ≤ s.channel.length := by
  cases reader : s.reader with
  | scanning =>
    left
    cases buffer : s.buffer with
    | nil => exact ⟨_, .finish reader buffer (.inl bodyClosed)⟩
    | cons chunk rest => exact ⟨_, .scan reader buffer⟩
  | sending chunk =>
    by_cases slot : s.channel.length < capacity
    · exact .inl ⟨_, .send reader slot⟩
    · exact .inr ⟨chunk, rfl, Nat.le_of_not_lt slot⟩
  | returned => exact .inl ⟨_, .endSpan reader⟩
  | spanEnded => exact .inl ⟨_, .closeChannel reader⟩
  | channelClosed => exact absurd reader unfinished

theorem neverStuck_of_short {stream : List Chunk} {k : Nat} (short : stream.length ≤ k + capacity) : NeverStuck stream k := by
  intro s reachable closed unfinished
  have counted := counted_reachable reachable
  obtain ⟨bodyClosed, before⟩ := counted.before k closed
  rcases readerStep_or_full bodyClosed unfinished with step | ⟨chunk, sending, full⟩
  · exact step
  · have chunks := counted.chunks
    simp only [sending, Reader.held] at chunks
    omega

/-! ### A long stream -/

/-- A chunk that is there is read and scanned. -/
theorem reaches_sending {s : State Chunk} {chunk : Chunk} {rest : List Chunk} (scanning : s.reader = .scanning)
    (empty : s.buffer = []) (available : s.bodyClosed = false) (next : s.body = chunk :: rest) :
    Relation.ReflTransGen Step s { s with body := rest, reader := .sending chunk } := by
  have read : Step s { s with buffer := s.body.take 1, body := s.body.drop 1 } :=
    .reader (.read 1 scanning empty available (by omega) (by simp [next]))
  have scan := @ReaderStep.scan _ { s with buffer := s.body.take 1, body := s.body.drop 1 } chunk [] scanning (by simp [next])
  simp only [next, List.drop_succ_cons, List.drop_zero] at read scan
  have done := (Relation.ReflTransGen.single read).tail (.reader scan)
  rwa [show ({ s with buffer := [], body := rest, reader := .sending chunk } : State Chunk) =
    { s with body := rest, reader := .sending chunk } by rw [← empty]] at done
/-- The state of a reader at its loop, while the body is open. -/
def looping (body channel : List Chunk) (received : Nat) : State Chunk := { body := body, channel := channel, received := received }

theorem reaches_sent {body channel : List Chunk} {received : Nat} {chunk : Chunk} (slot : channel.length < capacity) :
    Relation.ReflTransGen Step (looping (chunk :: body) channel received) (looping body (channel ++ [chunk]) received) :=
  (reaches_sending rfl rfl rfl rfl).tail (.reader (.send rfl slot))
/-- One after the other, chunks are sent and received. -/
theorem reaches_received (passed body : List Chunk) (received : Nat) :
    Relation.ReflTransGen Step (looping (passed ++ body) [] received) (looping body [] (received + passed.length)) := by
  induction passed generalizing received with
  | nil => exact .refl
  | cons chunk passed ih =>
    have sent : Relation.ReflTransGen Step (looping (chunk :: (passed ++ body)) [] received) (looping (passed ++ body) [chunk] received) :=
      reaches_sent (by simp [capacity])
    have next := (sent.tail (.consumer (.recv rfl))).trans (ih (received + 1))
    rwa [show received + 1 + passed.length = received + (chunk :: passed).length by simp; omega] at next
/-- As many chunks as there are slots are sent without a receiver. -/
theorem reaches_filled (filled body channel : List Chunk) (received : Nat) (slots : channel.length + filled.length ≤ capacity) :
    Relation.ReflTransGen Step (looping (filled ++ body) channel received) (looping body (channel ++ filled) received) := by
  induction filled generalizing channel with
  | nil => simpa using Relation.ReflTransGen.refl
  | cons chunk filled ih =>
    simp only [List.length_cons] at slots
    have sent : Relation.ReflTransGen Step (looping (chunk :: (filled ++ body)) channel received)
        (looping (filled ++ body) (channel ++ [chunk]) received) := reaches_sent (by omega)
    have next := sent.trans (ih (channel ++ [chunk]) (by simp; omega))
    rwa [List.append_assoc, List.singleton_append] at next

theorem stuck_of_long {stream : List Chunk} {k : Nat} (long : k + capacity < stream.length) : ¬ NeverStuck stream k := by
  intro neverStuck
  obtain ⟨passed, rest, rfl, count⟩ : ∃ passed rest, stream = passed ++ rest ∧ passed.length = k :=
    ⟨stream.take k, stream.drop k, (List.take_append_drop k stream).symm, by simp; omega⟩
  obtain ⟨filled, more, rfl, fills⟩ : ∃ filled more, rest = filled ++ more ∧ filled.length = capacity :=
    ⟨rest.take capacity, rest.drop capacity, (List.take_append_drop capacity rest).symm, by simp at long ⊢; omega⟩
  cases more with
  | nil =>
    simp at long
    omega
  | cons chunk more =>
    have received := reaches_received passed (filled ++ chunk :: more) 0
    have full := received.trans (reaches_filled filled (chunk :: more) [] _ (by simp [fills]))
    have waiting := full.trans (reaches_sending rfl rfl rfl rfl)
    have closed := waiting.tail (.consumer (.close rfl))
    obtain ⟨after, step⟩ := neverStuck _ closed (by simp [looping, count]) (by simp)
    cases step <;> simp_all [looping]

/-- The reader can go on after every `Close` that comes when at most ten chunks of the stream have not been received,
    and after no other it can in all cases. So it can go on after any number of received chunks up to a bound exactly if
    the stream has at most ten chunks. -/
theorem never_stuck_iff (stream : List Chunk) (bound : Nat) :
    (∀ received, NeverStuck stream received ↔ stream.length ≤ received + capacity) ∧
      ((∀ received ≤ bound, NeverStuck stream received) ↔ stream.length ≤ capacity) := by
  have each (received : Nat) : NeverStuck stream received ↔ stream.length ≤ received + capacity := by
    refine ⟨?_, neverStuck_of_short⟩
    intro neverStuck
    by_contra long
    exact stuck_of_long (by omega) neverStuck
  refine ⟨each, ?_⟩
  constructor
  · intro all
    have none := (each 0).mp (all 0 (Nat.zero_le bound))
    omega
  · intro short received _
    exact (each received).mpr (by omega)

/-- Eleven chunks, of which the consumer receives none. -/
theorem reader_stuck : ¬ ∀ (stream : List Unit) (received : Nat), NeverStuck stream received := by
  intro all
  have long : 0 + capacity < (List.replicate 11 ()).length := by decide
  exact stuck_of_long long (all (List.replicate 11 ()) 0)

end Openlit.StreamReader
