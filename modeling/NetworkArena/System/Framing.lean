/-
# NetworkArena.System.Framing -- both ends cut the stream into the same messages

`Session::ProcessMessages` and `NetworkClient::ProcessMessages` are written separately. Here both
loops receive the same bytes in arbitrary pieces and run the same handler, and both are compared
with the reference reader of `Shared.Message`, which sees the whole byte string at once.

The handler is any function of its own state and the message. `HandlerRun` keeps what it has been
given and why the loop gave up, if it did; the two loops report that in different ways, the session
by calling `Close` on a bad size, the client by the error code it disconnects with.
-/
import NetworkArena.Server.Session
import NetworkArena.Client.NetworkClient

namespace NetworkArena.System

open NetworkArena.Foundation
open NetworkArena.Shared
open NetworkArena.Server
open NetworkArena.Client

variable {σ : Type}

/-! ## A handler and its record -/

/-- Why a loop gave the connection up. -/
inductive Ending where
  | badSize
  | rejected
  deriving DecidableEq, Repr

/-- The state of a handler, the messages it was given, and how receiving ended, if it did. -/
structure HandlerRun (σ : Type) where
  state : σ
  dispatched : List Message := []
  ended : Option Ending := none
  deriving DecidableEq, Repr

/-- Give a message to the handler. -/
def HandlerRun.give (handler : σ → Message → Bool × σ) (message : Message) (t : HandlerRun σ) :
    Bool × HandlerRun σ :=
  let (accepted, state) := handler t.state message
  (accepted, ⟨state, t.dispatched ++ [message], if accepted then t.ended else some .rejected⟩)

def HandlerRun.end (t : HandlerRun σ) (ending : Ending) : HandlerRun σ :=
  { t with ended := some ending }

/-! ## The two endpoints and the reference -/

/-- The session's loop on successive reads; it is not called again once it has returned `false`. -/
def sessionReceive (handler : σ → Message → Bool × σ) :
    List (List UInt8) → List UInt8 → HandlerRun σ → Checked (Bool × List UInt8 × HandlerRun σ)
  | [], accumulatedBuffer, t => return (true, accumulatedBuffer, t)
  | received :: reads, accumulatedBuffer, t => do
    let (processed, accumulatedBuffer, t) ←
      Session.processMessagesLoop
        (fun header payload t => t.give handler ⟨header.type, payload⟩)
        (fun _ t => t.end .badSize)
        (accumulatedBuffer ++ received) t
    if processed then sessionReceive handler reads accumulatedBuffer t
    else return (false, accumulatedBuffer, t)

/-- The client's loop on successive reads. Disconnecting clears the accumulated buffer. -/
def clientReceive (handler : σ → Message → Bool × σ) :
    List (List UInt8) → List UInt8 → HandlerRun σ → Checked (Bool × List UInt8 × HandlerRun σ)
  | [], accumulatedBuffer, t => return (true, accumulatedBuffer, t)
  | received :: reads, accumulatedBuffer, t => do
    let (processed, accumulatedBuffer, t) ←
      NetworkClient.processMessagesLoop
        (fun _ t => t)
        (fun header payload t => t.give handler ⟨header.type, payload⟩)
        (fun error _ t => ([], t.end (if error = .messageSize then .badSize else .rejected)))
        (accumulatedBuffer ++ received) t
    if processed then clientReceive handler reads accumulatedBuffer t
    else return (false, accumulatedBuffer, t)

/-- The reference: read all messages of the byte string, then give them to the handler. -/
def referenceReceive (handler : σ → Message → Bool × σ) (bytes : List UInt8) (s : σ) :
    HandlerRun σ :=
  let parsed := messageReader.parse bytes
  let (accepted, t) := FrameReader.deliver (HandlerRun.give handler) parsed.frames { state := s }
  if accepted && parsed.malformed then t.end .badSize else t

/-- What receiving `bytes` has to come to: no access outside a buffer, the messages, handler state
and ending of the reference, and, while the connection stays open, exactly the bytes behind the
messages left over. -/
def ReceivesLikeReference (handler : σ → Message → Bool × σ) (bytes : List UInt8) (s : σ)
    (result : Checked (Bool × List UInt8 × HandlerRun σ)) : Prop :=
  ∃ leftOver,
    result = .ok ((referenceReceive handler bytes s).ended.isNone, leftOver,
      referenceReceive handler bytes s) ∧
    ((referenceReceive handler bytes s).ended = none →
      bytes = (referenceReceive handler bytes s).dispatched.flatMap Message.bytes ++ leftOver ∧
        leftOver.length < maxMessageSize)

/-! ## Both loops feed the reference reader -/

section Endpoints

variable (handler : σ → Message → Bool × σ)

theorem sessionReceive_eq (reads : List (List UInt8)) (kept : List UInt8) (t : HandlerRun σ) :
    sessionReceive handler reads kept t =
      .ok (match messageReader.feed (HandlerRun.give handler) reads kept t with
        | ⟨.waiting, rest, t⟩ => (true, rest, t)
        | ⟨.malformed, rest, t⟩ => (false, rest, t.end .badSize)
        | ⟨.rejected, rest, t⟩ => (false, rest, t)) := by
  induction reads generalizing kept t with
  | nil => rfl
  | cons received reads ih =>
      rw [sessionReceive, Session.processMessagesLoop_eq, Checked.ok_bind, FrameReader.feed]
      rw [show (fun (m : Message) (t : HandlerRun σ) => t.give handler ⟨m.header.type, m.payload⟩) =
        HandlerRun.give handler from rfl]
      rcases messageReader.drain (HandlerRun.give handler) (kept ++ received) t with
        ⟨verdict, rest, t'⟩
      cases verdict with
      | waiting => exact ih rest t'
      | malformed => rfl
      | rejected => rfl

theorem clientReceive_eq (reads : List (List UInt8)) (kept : List UInt8) (t : HandlerRun σ) :
    clientReceive handler reads kept t =
      .ok (match messageReader.feed (HandlerRun.give handler) reads kept t with
        | ⟨.waiting, rest, t⟩ => (true, rest, t)
        | ⟨.malformed, _, t⟩ => (false, [], t.end .badSize)
        | ⟨.rejected, _, t⟩ => (false, [], t.end .rejected)) := by
  induction reads generalizing kept t with
  | nil => rfl
  | cons received reads ih =>
      rw [clientReceive, NetworkClient.processMessagesLoop_eq, Checked.ok_bind, FrameReader.feed]
      rw [show (fun (m : Message) (t : HandlerRun σ) => t.give handler ⟨m.header.type, m.payload⟩) =
        HandlerRun.give handler from rfl]
      rcases messageReader.drain (HandlerRun.give handler) (kept ++ received) t with
        ⟨verdict, rest, t'⟩
      cases verdict with
      | waiting => exact ih rest t'
      | malformed => rfl
      | rejected => rfl

/-! ## What delivering records -/

/-- Delivering ends with the mark of a rejection exactly if a message was rejected. -/
theorem deliver_ended (messages : List Message) (t : HandlerRun σ) (ht : t.ended = none) :
    (FrameReader.deliver (HandlerRun.give handler) messages t).2.ended =
      if (FrameReader.deliver (HandlerRun.give handler) messages t).1 then none
      else some .rejected := by
  induction messages generalizing t with
  | nil => exact ht
  | cons message messages ih =>
      rw [FrameReader.deliver]
      by_cases hok : (t.give handler message).1 = true
      · rw [if_pos hok]
        have hok' : (handler t.state message).1 = true := hok
        exact ih _ (by simp [HandlerRun.give, hok', ht])
      · rw [if_neg hok]
        have hok' : (handler t.state message).1 = false := Bool.not_eq_true _ ▸ hok
        simp [HandlerRun.give, hok']

/-- While the handler accepts, all messages of the byte string have been given to it. -/
theorem deliver_dispatched (messages : List Message) (t : HandlerRun σ)
    (h : (FrameReader.deliver (HandlerRun.give handler) messages t).1 = true) :
    (FrameReader.deliver (HandlerRun.give handler) messages t).2.dispatched =
      t.dispatched ++ messages := by
  induction messages generalizing t with
  | nil => simp [FrameReader.deliver]
  | cons message messages ih =>
      rw [FrameReader.deliver] at h ⊢
      by_cases hok : (t.give handler message).1 = true
      · rw [if_pos hok] at h ⊢
        rw [ih _ h]
        simp [HandlerRun.give]
      · rw [if_neg hok] at h
        cases h

theorem parse_bytes (bytes : List UInt8) :
    (messageReader.parse bytes).malformed = false →
      bytes = (messageReader.parse bytes).frames.flatMap Message.bytes ++
        (messageReader.parse bytes).rest ∧
      messageFront (messageReader.parse bytes).rest = .incomplete := by
  induction bytes using messageReader.front_induction with
  | incomplete bytes h =>
      rw [FrameReader.parse_incomplete h]
      exact fun _ => ⟨rfl, h⟩
  | malformed bytes h =>
      rw [FrameReader.parse_malformed h]
      exact nofun
  | frame bytes message n h ih =>
      rw [FrameReader.parse_frame h]
      intro hok
      obtain ⟨hbytes, hrest⟩ := ih hok
      refine ⟨?_, hrest⟩
      rw [List.flatMap_cons, List.append_assoc, ← hbytes, ← messageReader_encode h,
        List.take_append_drop]

/-! ## The comparison -/

theorem referenceReceive_eq (bytes : List UInt8) (s : σ) :
    referenceReceive handler bytes s =
      if (FrameReader.deliver (HandlerRun.give handler) (messageReader.parse bytes).frames
          { state := s }).1 && (messageReader.parse bytes).malformed then
        (FrameReader.deliver (HandlerRun.give handler) (messageReader.parse bytes).frames
          { state := s }).2.end .badSize
      else (FrameReader.deliver (HandlerRun.give handler) (messageReader.parse bytes).frames
          { state := s }).2 := rfl

/-- Where feeding the reference reader stops is where the reference ends. -/
theorem feed_reference (reads : List (List UInt8)) (s : σ) :
    match messageReader.feed (HandlerRun.give handler) reads [] { state := s } with
    | ⟨.waiting, rest, t⟩ => referenceReceive handler reads.flatten s = t ∧ t.ended = none ∧
        reads.flatten = t.dispatched.flatMap Message.bytes ++ rest ∧ rest.length < maxMessageSize
    | ⟨.malformed, _, t⟩ => referenceReceive handler reads.flatten s = t.end .badSize
    | ⟨.rejected, _, t⟩ =>
        referenceReceive handler reads.flatten s = t ∧ t.ended = some .rejected := by
  obtain ⟨hverdict, hstate, hrest⟩ := FrameReader.feed_eq_drain (R := messageReader)
    (HandlerRun.give handler) reads [] { state := s }
    (by rw [messageReader_front]; rfl)
  obtain ⟨hdelivered, hwhy, hleft⟩ := FrameReader.drain_eq_deliver (R := messageReader)
    (HandlerRun.give handler) reads.flatten { state := s }
  have hended := deliver_ended handler (messageReader.parse reads.flatten).frames { state := s } rfl
  have hdispatched :=
    deliver_dispatched handler (messageReader.parse reads.flatten).frames { state := s }
  rw [List.nil_append] at hverdict hstate hrest
  rw [hwhy] at hverdict
  rw [hdelivered] at hstate
  cases hfeed : messageReader.feed (HandlerRun.give handler) reads [] { state := s } with
  | mk verdict rest t =>
  simp only [hfeed] at hverdict hstate hrest
  rw [referenceReceive_eq, ← hstate]
  rw [← hstate] at hended hdispatched
  cases haccepted : (FrameReader.deliver (HandlerRun.give handler)
      (messageReader.parse reads.flatten).frames { state := s }).1 with
  | false =>
      have hv : verdict = .rejected := by rw [hverdict, haccepted]; rfl
      rw [haccepted] at hended
      subst hv
      exact ⟨rfl, hended⟩
  | true =>
      rw [haccepted] at hended
      cases hmalformed : (messageReader.parse reads.flatten).malformed with
      | true =>
          have hv : verdict = .malformed := by rw [hverdict, haccepted, hmalformed]; rfl
          subst hv
          rfl
      | false =>
          have hv : verdict = .waiting := by rw [hverdict, haccepted, hmalformed]; rfl
          obtain ⟨hbytes, hincomplete⟩ := parse_bytes reads.flatten hmalformed
          have hrest' : rest = (messageReader.parse reads.flatten).rest := by
            rw [hrest hv, hleft haccepted]
          subst hv
          rw [hrest']
          refine ⟨rfl, hended, ?_, length_lt_of_incomplete hincomplete⟩
          rw [hdispatched haccepted]
          exact hbytes

theorem sessionReceive_reference (reads : List (List UInt8)) (s : σ) :
    ReceivesLikeReference handler reads.flatten s
      (sessionReceive handler reads [] { state := s }) := by
  have hfeed := feed_reference handler reads s
  rw [ReceivesLikeReference, sessionReceive_eq]
  revert hfeed
  rcases messageReader.feed (HandlerRun.give handler) reads [] { state := s } with
    ⟨verdict, rest, t⟩
  cases verdict with
  | waiting =>
      rintro ⟨rfl, hended, hbytes⟩
      exact ⟨rest, by rw [hended]; rfl, fun _ => hbytes⟩
  | malformed =>
      intro heq
      exact ⟨rest, by rw [heq]; rfl, by rw [heq]; exact nofun⟩
  | rejected =>
      rintro ⟨rfl, hended⟩
      exact ⟨rest, by rw [hended]; rfl, by rw [hended]; exact nofun⟩

theorem clientReceive_reference (reads : List (List UInt8)) (s : σ) :
    ReceivesLikeReference handler reads.flatten s
      (clientReceive handler reads [] { state := s }) := by
  have hfeed := feed_reference handler reads s
  rw [ReceivesLikeReference, clientReceive_eq]
  revert hfeed
  rcases messageReader.feed (HandlerRun.give handler) reads [] { state := s } with
    ⟨verdict, rest, t⟩
  cases verdict with
  | waiting =>
      rintro ⟨rfl, hended, hbytes⟩
      exact ⟨rest, by rw [hended]; rfl, fun _ => hbytes⟩
  | malformed =>
      intro heq
      exact ⟨[], by rw [heq]; rfl, by rw [heq]; exact nofun⟩
  | rejected =>
      -- disconnecting marks the rejection once more
      rintro ⟨heq, hended⟩
      have hend : t.end .rejected = t := by
        cases t
        cases hended
        rfl
      rw [heq]
      exact ⟨[], by simp only [hend, hended]; rfl, by rw [hended]; exact nofun⟩

end Endpoints

/-- **FRAMING DEPENDS ON THE BYTES ALONE**, and the two ends frame alike: for every handler and
every cutting of a byte string into reads, both loops stay inside their buffer and come to the
messages, the handler state and the ending of the reference parser on the whole string; so does
each loop on the string in one piece. While the connection stays open, exactly the undispatched
suffix is left over, and it is shorter than the largest message. -/
theorem framing_chunk_invariant (handler : σ → Message → Bool × σ) (reads : List (List UInt8))
    (s : σ) :
    ReceivesLikeReference handler reads.flatten s
        (sessionReceive handler reads [] { state := s }) ∧
      ReceivesLikeReference handler reads.flatten s
        (clientReceive handler reads [] { state := s }) ∧
      ReceivesLikeReference handler reads.flatten s
        (sessionReceive handler [reads.flatten] [] { state := s }) ∧
      ReceivesLikeReference handler reads.flatten s
        (clientReceive handler [reads.flatten] [] { state := s }) := by
  have hsession := sessionReceive_reference handler [reads.flatten] s
  have hclient := clientReceive_reference handler [reads.flatten] s
  rw [List.flatten_singleton] at hsession hclient
  exact ⟨sessionReceive_reference handler reads s, clientReceive_reference handler reads s,
    hsession, hclient⟩

end NetworkArena.System
