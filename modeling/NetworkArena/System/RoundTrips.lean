/-
# NetworkArena.System.RoundTrips -- what a client measures

A session answers every ping with a pong of the same payload, in order, until it refuses one and
stops reading (`Answering`). As both directions of a connection deliver in order, the `k`-th pong a
client dispatches answers the `k`-th ping it has sent, and the round trip of a client is the time
from the clock reading in that ping to the one made when its pong was dispatched (`pongsOf`).
-/
import NetworkArena.System.Traffic

namespace NetworkArena.System

open NetworkArena.Foundation
open NetworkArena.Shared
open NetworkArena.Server
open NetworkArena.Client

/-- The payloads of the messages of one type. -/
def payloadsOf (type : MessageType) (messages : List Message) : List (List UInt8) :=
  (messages.filter fun message => message.type = type).map Message.payload

section PayloadsOf

variable {type : MessageType} {messages messages' : List Message} {message : Message}

theorem payloadsOf_mono (type : MessageType) (h : messages <+: messages') :
    payloadsOf type messages <+: payloadsOf type messages' :=
  (h.filter _).map _

theorem payloadsOf_concat (h : message.type = type) (messages : List Message) :
    payloadsOf type (messages ++ [message]) = payloadsOf type messages ++ [message.payload] := by
  simp [payloadsOf, h]

theorem payloadsOf_concat_ne (h : message.type ≠ type) (messages : List Message) :
    payloadsOf type (messages ++ [message]) = payloadsOf type messages := by
  simp [payloadsOf, h]

theorem mem_payloadsOf {payload : List UInt8} :
    payload ∈ payloadsOf type messages ↔ ⟨type, payload⟩ ∈ messages := by
  unfold payloadsOf
  rw [List.mem_map]
  constructor
  · rintro ⟨⟨type', payload'⟩, hmem, rfl⟩
    obtain ⟨hmessage, htype⟩ := List.mem_filter.mp hmem
    obtain rfl : type' = type := of_decide_eq_true htype
    exact hmessage
  · intro hmem
    exact ⟨_, List.mem_filter.mpr ⟨hmem, decide_eq_true rfl⟩, rfl⟩

end PayloadsOf

/-! ## A session answers -/

/-- All pings are answered. -/
def UpToDate (s : Session) : Prop :=
  payloadsOf .pong s.accepted = payloadsOf .ping s.dispatched

/-- Pings are answered in order. One that is not answered is the last the session reads. -/
structure Answering (s : Session) : Prop where
  oneRead : s.readsOutstanding ≤ 1
  answers : payloadsOf .pong s.accepted <+: payloadsOf .ping s.dispatched
  upToDate : s.readsOutstanding ≠ 0 → UpToDate s

section Answering

variable {σ : Type} {s s' : Session}

theorem Answering.of_eq (h : Answering s)
    (haccepted : payloadsOf .pong s'.accepted = payloadsOf .pong s.accepted)
    (hdispatched : s'.dispatched = s.dispatched)
    (hreads : s'.readsOutstanding = s.readsOutstanding) : Answering s' := by
  refine ⟨hreads ▸ h.oneRead, ?_, ?_⟩
  · rw [haccepted, hdispatched]
    exact h.answers
  · intro hread
    unfold UpToDate
    rw [haccepted, hdispatched]
    exact h.upToDate (hreads ▸ hread)

/-- A session that is not going to read anything. -/
theorem answering_silent (hreads : s.readsOutstanding = 0)
    (h : payloadsOf .pong s.accepted <+: payloadsOf .ping s.dispatched) : Answering s :=
  ⟨hreads ▸ Nat.zero_le 1, h, fun hread => absurd hreads hread⟩

theorem UpToDate.answers (h : UpToDate s) :
    payloadsOf .pong s.accepted <+: payloadsOf .ping s.dispatched :=
  h ▸ List.prefix_rfl

theorem UpToDate.readNext (h : UpToDate s) (hreads : s.readsOutstanding = 0) :
    Answering s.readNext := by
  unfold Session.readNext
  split
  · exact answering_silent hreads h.answers
  · exact ⟨Nat.le_of_eq (congrArg (· + 1) hreads), h.answers, fun _ => h⟩

theorem payloadsOf_send {type : MessageType} (h : type ≠ .pong) (payload : List UInt8)
    (s : Session) :
    payloadsOf .pong (s.send type payload).2.accepted = payloadsOf .pong s.accepted := by
  cases hsent : (s.send type payload).1 with
  | true => rw [Session.send_true _ _ _ hsent, payloadsOf_concat_ne h]
  | false => rw [(Session.send_false _ _ _ hsent).2.2]

theorem Answering.close (h : Answering s) (callbacks : SessionCallbacks σ) (w : σ) :
    Answering (s.close callbacks w).1 :=
  h.of_eq (by rw [Session.close_accepted]) (Session.close_dispatched ..)
    (Session.close_readsOutstanding ..)

/-- **A message is dispatched**: a ping that is accepted is answered. -/
theorem dispatchOn_answers (callbacks : SessionCallbacks σ) (m : Message) (s : Session) (w : σ) :
    (m.type = .ping ∧ payloadsOf .pong (Session.dispatchOn callbacks m (s, w)).2.1.accepted =
      payloadsOf .pong s.accepted ++ [m.payload]) ∨
    ((Session.dispatchOn callbacks m (s, w)).2.1.accepted = s.accepted ∧
      ((Session.dispatchOn callbacks m (s, w)).1 = true → m.type ≠ .ping)) := by
  unfold Session.dispatchOn Session.dispatchMessage
  dsimp only
  split
  · next hping =>
      unfold Session.handlePing
      split
      split
      · exact Or.inr ⟨Session.close_accepted .., nofun⟩
      · dsimp only
        cases hsent : (Session.send _ .pong m.payload).1 with
        | true =>
            rw [Session.send_true _ _ _ hsent]
            exact Or.inl ⟨hping, payloadsOf_concat (by rfl) _⟩
        | false =>
            rw [(Session.send_false _ _ _ hsent).2.2]
            exact Or.inr ⟨rfl, nofun⟩
  · next hother =>
      refine Or.inr ⟨?_, fun _ => hother⟩
      split
      · unfold Session.handlePlayerInput
        split
        split
        · exact Session.close_accepted ..
        · split
          · rfl
          · rfl
      · exact Session.close_accepted ..

/-- A session in the middle of a read, up to the message it refuses. -/
structure Answers (refused : Bool) (s : Session) : Prop where
  noRead : s.readsOutstanding = 0
  answers : payloadsOf .pong s.accepted <+: payloadsOf .ping s.dispatched
  upToDate : refused = false → UpToDate s

theorem Answers.answering {refused : Bool} (h : Answers refused s) : Answering s :=
  answering_silent h.noRead h.answers

theorem Answers.dispatch (h : Answers false s) (callbacks : SessionCallbacks σ) (m : Message)
    (w : σ) : Answers (!(Session.dispatchOn callbacks m (s, w)).1)
      (Session.dispatchOn callbacks m (s, w)).2.1 := by
  have hsame : payloadsOf .pong s.accepted = payloadsOf .ping s.dispatched := h.upToDate rfl
  have hdispatched := Session.dispatchOn_dispatched callbacks m (s, w)
  have hreads := (Session.readsOutstanding_updates callbacks 0).world.dispatchMessage
    m.header m.payload (w := w) h.noRead
  rcases dispatchOn_answers callbacks m s w with ⟨hping, hanswer⟩ | ⟨hnothing, hother⟩
  · have hafter : UpToDate (Session.dispatchOn callbacks m (s, w)).2.1 := by
      unfold UpToDate
      rw [hdispatched, hanswer, payloadsOf_concat hping, hsame]
    exact ⟨hreads, hafter.answers, fun _ => hafter⟩
  · refine ⟨hreads, ?_, ?_⟩
    · rw [hdispatched, hnothing, hsame]
      exact payloadsOf_mono _ (List.prefix_append _ _)
    · intro hok
      unfold UpToDate
      rw [hdispatched, hnothing, hsame, payloadsOf_concat_ne (hother (by simpa using hok))]

/-- What processing leaves. -/
theorem Answers.processReceivedData {callbacks : SessionCallbacks σ} {w : σ} (h : Answers false s)
    (received : List UInt8) (hin : (s.processReceivedData callbacks received w).InBounds) :
    Answers (!((s.processReceivedData callbacks received w).get hin).1)
      ((s.processReceivedData callbacks received w).get hin).2.1 := by
  rw [Session.processReceivedData_get]
  have hbuffered : Answers false
      { s with accumulatedBuffer := s.accumulatedBuffer ++ received } :=
    ⟨h.noRead, h.answers, h.upToDate⟩
  have hdrain := FrameReader.drain_until (R := messageReader) (Session.dispatchOn callbacks)
    (P := fun t => Answers false t.1) (Q := fun t => Answers true t.1)
    (fun m t ht hok => by
      have hnext := ht.dispatch callbacks m t.2
      rw [hok] at hnext
      exact hnext)
    (fun m t ht hrefused => by
      have hnext := ht.dispatch callbacks m t.2
      rw [hrefused] at hnext
      exact hnext)
    (s.accumulatedBuffer ++ received)
    (t := ({ s with accumulatedBuffer := s.accumulatedBuffer ++ received }, w)) hbuffered
  revert hdrain
  rcases messageReader.drain (Session.dispatchOn callbacks) (s.accumulatedBuffer ++ received)
    ({ s with accumulatedBuffer := s.accumulatedBuffer ++ received }, w) with
    ⟨verdict, rest, s', w'⟩
  intro hdrain
  cases verdict with
  | waiting => exact ⟨hdrain.noRead, hdrain.answers, hdrain.upToDate⟩
  | malformed =>
      refine ⟨(Session.close_readsOutstanding ..).trans hdrain.noRead, ?_, nofun⟩
      dsimp only
      rw [Session.close_accepted, Session.close_dispatched]
      exact hdrain.answers
  | rejected => exact ⟨hdrain.noRead, hdrain.answers, nofun⟩

/-- **The session reads**, and answers what it accepts. -/
theorem Answers.handleRead (h : Answers false s) (callbacks : SessionCallbacks σ)
    (error : Option ErrorCode) (received : List UInt8) (w : σ) :
    Answering (s.handleRead callbacks error received w).1 := by
  unfold Session.handleRead
  split
  · exact h.answering
  have hprocessed : ∀ t : Bool × Session × σ, t = (if received.length > 0 then
      (s.processReceivedData callbacks received w).get
        (Session.processReceivedData_inBounds callbacks received s w)
      else (true, s, w)) → Answers (!t.1) t.2.1 := by
    rintro t rfl
    split
    · exact h.processReceivedData received _
    · exact h
  have hafter := hprocessed _ rfl
  revert hafter
  rcases (if received.length > 0 then
      (s.processReceivedData callbacks received w).get
        (Session.processReceivedData_inBounds callbacks received s w)
      else (true, s, w)) with ⟨processed, s', w'⟩
  intro hafter
  dsimp only at hafter ⊢
  split
  · exact hafter.answering
  next hok =>
  cases error with
  | none => exact (hafter.upToDate (by simpa using hok)).readNext hafter.noRead
  | some error =>
      obtain ⟨diagnostics, hreport⟩ := s'.reportReadError_eq error
      dsimp only
      rw [hreport]
      have hreported : Answering { s' with diagnostics := diagnostics } :=
        answering_silent hafter.noRead hafter.answers
      exact hreported.close callbacks w'

/-- **Every session answers the pings it reads.** -/
theorem sessionInvariant_answering : SessionInvariant Answering where
  create id := answering_silent rfl List.prefix_rfl
  entered id payload := by
    have hsame : UpToDate (({ id } : Session).send .playerIdentity payload).2 := by
      unfold UpToDate
      rw [payloadsOf_send (by decide), Session.send_dispatched]
      rfl
    unfold Session.start
    split
    · exact answering_silent (Session.send_readsOutstanding ..) hsame.answers
    · exact UpToDate.readNext (s := Session.report _ .clientConnected) hsame
        (Session.send_readsOutstanding ..)
  send payload h :=
    h.of_eq (payloadsOf_send (by decide) payload _) (Session.send_dispatched ..)
      (Session.send_readsOutstanding ..)
  close h := h.close closeRecorder false
  destroy h := h.of_eq rfl rfl rfl
  read {s σ} callbacks error received w hread h := by
    have hone := h.oneRead
    have hnone : s.readsOutstanding - 1 = 0 := by omega
    have hretired : Answers false s.retireRead := ⟨hnone, h.answers, fun _ => h.upToDate hread⟩
    exact hretired.handleRead callbacks error received w
  transfer i count h := h.of_eq rfl rfl rfl
  written {s σ} callbacks i error count w h := by
    obtain ⟨haccepted, hdispatched, -, hreads, -⟩ :=
      (s.retireWrite i).handleWrite_frame callbacks w error count
    exact h.of_eq (congrArg _ haccepted) hdispatched hreads

end Answering

/-! ## A client measures -/

/-- The payload of a pong that comes in, and how often the clock had been read. -/
def pongOf (item : Traffic) : Option (List UInt8 × ℕ) :=
  (receivedOf item).bind fun came =>
    if came.1.type = .pong then some (came.1.payload, came.2) else none

/-- The pongs that have come in since the last start. -/
def pongsOf (traffic : List Traffic) : List (List UInt8 × ℕ) :=
  (sinceStart traffic).filterMap pongOf

section PongsOf

variable {traffic : List Traffic} {item : Traffic} {message : Message}

theorem pongsOf_concat_none (hstart : startOf item = none) (h : pongOf item = none) :
    pongsOf (traffic ++ [item]) = pongsOf traffic := by
  simp [pongsOf, sinceStart_concat hstart, h]

theorem pongsOf_concat_pong (h : message.type = .pong) (clockReads : ℕ) :
    pongsOf (traffic ++ [.received message clockReads]) =
      pongsOf traffic ++ [(message.payload, clockReads)] := by
  have hsince : sinceStart (traffic ++ [.received message clockReads]) =
      sinceStart traffic ++ [.received message clockReads] := sinceStart_concat rfl
  simp [pongsOf, hsince, pongOf, receivedOf, h]

/-- The pongs of the record are the pongs among the messages. -/
theorem pongsOf_payloads (traffic : List Traffic) :
    (pongsOf traffic).map (·.1) =
      payloadsOf .pong (((sinceStart traffic).filterMap receivedOf).map (·.1)) := by
  unfold pongsOf payloadsOf
  induction sinceStart traffic with
  | nil => rfl
  | cons item items ih =>
      cases item with
      | started g => exact ih
      | sent message => exact ih
      | received message clockReads =>
          by_cases hpong : message.type = .pong
          · simp only [pongOf, receivedOf, List.filterMap_cons, Option.bind_some, if_pos hpong,
              List.map_cons, List.filter_cons, decide_eq_true hpong, if_true]
            exact congrArg _ ih
          · simp only [pongOf, receivedOf, List.filterMap_cons, Option.bind_some, if_neg hpong,
              List.map_cons, List.filter_cons, decide_eq_false hpong]
            exact ih

theorem Recorded.pongs {c : NetworkClient} (h : Recorded c) :
    (pongsOf c.traffic).map (·.1) = payloadsOf .pong (c.dispatchedIn (lastStart c.traffic)) := by
  rw [pongsOf_payloads, h.received]

end PongsOf

/-- The latest pong of the connection carries the `i`-th reading of the clock, and the client made
the `j`-th when it dispatched it. -/
structure Measured (clock : ℕ → UInt64) (c : NetworkClient) (rtt : UInt64) (i j : ℕ) : Prop where
  pong : ∃ before, pongsOf c.traffic = before ++ [(PingPayload.bytes ⟨clock i⟩, j)]
  ordered : i < j
  read : j < c.clockReads
  later : clock i ≤ clock j
  difference : rtt = clock j - clock i

/-- A pong of the connection carries none of the first readings of the clock. -/
def HasStrangePong (clock : ℕ → UInt64) (reads : ℕ) (c : NetworkClient) : Prop :=
  ∃ pong ∈ pongsOf c.traffic, ∀ i < reads, pong.1 ≠ PingPayload.bytes ⟨clock i⟩

/-- What is measured is the time to the latest pong, unless a pong was strange. -/
structure Timed (clock : ℕ → UInt64) (reads : ℕ) (c : NetworkClient) : Prop where
  past : reads ≤ c.clockReads
  measured : ∀ rtt, c.latestRttNanoseconds = some rtt → c.connectionState = .connected ∧
    (HasStrangePong clock reads c ∨ ∃ i j, Measured clock c rtt i j)

section Timed

variable {clock : ℕ → UInt64} {reads : ℕ} {c c' : NetworkClient}

theorem Timed.of_eq (h : Timed clock reads c)
    (hrtt : c'.latestRttNanoseconds = c.latestRttNanoseconds)
    (hstate : c'.connectionState = c.connectionState)
    (hpongs : pongsOf c'.traffic = pongsOf c.traffic)
    (hreads : c.clockReads ≤ c'.clockReads) : Timed clock reads c' := by
  refine ⟨h.past.trans hreads, fun rtt hsome => ?_⟩
  rw [hrtt] at hsome
  obtain ⟨hconnected, hmeasured⟩ := h.measured rtt hsome
  refine ⟨hstate.trans hconnected, ?_⟩
  rcases hmeasured with hstrange | ⟨i, j, hpong, hordered, hread, hlater, hdifference⟩
  · left
    unfold HasStrangePong
    rw [hpongs]
    exact hstrange
  · refine Or.inr ⟨i, j, ?_, hordered, Nat.lt_of_lt_of_le hread hreads, hlater, hdifference⟩
    rw [hpongs]
    exact hpong

/-- Nothing is measured. -/
theorem timed_none (hreads : reads ≤ c.clockReads) (hrtt : c.latestRttNanoseconds = none) :
    Timed clock reads c :=
  ⟨hreads, fun rtt hsome => by rw [hrtt] at hsome; cases hsome⟩

/-- While a connection is made, nothing is. -/
theorem Timed.unconnected (h : Timed clock reads c) (hstate : c.connectionState ≠ .connected) :
    c.latestRttNanoseconds = none := by
  cases hrtt : c.latestRttNanoseconds with
  | none => rfl
  | some rtt => exact absurd (h.measured rtt hrtt).1 hstate

theorem timed_survives (clock : ℕ → UInt64) (reads : ℕ) :
    NetworkClient.Survives (Timed clock reads) where
  connect {c} host port callbacks h := by
    unfold NetworkClient.connect
    split
    · exact h
    split
    · exact h
    · exact timed_none h.past rfl
  disconnect {c} h := by
    unfold NetworkClient.disconnect
    split
    · exact h
    · exact timed_none h.past rfl
  send {c} type payload h := by
    rcases c.send_cases type payload with ⟨-, hsend⟩ | ⟨-, diagnostics, hsend⟩
    · rw [hsend]
      exact h.of_eq rfl rfl (pongsOf_concat_none rfl rfl) (Nat.le_refl _)
    · rw [hsend]
      exact h.of_eq rfl rfl rfl (Nat.le_refl _)
  report _ h := h.of_eq rfl rfl rfl (Nat.le_refl _)
  readClock _ h := h.of_eq rfl rfl rfl (Nat.le_succ _)
  invocations _ h := h.of_eq rfl rfl rfl (Nat.le_refl _)

/-- Dispatching records the message and reads the clock at most, and only a pong is measured. -/
theorem dispatchOn_reads {α : Type} (env : ClientEnvironment α) (message : Message)
    (c : NetworkClient) (a : α) :
    c.clockReads ≤ (NetworkClient.dispatchOn env message (c, a)).2.1.clockReads ∧
      (NetworkClient.dispatchOn env message (c, a)).2.1.traffic =
        c.traffic ++ [.received message c.clockReads] ∧
      (message.type ≠ .pong →
        (NetworkClient.dispatchOn env message (c, a)).2.1.latestRttNanoseconds =
          c.latestRttNanoseconds) := by
  obtain ⟨identity, rtt, posted, clockReads, diagnostics, hafter, hreads, hother⟩ :=
    NetworkClient.dispatchOn_eq env message c a
  rw [hafter]
  exact ⟨hreads, rfl, hother⟩

/-- **A pong with a reading of the clock** is measured. -/
theorem dispatchOn_pong_measured {α : Type} (env : ClientEnvironment α)
    (hclock : ∀ i j, i ≤ j → env.clock i ≤ env.clock j) {i : ℕ} {c : NetworkClient}
    (hi : i < c.clockReads) (a : α) :
    (NetworkClient.dispatchOn env ⟨.pong, PingPayload.bytes ⟨env.clock i⟩⟩ (c, a)).2.1.clockReads =
        c.clockReads + 1 ∧
      (NetworkClient.dispatchOn env ⟨.pong, PingPayload.bytes ⟨env.clock i⟩⟩
        (c, a)).2.1.latestRttNanoseconds = some (env.clock c.clockReads - env.clock i) := by
  have hlater : ¬ env.clock c.clockReads < env.clock i :=
    UInt64.not_lt.mpr (hclock i c.clockReads (Nat.le_of_lt hi))
  unfold NetworkClient.dispatchOn NetworkClient.dispatchMessage
  dsimp only
  rw [if_pos (by rfl), NetworkClient.handlePong,
    Checked.get_eq (decodePingPayload_bytes ⟨env.clock i⟩ {})]
  dsimp only [NetworkClient.readClock, NetworkClient.recordPacketLog]
  rw [if_neg (by simp), if_neg hlater]
  exact ⟨rfl, rfl⟩

theorem Timed.dispatch {α : Type} (env : ClientEnvironment α) (h : Timed env.clock reads c)
    (hclock : ∀ i j, i ≤ j → env.clock i ≤ env.clock j) (message : Message) (a : α)
    (hconnected : c.connectionState = .connected) :
    Timed env.clock reads (NetworkClient.dispatchOn env message (c, a)).2.1 := by
  have hstate := (NetworkClient.dispatchOn_frame env message (c, a)).1.state
  obtain ⟨hreads, htraffic, hother⟩ := dispatchOn_reads env message c a
  by_cases hpong : message.type = .pong
  swap
  · refine h.of_eq (hother hpong) hstate ?_ hreads
    rw [htraffic]
    exact pongsOf_concat_none rfl (by simp [pongOf, receivedOf, hpong])
  have hpongs : pongsOf (c.traffic ++ [.received message c.clockReads]) =
      pongsOf c.traffic ++ [(message.payload, c.clockReads)] := pongsOf_concat_pong hpong _
  rw [← htraffic] at hpongs
  refine ⟨h.past.trans hreads, fun rtt hrtt => ⟨hstate.trans hconnected, ?_⟩⟩
  by_cases hknown : ∃ i < reads, message.payload = PingPayload.bytes ⟨env.clock i⟩
  · obtain ⟨i, hi, hpayload⟩ := hknown
    obtain ⟨type, payload⟩ := message
    obtain rfl : type = .pong := hpong
    obtain rfl : payload = PingPayload.bytes ⟨env.clock i⟩ := hpayload
    have hbefore : i < c.clockReads := Nat.lt_of_lt_of_le hi h.past
    obtain ⟨hone, hsome⟩ := dispatchOn_pong_measured env hclock hbefore a
    refine Or.inr ⟨i, c.clockReads, ⟨_, hpongs⟩, hbefore, ?_,
      hclock i c.clockReads (Nat.le_of_lt hbefore), ?_⟩
    · rw [hone]
      exact Nat.lt_succ_self _
    · exact Option.some.inj (hrtt.symm.trans hsome)
  · refine Or.inl ⟨(message.payload, c.clockReads), ?_, fun i hi hpayload =>
      hknown ⟨i, hi, hpayload⟩⟩
    rw [hpongs]
    exact List.mem_append_right _ (List.mem_singleton_self _)

/-- **Every client measures the time to its latest pong.** -/
theorem clientInvariant_timed {clock : ℕ → UInt64} (hclock : ∀ i j, i ≤ j → clock i ≤ clock j)
    (reads : ℕ) : ClientInvariant (ClientApplication.environment clock) (Timed clock reads) where
  survives := timed_survives clock reads
  handled := {
    weaken := fun h => h
    calls := fun calls h => (timed_survives clock reads).calls clock calls h
    reads := fun _ _ h => h.of_eq rfl rfl rfl (Nat.le_refl _)
    dispatch := fun message a hconnected h =>
      h.dispatch (ClientApplication.environment clock) hclock message a hconnected
    buffer := fun _ h => h.of_eq rfl rfl rfl (Nat.le_refl _)
    resolved := fun hstate h => timed_none h.past (h.unconnected (by rw [hstate]; decide))
    connected := fun hstate h => timed_none h.past (h.unconnected (by rw [hstate]; decide))
    failed := fun _ _ h => timed_none h.past rfl
    ended := fun _ _ h => timed_none h.past rfl }
  owed _ _ _ _ _ _ _ _ h := h.of_eq rfl rfl rfl (Nat.le_refl _)

end Timed

/-! ## Round trips -/

/-- Pings are answered, and the time to the latest pong is known. -/
structure Arena.Timely {K : Type} (clock : ℕ → ℕ → UInt64) (t : Arena K) : Prop where
  answering : AllSessions Answering t.channels
  recorded : ∀ n, Recorded (t.channels n).client
  measured : ∀ n rtt, (t.channels n).client.latestRttNanoseconds = some rtt →
    (t.channels n).client.connectionState = .connected ∧
      ∃ i j, Measured (clock n) (t.channels n).client rtt i j

section Runs

variable {K : Type} [Field K] [LinearOrder K] {clock : ℕ → ℕ → UInt64} {t t' : Arena K}

/-- A pong on the session of a connection carries a reading of the client's clock. -/
theorem Arena.Reachable.pong_known (h : t.Reachable clock) {n g : ℕ} {payload : List UInt8}
    (hpong : payload ∈ payloadsOf .pong (Link.accepted ((t.channels n).links g))) :
    ∃ i < (t.channels n).client.clockReads, payload = PingPayload.bytes ⟨clock n i⟩ := by
  have hmem := mem_payloadsOf.mp hpong
  unfold Link.accepted at hmem
  cases hserver : ((t.channels n).links g).bind Link.serverEnd with
  | none =>
      rw [hserver] at hmem
      cases hmem
  | some server =>
      rw [hserver, Option.map_some, Option.getD_some] at hmem
      have hend := h.sound.world.ends n g server hserver
      cases hplayer : t.server.assigned ⟨n, g, server.session.id⟩ with
      | none =>
          rw [(hend.unassigned hplayer).1] at hmem
          cases hmem
      | some player =>
          obtain ⟨replies, hmessages, hreplies⟩ := (hend.script player hplayer).replies
          rw [hmessages] at hmem
          rcases List.mem_cons.mp hmem with hidentity | hreply
          · cases (Message.mk.inj hidentity).1
          · have hknown := hreplies _ hreply
            generalize hmessage : Message.mk .pong payload = message at hknown
            cases hknown with
            | @pong k hk => exact ⟨k, hk, (Message.mk.inj hmessage).2⟩
            | worldStateSnapshot hsound => cases (Message.mk.inj hmessage).1

omit [LinearOrder K] in
theorem Arena.timely_initial : (Arena.initial : Arena K).Timely clock :=
  ⟨nofun, fun _ => recorded_initial, nofun⟩

/-- The pongs of a session answer the first pings of its client. -/
theorem Arena.Timely.answers (h : t.Timely clock) (hreachable : t.Reachable clock) (n g : ℕ) :
    payloadsOf .pong ((t.channels n).client.dispatchedIn g) <+:
      payloadsOf .ping ((t.channels n).client.acceptedIn g) := by
  obtain ⟨hup, hdown⟩ := (hreachable.sound.world.inOrder n).delivers g
  refine (payloadsOf_mono .pong hdown).trans (.trans ?_ (payloadsOf_mono .ping hup))
  unfold Link.accepted Link.dispatched
  cases hserver : ((t.channels n).links g).bind Link.serverEnd with
  | none => exact List.prefix_rfl
  | some server => exact (h.answering n g server hserver).answers

variable [IsStrictOrderedRing K] [FloorRing K] [HasSqrt K] {toFloat : K → FloatBits}

/-- In a step either no client moves or no session does. -/
theorem Arena.Reachable.still (h : t.Reachable clock) {event : ArenaEvent K}
    (hticks : event.isTick = true → t.server.serverTick.toNat + 1 < 2 ^ 64)
    (hstep : Arena.step clock toFloat t event = some t') :
    (∀ n, (t'.channels n).client = (t.channels n).client) ∨
      ∀ n g, t'.channels.sessionAt n g = t.channels.sessionAt n g := by
  have hworld := h.sound.world
  cases Arena.step_cases hstep with
  | client n event hevent hclient =>
      exact Or.inr (Arena.sessionAt_setChannel (Channel.clientStep_serverEnd hclient))
  | established n g hnew =>
      exact Or.inr (Arena.sessionAt_setChannel (Channel.established_serverEnd hnew))
  | server m g event hevent hserver =>
      obtain ⟨link, server, link', -, -, -, rfl⟩ := Channel.step_server hserver
      exact Or.inl fun n => (t.channels.update_links m _ n).1
  | update n keys => exact Or.inr (Arena.sessionAt_setChannel fun _ => rfl)
  | shutdown n => exact Or.inr (Arena.sessionAt_setChannel fun _ => rfl)
  | accept n g hlink hnew => exact Or.inl (hworld.handleAccept hlink hnew).2.client
  | tick deltaSeconds =>
      exact Or.inl (hworld.handleTick 0 0 toFloat deltaSeconds (hticks rfl)).2.client
  | stop => exact Or.inl (hworld.stop 0 0).2.client

theorem Arena.Timely.step (h : t.Timely clock) (hreachable : t.Reachable clock)
    (hclock : ∀ n i j, i ≤ j → clock n i ≤ clock n j) {event : ArenaEvent K}
    (hticks : event.isTick = true → t.server.serverTick.toNat + 1 < 2 ^ 64)
    (hstep : Arena.step clock toFloat t event = some t') : t'.Timely clock := by
  have hafter := (hreachable.step hclock hticks hstep).1
  have hrecorded := hreachable.allClients hticks hstep
    (fun n => clientInvariant_recorded (ClientApplication.environment (clock n))) h.recorded
  refine ⟨hreachable.allSessions hstep sessionInvariant_answering h.answering, hrecorded,
    fun n rtt hrtt => ?_⟩
  have htimed := hreachable.allClients hticks hstep
    (P := fun n => Timed (clock n) (t.channels n).client.clockReads)
    (fun n => clientInvariant_timed (hclock n) _)
    (fun n => ⟨Nat.le_refl _, fun rtt hrtt =>
      ⟨(h.measured n rtt hrtt).1, Or.inr (h.measured n rtt hrtt).2⟩⟩) n
  obtain ⟨hconnected, hmeasured⟩ := htimed.measured rtt hrtt
  refine ⟨hconnected, hmeasured.resolve_left ?_⟩
  rintro ⟨⟨payload, clockReads⟩, hpong, hstrange⟩
  have hdispatched := List.mem_map_of_mem (f := (·.1)) hpong
  rw [(hrecorded n).pongs] at hdispatched
  -- the pong was sent by the session, which has read the ping before this step
  have hsent := (payloadsOf_mono .pong
    ((hafter.sound.world.inOrder n).delivers _).2).subset hdispatched
  obtain ⟨i, hi, hpayload⟩ : ∃ i < (t.channels n).client.clockReads,
      payload = PingPayload.bytes ⟨clock n i⟩ := by
    rcases hreachable.still hticks hstep with hclients | hsessions
    · rw [← hclients n]
      exact hafter.pong_known hsent
    · refine hreachable.pong_known (g := lastStart (t'.channels n).client.traffic) ?_
      have hsame := hsessions n (lastStart (t'.channels n).client.traffic)
      unfold Channels.sessionAt at hsame
      unfold Link.accepted at hsent ⊢
      rw [← hsame]
      exact hsent
  exact hstrange i hi hpayload

/-- **Round trips are measured.** In every run of honest clients with monotone clocks, the pongs a
client has dispatched on a connection carry the payloads of the first pings it has sent on it, in
order. If a round trip is known, the client is connected, the latest pong of this connection is its
`k`-th and carries what the `k`-th ping did, the `i`-th reading of the client's clock, and the time
is the difference of this reading and the `j`-th, which dispatching that pong made. (The source
returns it converted to milliseconds. There are fewer than 2^64 ticks and, on every client,
successful calls of `Connect` and `Disconnect`, see `NetworkClient.Counts`.) -/
theorem round_trips (clock : ℕ → ℕ → UInt64) (toFloat : K → FloatBits)
    (hclock : ∀ n i j, i ≤ j → clock n i ≤ clock n j) (events : List (ArenaEvent K))
    (hticks : events.countP ArenaEvent.isTick < 2 ^ 64) (t : Arena K)
    (hrun : runFrom (Arena.step clock toFloat) Arena.initial events = some t) (n : ℕ) :
    (∀ g, payloadsOf .pong ((t.channels n).client.dispatchedIn g) <+:
      payloadsOf .ping ((t.channels n).client.acceptedIn g)) ∧
    ∀ rtt, (t.channels n).client.latestRttNanoseconds = some rtt →
      (t.channels n).client.connectionState = .connected ∧
      (pongsOf (t.channels n).client.traffic).map (·.1) =
        payloadsOf .pong ((t.channels n).client.dispatchedIn
          (t.channels n).client.connectionGeneration) ∧
      ∃ k i j,
        (pongsOf (t.channels n).client.traffic).length = k + 1 ∧
        (pongsOf (t.channels n).client.traffic)[k]? =
          some (PingPayload.bytes ⟨clock n i⟩, j) ∧
        (payloadsOf .ping ((t.channels n).client.acceptedIn
          (t.channels n).client.connectionGeneration))[k]? =
            some (PingPayload.bytes ⟨clock n i⟩) ∧
        i < j ∧ j < (t.channels n).client.clockReads ∧
        clock n i ≤ clock n j ∧ rtt.toNat = (clock n j).toNat - (clock n i).toNat := by
  obtain ⟨hreachable, htimely, -⟩ := Arena.invariant_of_run hclock (A := Unit)
    (fun _ _ => []) (I := fun _ t => t.Timely clock) Arena.timely_initial
    (fun before t event t' hreachable htimely hnext hstep =>
      htimely.step hreachable hclock hnext hstep) hticks hrun
  refine ⟨fun g => htimely.answers hreachable n g, fun rtt hrtt => ?_⟩
  obtain ⟨hconnected, i, j, ⟨before, hpongs⟩, hordered, hread, hlater, rfl⟩ :=
    htimely.measured n rtt hrtt
  have hpayloads := (htimely.recorded n).pongs
  rw [(htimely.recorded n).current (by rw [hconnected]; decide)] at hpayloads
  refine ⟨hconnected, hpayloads, before.length, i, j, ?_, ?_, ?_, hordered, hread, hlater,
    UInt64.toNat_sub_of_le _ _ hlater⟩
  · rw [hpongs, List.length_append]
    rfl
  · rw [hpongs]
    exact List.getElem?_concat_length
  · obtain ⟨rest, hpings⟩ :=
      htimely.answers hreachable n (t.channels n).client.connectionGeneration
    rw [← hpings, ← hpayloads, hpongs, List.map_append, List.append_assoc,
      List.getElem?_append_right (Nat.le_of_eq (List.length_map _)), List.length_map,
      Nat.sub_self]
    rfl

end Runs

/-- A client connects, sends a ping and gets its pong. -/
def firstRoundTrip : List (ArenaEvent ℚ) := firstSnapshot.take 9 ++ [
  .channel 0 (.client (.call .sendPing)), .channel 0 (.client (.transfer 0 12)),
  .channel 0 (.client (.written 0 none)), .channel 0 (.server 1 (.read 12 none)),
  .channel 0 (.server 1 (.transfer 0 12)), .channel 0 (.client (.read 1 12 none))]

/-- The theorem on a run in which a round trip is measured. -/
theorem round_trips_first : ∃ t,
    runFrom (Arena.step (fun _ i => UInt64.ofNat (min i 1000)) nearestFloat) Arena.initial
      firstRoundTrip = some t ∧
    (t.channels 0).client.latestRttNanoseconds = some 1 ∧
    (t.channels 0).client.connectionState = .connected := by
  have hrtt : (runFrom (Arena.step (fun _ i => UInt64.ofNat (min i 1000)) nearestFloat)
      Arena.initial firstRoundTrip).map (fun t => (t.channels 0).client.latestRttNanoseconds) =
        some (some 1) := by
    decide +kernel
  obtain ⟨t, hrun, hsome⟩ := Option.map_eq_some_iff.mp hrtt
  have hclock : ∀ (_ : ℕ) (i j : ℕ), i ≤ j →
      UInt64.ofNat (min i 1000) ≤ UInt64.ofNat (min j 1000) := by
    intro _ i j hij
    rw [UInt64.le_iff_toNat_le, UInt64.toNat_ofNat', UInt64.toNat_ofNat']
    omega
  obtain ⟨-, hmeasured⟩ := round_trips _ nearestFloat hclock firstRoundTrip (by decide) t hrun 0
  exact ⟨t, hrun, hsome, (hmeasured 1 hsome).1⟩

end NetworkArena.System
