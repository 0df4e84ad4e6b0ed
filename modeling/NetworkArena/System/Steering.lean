/-
# NetworkArena.System.Steering -- how the inputs of a client reach its player

A session hands the inputs it dispatches to the server, which looks for the player with the id of
the session. While sessions are lively that is the player of the session, so nobody steers another
one, and the player applies the last input its session has dispatched since its own input was
changed in any other way. `Steering` is what holds of a session in the middle of a handler, next to
the server it has made of the one before.
-/
import NetworkArena.System.LiveSessions
import NetworkArena.System.Serving

namespace NetworkArena.System

open NetworkArena.Foundation
open NetworkArena.Shared
open NetworkArena.Server
open NetworkArena.Client

variable {K : Type}

/-! ## Inputs among messages -/

def inputsOf (messages : List Message) : List Message :=
  messages.filter fun message => message.type = .playerInput

theorem decodeInput_inBounds (message : Message) :
    (decodePlayerInputPayload message.payload {}).InBounds :=
  decodePlayerInputPayload_inBounds message.payload {}

/-- The last input among some messages, the neutral one if there is none. -/
def lastInput (messages : List Message) : PlayerInputPayload :=
  (inputsOf messages).getLast?.elim {} fun message =>
    ((decodePlayerInputPayload message.payload {}).get (decodeInput_inBounds message)).2

section Inputs

variable {messages messages' : List Message}

theorem inputsOf_append (messages messages' : List Message) :
    inputsOf (messages ++ messages') = inputsOf messages ++ inputsOf messages' :=
  List.filter_append ..

theorem inputsOf_ping (payload : List UInt8) : inputsOf [⟨.ping, payload⟩] = [] := rfl

theorem inputsOf_playerInput (payload : List UInt8) :
    inputsOf [⟨.playerInput, payload⟩] = [⟨.playerInput, payload⟩] := rfl

theorem lastInput_concat_playerInput (messages : List Message) {input : PlayerInputPayload}
    (h : isValidPlayerInput input = true) :
    lastInput (messages ++ [⟨.playerInput, input.bytes⟩]) = input := by
  rw [lastInput, inputsOf_append, inputsOf_playerInput, List.getLast?_concat, Option.elim_some,
    Checked.get_eq (decodePlayerInputPayload_bytes h {})]

theorem lastInput_congr (h : inputsOf messages' = inputsOf messages) :
    lastInput messages' = lastInput messages := by
  rw [lastInput, lastInput, h]

end Inputs

/-! ## Seats that apply an input -/

/-- The player applies an input. -/
def Applies [Field K] [LinearOrder K] [HasSqrt K] (input : PlayerInputPayload)
    (seat : Seat K SessionRef) : Prop :=
  seat.withInput input = seat

section Applies

variable [Field K] [LinearOrder K] [HasSqrt K]

theorem applies_withInput (input : PlayerInputPayload) (seat : Seat K SessionRef) :
    Applies input (seat.withInput input) := rfl

/-- Nobody holds a key: the neutral input. -/
theorem normalizePlayerInput_neutral [IsStrictOrderedRing K] :
    (normalizePlayerInput {} : NormalizedPlayerInput K) = ⟨0, 0, 0⟩ := by
  have hzero : (((0 : Int16).toInt : ℤ) : K) = 0 := by simp
  simp only [normalizePlayerInput, hzero, zero_div, mul_zero, add_zero]
  rw [if_neg (not_lt.mpr zero_le_one)]

theorem applies_cleared [IsStrictOrderedRing K] (seat : Seat K SessionRef) :
    Applies {} seat.cleared := by
  simp only [Applies, Seat.withInput, normalizePlayerInput_neutral]
  rfl

theorem applies_newSeat [IsStrictOrderedRing K] (r : Room K SessionRef) (session : SessionRef) :
    Applies {} (r.newSeat session) := by
  simp only [Applies, Seat.withInput, normalizePlayerInput_neutral]
  rfl

end Applies

/-! ## A session that steers -/

section Steering

variable [Field K] [LinearOrder K] [HasSqrt K]

/-- What has become of a seat, when a session has become another one. Only the seat with the id of
the session changes, and only as long as the session is open. -/
structure Steered (session₀ session : Session) (old seat : Seat K SessionRef) : Prop where
  key : old.key = seat.key
  sameSession : old.session = seat.session
  other : seat.key ≠ session₀.id ∨ session₀.closed = true → seat = old
  own : seat.key = session₀.id → (session.closed = true → session₀.closed = true) ∧
    (seat = old ∧ inputsOf session.dispatched = inputsOf session₀.dispatched ∨
      Applies (lastInput session.dispatched) seat)

/-- A session in the middle of a handler, which was `session₀` before it, next to the server it has
made of `s₀`. -/
structure Steering (s₀ : Server K SessionRef) (session₀ session : Session)
    (s : Server K SessionRef) : Prop where
  id : session.id = session₀.id
  stopped : s.stopped = s₀.stopped
  opened : session.closed = false → session₀.closed = false ∧ session.socketOpen = true
  entries : ∀ entry ∈ s.sessions, entry ∈ s₀.sessions
  kept : ∀ entry ∈ s₀.sessions, session.closed = session₀.closed ∨ entry.1 ≠ session₀.id →
    entry ∈ s.sessions
  seats : ∀ seat ∈ s.room.seats, ∃ old ∈ s₀.room.seats, Steered session₀ session old seat

variable {s₀ s : Server K SessionRef} {session₀ session session' : Session}

/-- A session steers the players of its server. -/
theorem Steering.refl (s₀ : Server K SessionRef)
    (hsocket : session₀.closed = false → session₀.socketOpen = true) :
    Steering s₀ session₀ session₀ s₀ where
  id := rfl
  stopped := rfl
  opened hopen := ⟨hopen, hsocket hopen⟩
  entries _ hentry := hentry
  kept _ hentry _ := hentry
  seats seat hseat := ⟨seat, hseat, rfl, rfl, fun _ => rfl, fun _ =>
    ⟨fun hclosed => hclosed, Or.inl ⟨rfl, rfl⟩⟩⟩

/-- Changes of a session that close nothing and dispatch no input. -/
theorem Steering.of_eq (h : Steering s₀ session₀ session s) (hid : session'.id = session.id)
    (hclosed : session'.closed = session.closed)
    (hsocket : session'.socketOpen = session.socketOpen)
    (hinputs : inputsOf session'.dispatched = inputsOf session.dispatched) :
    Steering s₀ session₀ session' s where
  id := hid.trans h.id
  stopped := h.stopped
  opened hopen := by
    rw [hsocket]
    exact h.opened (hclosed.symm.trans hopen)
  entries := h.entries
  kept := by
    rw [hclosed]
    exact h.kept
  seats seat hseat := by
    obtain ⟨old, hold, hkey, hsession, hother, hown⟩ := h.seats seat hseat
    refine ⟨old, hold, hkey, hsession, hother, fun hsame => ?_⟩
    rw [hclosed, hinputs, lastInput_congr hinputs]
    exact hown hsame

theorem steering_keeps : Session.Keeps (Server.callbacks : SessionCallbacks (Server K SessionRef))
    (Steering s₀ session₀) where
  report _ _ h := h.of_eq rfl rfl rfl rfl
  queues _ _ _ _ _ h := h.of_eq rfl rfl rfl rfl
  close {session s} h := by
    unfold Session.close
    split
    · exact h
    next hopen =>
    have hopen : session.closed = false := by simpa using hopen
    obtain ⟨hopen₀, hsocket⟩ := h.opened hopen
    simp only [hsocket, Bool.not_true, Bool.false_eq_true, if_false]
    -- the player with the id of the session leaves, and the registry forgets the session
    constructor
    · exact h.id
    · exact h.stopped
    · nofun
    · intro entry hentry
      exact h.entries entry (List.mem_of_mem_filter hentry)
    · intro entry hentry hkept
      have hne : entry.1 ≠ session₀.id := by
        rcases hkept with hclosed | hne
        · rw [hopen₀] at hclosed
          cases hclosed
        · exact hne
      refine List.mem_filter.mpr ⟨h.kept entry hentry (Or.inr hne), ?_⟩
      rw [h.id]
      exact decide_eq_true hne
    · intro seat hseat
      obtain ⟨hbefore, hne⟩ := seats_leave s.room session.id seat hseat
      rw [h.id] at hne
      obtain ⟨old, hold, hkey, hsession, hother, -⟩ := h.seats seat hbefore
      exact ⟨old, hold, hkey, hsession, hother, fun hsame => absurd hsame hne⟩

/-- **A request reaches the player** of the session that dispatches it. -/
theorem Steering.dispatch (h : Steering s₀ session₀ session s) (hopen : session.closed = false)
    {clock : ℕ → UInt64} {clockReads : ℕ} {m : Message}
    (hm : NetworkClient.IsRequest clock clockReads m) :
    Steering s₀ session₀ (Session.dispatchOn Server.callbacks m (session, s)).2.1
      (Session.dispatchOn Server.callbacks m (session, s)).2.2 := by
  cases hm with
  | @ping k hk =>
      rw [Session.dispatchOn_ping]
      refine h.of_eq (Session.send_id ..) (Session.send_closed ..) (Session.send_socketOpen ..) ?_
      rw [Session.send_dispatched]
      show inputsOf (session.dispatched ++ [_]) = _
      rw [inputsOf_append, inputsOf_ping, List.append_nil]
  | @playerInput input hinput =>
      rw [Session.dispatchOn_playerInput Server.callbacks session s hinput (by rfl)]
      obtain ⟨hopen₀, hsocket⟩ := h.opened hopen
      refine ⟨h.id, h.stopped, fun _ => ⟨hopen₀, hsocket⟩, h.entries, h.kept, fun seat hseat => ?_⟩
      rw [show (s.handlePlayerInput session.id input).room.seats = _ from
        (s.room.applyPlayerInput_frame session.id input).1] at hseat
      obtain ⟨before, hbefore, rfl⟩ := List.mem_map.mp hseat
      obtain ⟨old, hold, hkey, hsession, hother, hown⟩ := h.seats before hbefore
      by_cases hsame : before.key = session.id
      · rw [if_pos hsame]
        refine ⟨old, hold, hkey, hsession, ?_, fun _ => ⟨fun hclosed => ?_, Or.inr ?_⟩⟩
        · intro hno
          rcases hno with hne | hclosed
          · exact absurd (hsame.trans h.id) hne
          · rw [hopen₀] at hclosed
            cases hclosed
        · rw [show session.closed = true from hclosed] at hopen
          cases hopen
        · show Applies (lastInput (session.dispatched ++ [_])) _
          rw [lastInput_concat_playerInput session.dispatched hinput]
          exact applies_withInput input before
      · rw [if_neg hsame]
        exact ⟨old, hold, hkey, hsession, hother, fun hid => absurd (hid.trans h.id.symm) hsame⟩

/-- **A session that steers keeps the sessions lively**: if it closes, its player has left. -/
theorem Lively.steering {channels channels' : Channels} {n g : ℕ} {server server' : ServerEnd}
    (h : Lively s₀ channels) (hserver : channels.sessionAt n g = some server)
    (hsteering : Steering s₀ server.session server'.session s)
    (hat : ∀ n' g', channels'.sessionAt n' g' =
      if n' = n ∧ g' = g then some server' else channels.sessionAt n' g') :
    Lively s channels' := by
  have hpersists : Persists s₀ s channels channels' := by
    constructor
    · intro seat hseat
      obtain ⟨old, hold, hsteered⟩ := hsteering.seats seat hseat
      exact ⟨old, hold, hsteered.key, hsteered.sameSession⟩
    · intro n' g'
      rw [hat]
      split
      · next hsame =>
          rw [hsame.1, hsame.2, hserver]
          refine .changed hsteering.id ?_
          intro hopen
          obtain ⟨hopen₀, hsocket⟩ := hsteering.opened hopen
          exact ⟨hopen₀, hsocket.trans (h.sockets n g server hserver hopen₀).symm⟩
      · exact .same
  -- the session that steers is the one of its connection
  have hself : ∀ session, Live channels session → session.client = n ∧ session.generation = g →
      session.id = server.session.id ∧ server.session.closed = false := by
    rintro session ⟨found, hfound, hid, hopen⟩ ⟨rfl, rfl⟩
    rw [hserver] at hfound
    cases hfound
    exact ⟨hid.symm, hopen⟩
  refine h.persists hpersists hsteering.entries (fun hstopped => hsteering.stopped.trans hstopped)
    ?_ ?_
  · intro _ session hlive entry hentry hid
    refine hsteering.kept entry hentry ?_
    obtain ⟨found, hfound, hid', hopen⟩ := hlive
    rw [hat] at hfound
    split at hfound
    · cases hfound
      exact Or.inl (hopen.trans (hsteering.opened hopen).1.symm)
    · next hother =>
        have hbefore : Live channels session := ⟨found, hfound, hid', hopen⟩
        by_cases hclosed : server.session.closed = true
        · refine Or.inl ?_
          by_contra hne
          rw [hclosed] at hne
          exact absurd (hsteering.opened (by simpa using hne)).1 (by simp [hclosed])
        · -- two live sessions have different ids
          refine Or.inr fun hsame => hother ?_
          have hmover : Live channels ⟨n, g, server.session.id⟩ :=
            ⟨server, hserver, rfl, by simpa using hclosed⟩
          rw [h.unique session _ hbefore hmover (hid.symm.trans hsame)]
          exact ⟨rfl, rfl⟩
  · intro seat hseat session hid hlive
    obtain ⟨found, hfound, hid', hopen⟩ := hlive
    by_cases hsame : session.client = n ∧ session.generation = g
    · obtain ⟨hidSelf, hopenSelf⟩ := hself session ⟨found, hfound, hid', hopen⟩ hsame
      refine ⟨server', by rw [hat, if_pos hsame], ?_, ?_⟩
      · rw [hsteering.id, hidSelf]
      · obtain ⟨old, -, hsteered⟩ := hsteering.seats seat hseat
        by_contra hclosed
        have hclosed₀ := (hsteered.own (hid.symm.trans hidSelf)).1 (by simpa using hclosed)
        rw [hopenSelf] at hclosed₀
        cases hclosed₀
    · exact ⟨found, by rw [hat, if_neg hsame, hfound], hid', hopen⟩

end Steering

end NetworkArena.System
