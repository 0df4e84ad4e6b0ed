/-
# NetworkArena.Server.Independence -- players do not influence each other

Two runs of a room from one state, in which everything is the same but the inputs of one player. Up
to the first collision the other player does not notice: its state, the phase of the game, both
timers, the roles, the winner and the scores are the same in both runs after every step.

The argument is the usual one for two runs. What the other player sees (`SameFor`) is not changed by
an input of the first, and an operation that both runs share takes equal views to equal views, as
long as it detects no collision; the two lists of operations are walked together (`Aligned`).
-/
import NetworkArena.Server.SpeedLimit

namespace NetworkArena.Server

open NetworkArena.Shared

variable {K ρ ω : Type} [Field K] [LinearOrder K]

/-! ## Two runs -/

/-- Whether an operation is an input of a given player. -/
def inputOf (sessionId : SessionId) : RoomEvent K ρ ω → Bool
  | .applyPlayerInput id _ => decide (id = sessionId)
  | _ => false

/-- Operations, without the inputs of a given player. -/
def withoutInputsOf (sessionId : SessionId) (events : List (RoomEvent K ρ ω)) :
    List (RoomEvent K ρ ω) :=
  events.filter fun event => !inputOf sessionId event

/-- What the player of a session can see of a room: its own state and the state of the game. -/
structure SameFor (sessionId : SessionId) (r r' : Room K ρ) : Prop where
  player : r'.stateOf sessionId = r.stateOf sessionId
  gameState : r'.gameState = r.gameState
  gameTimer : r'.gameRemainingSeconds = r.gameRemainingSeconds
  switchTimer : r'.attackRoleSwitchRemainingSeconds = r.attackRoleSwitchRemainingSeconds
  attackingSide : r'.attackingSide = r.attackingSide
  winningSide : r'.winningSide = r.winningSide
  scores : r'.sideScores = r.sideScores

/-- Whether an operation is a tick of a running game that records a collision. -/
def Room.detects [HasSqrt K] (r : Room K ρ) : RoomEvent K ρ ω → Bool
  | .tick deltaSeconds => decide (0 < deltaSeconds) && r.gameState == .playing &&
      !(Room.findPlayerCollisions (r.simulationDelta deltaSeconds) r.players).isEmpty
  | _ => false

/-- Operations in which no collision is detected. -/
def NoneDetected [IsStrictOrderedRing K] [FloorRing K] [HasSqrt K] [SessionObject ρ]
    (sessions : Room.Sessions ρ ω) : Room K ρ × ω → List (RoomEvent K ρ ω) → Prop
  | _, [] => True
  | t, event :: events =>
    t.1.detects event = false ∧ NoneDetected sessions (Room.step sessions t event) events

/-- Two lists of operations that differ in the inputs of one player only. -/
inductive Aligned (sessionId : SessionId) :
    List (RoomEvent K ρ ω) → List (RoomEvent K ρ ω) → Prop where
  | nil : Aligned sessionId [] []
  | left (input : PlayerInputPayload) {events events' : List (RoomEvent K ρ ω)} :
      Aligned sessionId events events' →
        Aligned sessionId (.applyPlayerInput sessionId input :: events) events'
  | right (input : PlayerInputPayload) {events events' : List (RoomEvent K ρ ω)} :
      Aligned sessionId events events' →
        Aligned sessionId events (.applyPlayerInput sessionId input :: events')
  | both (event : RoomEvent K ρ ω) {events events' : List (RoomEvent K ρ ω)} :
      Aligned sessionId events events' → Aligned sessionId (event :: events) (event :: events')

omit [Field K] [LinearOrder K] in
theorem eq_of_inputOf {sessionId : SessionId} {event : RoomEvent K ρ ω}
    (h : inputOf sessionId event = true) : ∃ input, event = .applyPlayerInput sessionId input := by
  cases event with
  | applyPlayerInput id input =>
      obtain rfl : id = sessionId := of_decide_eq_true h
      exact ⟨input, rfl⟩
  | _ => cases h

omit [Field K] [LinearOrder K] in
/-- Lists with the same other operations can be walked together. -/
theorem aligned_of_withoutInputsOf {sessionId : SessionId} {events events' : List (RoomEvent K ρ ω)}
    (h : withoutInputsOf sessionId events = withoutInputsOf sessionId events') :
    Aligned sessionId events events' := by
  induction events generalizing events' with
  | nil =>
      induction events' with
      | nil => exact .nil
      | cons event' events' ih' =>
          cases hinput : inputOf sessionId event' with
          | true =>
              obtain ⟨input, rfl⟩ := eq_of_inputOf hinput
              apply Aligned.right
              apply ih'
              rw [h, withoutInputsOf, List.filter_cons_of_neg (by simp [hinput])]
              rfl
          | false =>
              rw [withoutInputsOf, withoutInputsOf, List.filter_cons_of_pos (by simp [hinput])] at h
              cases h
  | cons event events ih =>
      cases hinput : inputOf sessionId event with
      | true =>
          obtain ⟨input, rfl⟩ := eq_of_inputOf hinput
          apply Aligned.left
          apply ih
          rw [← h, withoutInputsOf, withoutInputsOf, List.filter_cons_of_neg (by simp [hinput])]
      | false =>
          -- the operation is shared: it comes next in the other list, after some inputs
          have hhead : withoutInputsOf sessionId (event :: events) =
              event :: withoutInputsOf sessionId events := by
            rw [withoutInputsOf, List.filter_cons_of_pos (by simp [hinput])]
            rfl
          rw [hhead] at h
          induction events' with
          | nil => cases h
          | cons event' events' ih' =>
              cases hinput' : inputOf sessionId event' with
              | true =>
                  obtain ⟨input, rfl⟩ := eq_of_inputOf hinput'
                  apply Aligned.right
                  apply ih'
                  rw [h, withoutInputsOf, List.filter_cons_of_neg (by simp [hinput'])]
                  rfl
              | false =>
                  rw [withoutInputsOf, withoutInputsOf,
                    List.filter_cons_of_pos (by simp [hinput'])] at h
                  injection h with hevent hevents
                  rw [hevent]
                  exact .both event' (ih hevents)

/-! ## What the other player sees -/

section Views

variable {sessionId : SessionId} {r r' r'' : Room K ρ}

omit [Field K] [LinearOrder K] in
theorem SameFor.refl (sessionId : SessionId) (r : Room K ρ) : SameFor sessionId r r :=
  ⟨rfl, rfl, rfl, rfl, rfl, rfl, rfl⟩

omit [Field K] [LinearOrder K] in
theorem SameFor.symm (h : SameFor sessionId r r') : SameFor sessionId r' r :=
  ⟨h.player.symm, h.gameState.symm, h.gameTimer.symm, h.switchTimer.symm, h.attackingSide.symm,
    h.winningSide.symm, h.scores.symm⟩

omit [Field K] [LinearOrder K] in
theorem SameFor.trans (h : SameFor sessionId r r') (h' : SameFor sessionId r' r'') :
    SameFor sessionId r r'' :=
  ⟨h'.player.trans h.player, h'.gameState.trans h.gameState, h'.gameTimer.trans h.gameTimer,
    h'.switchTimer.trans h.switchTimer, h'.attackingSide.trans h.attackingSide,
    h'.winningSide.trans h.winningSide, h'.scores.trans h.scores⟩

omit [Field K] [LinearOrder K] in
/-- Changing one player changes no other. -/
theorem stateOf_updatePlayer (r : Room K ρ) (id sessionId : SessionId)
    (f : PlayerState K → PlayerState K) :
    (r.updatePlayer id f).stateOf sessionId =
      (r.stateOf sessionId).map fun state => if id = sessionId then f state else state :=
  Room.stateOf_change (updatePlayer_players r id f)

variable [HasSqrt K]

/-- **An input of one player** changes nothing for another. -/
theorem sameFor_input (r : Room K ρ) {id : SessionId} (hother : id ≠ sessionId)
    (input : PlayerInputPayload) : SameFor sessionId r (r.applyPlayerInput id input).2 := by
  rw [r.applyPlayerInput_eq]
  refine ⟨?_, rfl, rfl, rfl, rfl, rfl, rfl⟩
  rw [stateOf_updatePlayer]
  simp only [if_neg hother]
  rw [Option.map_id']

/-- An input that comes in both runs changes its player by what its state is. -/
theorem SameFor.applyPlayerInput (h : SameFor sessionId r r') (id : SessionId)
    (input : PlayerInputPayload) :
    SameFor sessionId (r.applyPlayerInput id input).2 (r'.applyPlayerInput id input).2 := by
  rw [r.applyPlayerInput_eq, r'.applyPlayerInput_eq]
  refine ⟨?_, h.gameState, h.gameTimer, h.switchTimer, h.attackingSide, h.winningSide, h.scores⟩
  rw [stateOf_updatePlayer, stateOf_updatePlayer, h.player, h.gameState]

omit [Field K] [LinearOrder K] [HasSqrt K] in
theorem SameFor.forEachPlayer (h : SameFor sessionId r r') (f : PlayerState K → PlayerState K) :
    SameFor sessionId (r.forEachPlayer f) (r'.forEachPlayer f) := by
  refine ⟨?_, h.gameState, h.gameTimer, h.switchTimer, h.attackingSide, h.winningSide, h.scores⟩
  have hchange : ∀ r₀ : Room K ρ,
      (r₀.forEachPlayer f).stateOf sessionId = (r₀.stateOf sessionId).map f := fun r₀ =>
    Room.stateOf_change (f := fun _ => f) rfl
  rw [hchange, hchange, h.player]

variable [IsStrictOrderedRing K] [FloorRing K]

/-- **A tick that detects no collision** does to a player, and to the game, what depends on them
alone. -/
theorem SameFor.tick (h : SameFor sessionId r r') {deltaSeconds : K}
    (hquiet : r.detects (.tick deltaSeconds : RoomEvent K ρ ω) = false)
    (hquiet' : r'.detects (.tick deltaSeconds : RoomEvent K ρ ω) = false) :
    SameFor sessionId (r.tick deltaSeconds) (r'.tick deltaSeconds) := by
  by_cases hidle : deltaSeconds ≤ 0 ∨ r.gameState ≠ .playing
  · rw [Room.tick_idle hidle, Room.tick_idle (h.gameState ▸ hidle)]
    exact h
  simp only [not_or, not_le, ne_eq, not_not] at hidle
  obtain ⟨hdelta, hplaying⟩ := hidle
  have hplaying' : r'.gameState = .playing := h.gameState.trans hplaying
  have hsim : r'.simulationDelta deltaSeconds = r.simulationDelta deltaSeconds := by
    unfold Room.simulationDelta
    rw [h.gameTimer]
  have hsimulate : ∀ r₀ : Room K ρ, r₀.gameState = .playing →
      r₀.detects (.tick deltaSeconds : RoomEvent K ρ ω) = false → r₀.simulate deltaSeconds =
        r₀.forEachPlayer (Room.tickPlayer (r₀.simulationDelta deltaSeconds)) := by
    intro r₀ hrunning hnone
    have hlist : Room.findPlayerCollisions (r₀.simulationDelta deltaSeconds) r₀.players = [] := by
      simpa [Room.detects, hdelta, hrunning] using hnone
    unfold Room.simulate
    rw [hlist]
    rfl
  have hmoved : SameFor sessionId (r.simulate deltaSeconds) (r'.simulate deltaSeconds) := by
    rw [hsimulate r hplaying hquiet, hsimulate r' hplaying' hquiet', hsim]
    exact h.forEachPlayer _
  rw [Room.tick_playing hdelta hplaying, Room.tick_playing hdelta hplaying', hsim, h.gameTimer]
  -- the timers go on from equal values
  generalize max 0 (r.gameRemainingSeconds - r.simulationDelta deltaSeconds) = remaining
  generalize r.simulationDelta deltaSeconds = seconds
  split
  · have hended := hmoved.forEachPlayer Room.endDash
    refine ⟨hended.player, rfl, rfl, rfl, rfl, ?_, hmoved.scores⟩
    exact congrArg SideScores.winner hmoved.scores
  · refine ⟨hmoved.player, hmoved.gameState, rfl, ?_, ?_, hmoved.winningSide, hmoved.scores⟩
    · simp only [Room.updateAttackDefenseState, hmoved.attackingSide, hmoved.switchTimer]
    · simp only [Room.updateAttackDefenseState, hmoved.attackingSide, hmoved.switchTimer]

end Views

/-! ## Whole runs -/

section Runs

variable [IsStrictOrderedRing K] [FloorRing K] [HasSqrt K] [SessionObject ρ]
  {sessions : Room.Sessions ρ ω} {t t' : Room K ρ × ω} {events events' : List (RoomEvent K ρ ω)}

theorem BothStay.start (h : BothStay sessions t events) : t.1.players.length = 2 :=
  h [] List.nil_prefix

theorem BothStay.tail {event : RoomEvent K ρ ω} (h : BothStay sessions t (event :: events)) :
    BothStay sessions (Room.step sessions t event) events := fun part hpart =>
  h (event :: part) (List.cons_prefix_cons.mpr ⟨rfl, hpart⟩)

/-- **An operation that both runs share** takes equal views to equal views. -/
theorem SameFor.step {sessionId : SessionId} (h : SameFor sessionId t.1 t'.1)
    (hconsistent : t.1.Consistent) (hconsistent' : t'.1.Consistent) (event : RoomEvent K ρ ω)
    (hstay : BothStay sessions t [event]) (hstay' : BothStay sessions t' [event])
    (hquiet : t.1.detects event = false) (hquiet' : t'.1.detects event = false) :
    SameFor sessionId (Room.step sessions t event).1 (Room.step sessions t' event).1 := by
  cases event with
  | tick deltaSeconds => exact h.tick hquiet hquiet'
  | applyPlayerInput id input => exact h.applyPlayerInput id input
  | enter session | leave id | broadcast type payload | sessions w =>
      have hsame : ∀ {t₀ : Room K ρ × ω} {event₀ : RoomEvent K ρ ω}, t₀.1.Consistent →
          BothStay sessions t₀ [event₀] → (∀ deltaSeconds, event₀ ≠ .tick deltaSeconds) →
          (∀ id input, event₀ ≠ .applyPlayerInput id input) →
            (Room.step sessions t₀ event₀).1 = t₀.1 := by
        intro t₀ event₀ h₀ hstay₀ htick hinput
        rcases h₀.step_staying hstay₀.start sessions event₀ hstay₀.tail.start with
          ⟨deltaSeconds, heq, -⟩ | ⟨-, ⟨id, input, heq, -⟩ | hsame⟩
        · exact absurd heq (htick deltaSeconds)
        · exact absurd heq (hinput id input)
        · exact hsame
      rw [hsame hconsistent hstay nofun nofun, hsame hconsistent' hstay' nofun nofun]
      exact h

/-- **Runs that differ in the inputs of one player** look the same to any other. -/
theorem Aligned.sameFor {first sessionId : SessionId} (haligned : Aligned first events events')
    (hother : first ≠ sessionId) (h : SameFor sessionId t.1 t'.1) (hconsistent : t.1.Consistent)
    (hconsistent' : t'.1.Consistent) (hstay : BothStay sessions t events)
    (hstay' : BothStay sessions t' events') (hquiet : NoneDetected sessions t events)
    (hquiet' : NoneDetected sessions t' events') :
    SameFor sessionId (Room.run sessions t events).1 (Room.run sessions t' events').1 := by
  induction haligned generalizing t t' with
  | nil => exact h
  | left input _ ih =>
      exact ih ((sameFor_input t.1 hother input).symm.trans h) (hconsistent.step sessions _)
        hconsistent' hstay.tail hstay' hquiet.2 hquiet'
  | right input _ ih =>
      exact ih (h.trans (sameFor_input t'.1 hother input)) hconsistent
        (hconsistent'.step sessions _) hstay hstay'.tail hquiet hquiet'.2
  | both event _ ih =>
      have hone : ∀ {t₀ : Room K ρ × ω} {rest : List (RoomEvent K ρ ω)},
          BothStay sessions t₀ (event :: rest) → BothStay sessions t₀ [event] :=
        fun hall part hpart => hall part (hpart.trans (List.cons_prefix_cons.mpr
          ⟨rfl, List.nil_prefix⟩))
      exact ih (h.step hconsistent hconsistent' event (hone hstay) (hone hstay') hquiet.1 hquiet'.1)
        (hconsistent.step sessions event) (hconsistent'.step sessions event) hstay.tail hstay'.tail
        hquiet.2 hquiet'.2

/-- **Players do not influence each other**, except by colliding. After every step of one run there
is a step of the other at which the same has happened but for the inputs of the first player; and at
such a pair of steps, before any collision, the second player sees the same. -/
theorem players_independent (id : RoomId) (w : ω) (before : List (RoomEvent K ρ ω))
    (hstart : t = Room.run sessions (Room.create id, w) before) {first second : SessionId}
    (hother : first ≠ second)
    (hsame : withoutInputsOf first events = withoutInputsOf first events')
    (hstay : BothStay sessions t events) (hstay' : BothStay sessions t events') :
    (∀ part, part <+: events → ∃ part', part' <+: events' ∧
      withoutInputsOf first part = withoutInputsOf first part') ∧
    ∀ part part', part <+: events → part' <+: events' →
      withoutInputsOf first part = withoutInputsOf first part' →
      NoneDetected sessions t part → NoneDetected sessions t part' →
        SameFor second (Room.run sessions t part).1 (Room.run sessions t part').1 := by
  have hconsistent : t.1.Consistent := by
    rw [hstart]
    exact (Room.consistent_create id).run sessions before
  constructor
  · intro part hpart
    have hshared : withoutInputsOf first part <+: withoutInputsOf first events' :=
      hsame ▸ hpart.filter _
    exact List.prefix_filter_iff.mp hshared
  · intro part part' hpart hpart' haligned hquiet hquiet'
    exact (aligned_of_withoutInputsOf haligned).sameFor hother (.refl second t.1) hconsistent
      hconsistent (fun some hsome => hstay some (hsome.trans hpart))
      (fun some hsome => hstay' some (hsome.trans hpart')) hquiet hquiet'

end Runs

/-- The first player runs away, and the second one looks up. -/
def runAway : List (RoomEvent ℚ SessionId Unit) :=
  [.applyPlayerInput 1 ⟨-1000, 0, 0, true⟩, .applyPlayerInput 2 ⟨0, 1000, 0, false⟩, .tick (1 / 4)]

/-- The first player stays where it is. -/
def stayThere : List (RoomEvent ℚ SessionId Unit) :=
  [.applyPlayerInput 2 ⟨0, 1000, 0, false⟩, .tick (1 / 4)]

theorem players_independent_run_away :
    (Room.run liveSessions twoEntered runAway).1.stateOf 1 ≠
      (Room.run liveSessions twoEntered stayThere).1.stateOf 1 ∧
    SameFor 2 (Room.run liveSessions twoEntered runAway).1
      (Room.run liveSessions twoEntered stayThere).1 := by
  refine ⟨by decide +kernel, ?_⟩
  have hstays : ∀ events ∈ [runAway, stayThere], BothStay liveSessions twoEntered events := by
    intro events hevents part hpart
    have hparts : ∀ events ∈ [runAway, stayThere], ∀ part ∈ events.inits,
        (Room.run liveSessions twoEntered part).1.players.length = 2 := by decide +kernel
    exact hparts events hevents part ((List.mem_inits part events).mpr hpart)
  have hsame : withoutInputsOf 1 runAway = withoutInputsOf 1 stayThere := rfl
  have hquiet : NoneDetected liveSessions twoEntered runAway :=
    ⟨rfl, rfl, by decide +kernel, trivial⟩
  have hquiet' : NoneDetected liveSessions twoEntered stayThere := ⟨rfl, by decide +kernel, trivial⟩
  exact (players_independent 1 () [.enter (some 1), .enter (some 2)] rfl (by decide) hsame
    (hstays _ (by simp)) (hstays _ (by simp))).2 runAway stayThere (List.prefix_refl _)
    (List.prefix_refl _) hsame hquiet hquiet'

end NetworkArena.Server
