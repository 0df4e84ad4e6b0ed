/-
# NetworkArena.Server.SpeedLimit -- how far a player gets

A walking player covers five units a second and a dashing one ten more, for 0.16 seconds a dash. A
client may send as many inputs as it likes; what it cannot do is to start a dash while the cooldown
of the last one runs. So after `T` seconds of a game there have been at most `⌊T⌋ + 1` dashes, and
the way a player has gone is bounded by what it could walk and what its dashes add. Both are kept as
one account (`Room.step_account`): an operation adds to the way at most what it adds to the time and
takes off the dash that is left, and a new dash needs the cooldown to have run down.
-/
import NetworkArena.Server.Overlap
import NetworkArena.Server.PlayerMotion

namespace NetworkArena.Server

open NetworkArena.Foundation
open NetworkArena.Shared

variable {K ρ ω : Type} [Field K] [LinearOrder K]

/-! ## Distances -/

section Distance

variable [IsStrictOrderedRing K] [HasSqrt K] [LawfulSqrt K] {a : K} {first second : K × K}

/-- A distance is what bounds the vector between two positions. -/
theorem within_distance (first second : K × K) :
    Within (distance first second) (second - first) :=
  ⟨distance_nonneg first second, (distance_mul_self first second).ge⟩

theorem distance_le (h : Within a (second - first)) : distance first second ≤ a := by
  apply (le_abs_self _).trans
  apply abs_le_of_sq_le_sq _ h.1
  rw [sq, sq, distance_mul_self]
  exact h.2

end Distance

/-! ## Totals along a run -/

section Totals

variable [IsStrictOrderedRing K] [FloorRing K] [HasSqrt K] [SessionObject ρ]
  {sessions : Room.Sessions ρ ω} {t : Room K ρ × ω} {M : Type} [AddMonoid M]

/-- What the operations of a run add up to. -/
def tally (f : Room K ρ × ω → RoomEvent K ρ ω → M) (sessions : Room.Sessions ρ ω) :
    Room K ρ × ω → List (RoomEvent K ρ ω) → M
  | _, [] => 0
  | t, event :: events => f t event + tally f sessions (Room.step sessions t event) events

theorem tally_concat (f : Room K ρ × ω → RoomEvent K ρ ω → M) (t : Room K ρ × ω)
    (events : List (RoomEvent K ρ ω)) (event : RoomEvent K ρ ω) :
    tally f sessions t (events ++ [event]) =
      tally f sessions t events + f (Room.run sessions t events) event := by
  induction events generalizing t with
  | nil => simp [tally, Room.run]
  | cons first events ih =>
      have hrun : Room.run sessions t (first :: events) =
          Room.run sessions (Room.step sessions t first) events := rfl
      rw [List.cons_append, tally, ih, tally, hrun, add_assoc]

end Totals

/-! ## Time, way and dashes -/

section Accounts

variable [HasSqrt K]

/-- The time of a game that an operation simulates. -/
def simulatedSeconds (t : Room K ρ × ω) : RoomEvent K ρ ω → K
  | .tick deltaSeconds =>
    if 0 < deltaSeconds ∧ t.1.gameState = .playing then t.1.simulationDelta deltaSeconds else 0
  | _ => 0

/-- The state of the player of a session. -/
def Room.stateOf (r : Room K ρ) (sessionId : SessionId) : Option (PlayerState K) :=
  (r.findPlayer sessionId).map (·.state)

/-- Whether an input passes the checks for a dash. -/
def inputStartsDash (gameState : GamePlayState) (input : PlayerInputPayload)
    (state : PlayerState K) : Bool :=
  gameState == .playing && (input.dash && !state.dashInputActive) &&
    !decide (state.dashCooldownRemainingSeconds > 0) &&
    !decide ((normalizePlayerInput input : NormalizedPlayerInput K).moveX = 0 ∧
      (normalizePlayerInput input : NormalizedPlayerInput K).moveY = 0)

variable [IsStrictOrderedRing K] [FloorRing K] [SessionObject ρ]

/-- Whether an operation starts a dash of the player of a session: it leaves more of the dash or of
the cooldown than there was. -/
def startsDash (sessions : Room.Sessions ρ ω) (sessionId : SessionId) (t : Room K ρ × ω)
    (event : RoomEvent K ρ ω) : Bool :=
  match t.1.stateOf sessionId, (Room.step sessions t event).1.stateOf sessionId with
  | some before, some after =>
    decide (before.dashRemainingSeconds < after.dashRemainingSeconds) ||
      decide (before.dashCooldownRemainingSeconds < after.dashCooldownRemainingSeconds)
  | _, _ => false

/-- The number of dashes an operation starts. -/
def dashCount (sessions : Room.Sessions ρ ω) (sessionId : SessionId) (t : Room K ρ × ω)
    (event : RoomEvent K ρ ω) : ℕ :=
  if startsDash sessions sessionId t event = true then 1 else 0

/-- How far an operation takes the stored position of a player, unless it respawns the player. -/
def wayOf (sessions : Room.Sessions ρ ω) (sessionId : SessionId) (t : Room K ρ × ω)
    (event : RoomEvent K ρ ω) : K :=
  if t.1.collides event = true then 0
  else
    match t.1.stateOf sessionId, (Room.step sessions t event).1.stateOf sessionId with
    | some before, some after =>
      distance (before.positionX, before.positionY) (after.positionX, after.positionY)
    | _, _ => 0

end Accounts

/-! ## A player on its way -/

section Way

variable [IsStrictOrderedRing K] {state : PlayerState K} {seconds : K}

/-- **Walking and dashing**: how far a player gets in the first seconds of a tick. -/
theorem path_within (h : state.Paced) (hseconds : 0 ≤ seconds) :
    Within (5 * seconds + 10 * dashTime state seconds)
      (path state seconds - (state.positionX, state.positionY)) := by
  have hdash : 0 ≤ dashTime state seconds := le_min hseconds (le_max_right _ _)
  have hwalk : 0 ≤ seconds - dashTime state seconds := sub_nonneg.mpr (min_le_left _ _)
  have hdashing := (h.dashDirection.scale (show (0 : K) ≤ playerDashSpeed by
    norm_num [playerDashSpeed])).scale hdash
  have hwalking := (h.direction.scale (show (0 : K) ≤ playerMoveSpeed by
    norm_num [playerMoveSpeed])).scale hwalk
  have hsum := hdashing.add hwalking
  have hpath : path state seconds - (state.positionX, state.positionY) =
      (state.dashDirectionX * playerDashSpeed * dashTime state seconds,
        state.dashDirectionY * playerDashSpeed * dashTime state seconds) +
      (state.directionX * playerMoveSpeed * (seconds - dashTime state seconds),
        state.directionY * playerMoveSpeed * (seconds - dashTime state seconds)) := by
    rw [path_eq hseconds]
    ext <;> simp <;> ring
  rw [hpath]
  apply hsum.mono
  rw [playerDashSpeed, playerMoveSpeed]
  linarith

/-- Limiting a coordinate to a range brings it no further from a point of the range. -/
theorem abs_clamp_sub_le {value low high start : K} (hlow : low ≤ start) (hhigh : start ≤ high) :
    |clamp value low high - start| ≤ |value - start| := by
  unfold clamp
  split
  · next hbelow =>
      rw [abs_of_nonpos (by linarith), abs_of_nonpos (by linarith)]
      linarith
  · split
    · next habove =>
        rw [abs_of_nonneg (by linarith), abs_of_nonneg (by linarith)]
        linarith
    · exact le_refl _

/-- **A tick takes a player no further than its way**, walls included. -/
theorem tickPlayer_within (h : state.Paced) (harena : state.InArena) (hseconds : 0 ≤ seconds) :
    Within (5 * seconds + 10 * dashTime state seconds)
      (((Room.tickPlayer seconds state).positionX, (Room.tickPlayer seconds state).positionY) -
        (state.positionX, state.positionY)) := by
  refine (path_within h hseconds).of_abs_le ?_ ?_
  · apply abs_clamp_sub_le
    · rw [arenaMinX, playerBoundaryMargin]
      linarith [harena.minX]
    · rw [arenaMaxX, playerBoundaryMargin]
      linarith [harena.maxX]
  · apply abs_clamp_sub_le
    · rw [arenaMinY, playerBoundaryMargin]
      linarith [harena.minY]
    · rw [arenaMaxY, playerBoundaryMargin]
      linarith [harena.maxY]

/-- The dash that is left after a tick. -/
theorem tickPlayer_dash (h : state.Paced) (hseconds : 0 ≤ seconds) :
    (Room.tickPlayer seconds state).dashRemainingSeconds =
      state.dashRemainingSeconds - dashTime state seconds := by
  rw [(tickPlayer_clocks seconds state).1, dashTime, max_eq_left h.dashing.1]
  split
  · exact max_eq_right (sub_nonneg.mpr (min_le_right _ _))
  · next hnone =>
      have hzero : state.dashRemainingSeconds = 0 := le_antisymm (not_lt.mp hnone) h.dashing.1
      rw [hzero, min_eq_right hseconds, sub_zero]

end Way

/-! ## The account of one operation -/

section StateOf

variable {r : Room K ρ} {sessionId : SessionId} {state : PlayerState K}

omit [Field K] [LinearOrder K] in
theorem Room.stateOf_mem (h : r.stateOf sessionId = some state) :
    ∃ entry ∈ r.players, entry.1 = sessionId ∧ entry.2.state = state := by
  unfold Room.stateOf Room.findPlayer at h
  rw [Option.map_map, Option.map_eq_some_iff] at h
  obtain ⟨entry, hfind, rfl⟩ := h
  exact ⟨entry, List.mem_of_find?_eq_some hfind, by simpa using List.find?_some hfind, rfl⟩

omit [Field K] [LinearOrder K] in
/-- The players are told apart by their session ids. -/
theorem Room.stateOf_entry (hkeys : (r.players.map (·.1)).Nodup)
    {entry : SessionId × Player K ρ} (hentry : entry ∈ r.players) :
    r.stateOf entry.1 = some entry.2.state := by
  have hfound : (r.players.find? fun other => other.1 = entry.1).isSome = true :=
    List.find?_isSome.mpr ⟨entry, hentry, by simp⟩
  obtain ⟨other, hother⟩ := Option.isSome_iff_exists.mp hfound
  have hsame : other = entry := List.inj_on_of_nodup_map hkeys
    (List.mem_of_find?_eq_some hother) hentry (by simpa using List.find?_some hother)
  unfold Room.stateOf Room.findPlayer
  rw [hother, hsame]
  rfl

omit [Field K] [LinearOrder K] in
theorem Room.stateOf_change {r' : Room K ρ} {f : SessionId → PlayerState K → PlayerState K}
    (h : r'.players = changePlayers f r.players) :
    r'.stateOf sessionId = (r.stateOf sessionId).map (f sessionId) := by
  unfold Room.stateOf Room.findPlayer
  rw [h, changePlayers, List.find?_map]
  have hkey : ((fun entry : SessionId × Player K ρ => decide (entry.1 = sessionId)) ∘
      fun entry : SessionId × Player K ρ =>
        (entry.1, { entry.2 with state := f entry.1 entry.2.state })) =
      fun entry => decide (entry.1 = sessionId) := rfl
  rw [hkey]
  cases hfind : r.players.find? fun entry => decide (entry.1 = sessionId) with
  | none => rfl
  | some entry =>
      have hid : entry.1 = sessionId := by simpa using List.find?_some hfind
      simp [hid]

end StateOf

/-- What an operation may add to the way and to the dashes of a player, with the dash and the
cooldown that are left. -/
structure Account (seconds way : K) (dashes : ℕ) (state state' : PlayerState K) : Prop where
  way : way + 10 * state'.dashRemainingSeconds ≤
    5 * seconds + 10 * state.dashRemainingSeconds + 16 / 10 * (dashes : K)
  dashes : (dashes : K) + state.dashCooldownRemainingSeconds ≤
    seconds + state'.dashCooldownRemainingSeconds

section Step

omit [LinearOrder K] in
theorem resetPlayerPosition_cooldown (state : PlayerState K) :
    (Room.resetPlayerPosition state).dashCooldownRemainingSeconds =
      state.dashCooldownRemainingSeconds := by
  unfold Room.resetPlayerPosition
  split
  · rfl
  · split <;> rfl

variable [HasSqrt K] {state : PlayerState K}

/-- Whether an input starts a dash decides what it does to the clocks. -/
theorem applyInput_clocks (gameState : GamePlayState) (input : PlayerInputPayload)
    (state : PlayerState K) :
    (inputStartsDash gameState input state = true →
      state.dashCooldownRemainingSeconds ≤ 0 ∧
      (Room.applyInput gameState input state).dashRemainingSeconds = 16 / 100 ∧
      (Room.applyInput gameState input state).dashCooldownRemainingSeconds = 1) ∧
    (inputStartsDash gameState input state = false →
      (Room.applyInput gameState input state).dashRemainingSeconds = state.dashRemainingSeconds ∧
      (Room.applyInput gameState input state).dashCooldownRemainingSeconds =
        state.dashCooldownRemainingSeconds) ∧
    (Room.applyInput gameState input state).positionX = state.positionX ∧
    (Room.applyInput gameState input state).positionY = state.positionY ∧
    (Room.applyInput gameState input state).dashInputActive = input.dash := by
  unfold Room.applyInput inputStartsDash
  dsimp only
  split
  · next hidle => exact ⟨by simp [hidle], fun _ => ⟨rfl, rfl⟩, rfl, rfl, rfl⟩
  next hplaying =>
  split
  · next hrequest =>
      refine ⟨fun h => ?_, fun _ => ⟨rfl, rfl⟩, rfl, rfl, rfl⟩
      simp only [Bool.not_eq_true', Bool.and_eq_false_iff] at hrequest
      rcases hrequest with hno | hheld
      · simp [hno] at h
      · simp [hheld] at h
  next hrequest =>
  split
  · next hcooling => exact ⟨by simp [hcooling], fun _ => ⟨rfl, rfl⟩, rfl, rfl, rfl⟩
  next hcooled =>
  split
  · next hrest => exact ⟨by simp [hrest], fun _ => ⟨rfl, rfl⟩, rfl, rfl, rfl⟩
  next hmoving =>
  refine ⟨fun _ => ⟨not_lt.mp hcooled, rfl, rfl⟩, fun h => ?_, rfl, rfl, rfl⟩
  -- every check of the source has been passed
  have hpassed : (input.dash && !state.dashInputActive) = true := by simpa using hrequest
  rw [not_not.mp hplaying, beq_self_eq_true, hpassed, decide_eq_false hcooled,
    decide_eq_false hmoving] at h
  cases h

/-- A dash needs the button to go down. -/
theorem dash_of_inputStartsDash {gameState : GamePlayState} {input : PlayerInputPayload}
    (h : inputStartsDash gameState input state = true) :
    input.dash = true ∧ state.dashInputActive = false := by
  unfold inputStartsDash at h
  simp only [Bool.and_eq_true, Bool.not_eq_true'] at h
  exact h.1.1.2

variable [IsStrictOrderedRing K]

omit [HasSqrt K] in
/-- A dash can end early. -/
theorem Account.endDash {seconds way : K} {dashes : ℕ} {state' state'' : PlayerState K}
    (h : Account seconds way dashes state state') (hpaced : state'.Paced)
    (hdash : state''.dashRemainingSeconds = 0)
    (hcooldown : state''.dashCooldownRemainingSeconds = state'.dashCooldownRemainingSeconds) :
    Account seconds way dashes state state'' := by
  have hdashing := hpaced.dashing.1
  constructor
  · rw [hdash]
    linarith [h.way]
  · rw [hcooldown]
    exact h.dashes

omit [HasSqrt K] in
/-- The way may be less. -/
theorem Account.mono {seconds way way' : K} {dashes : ℕ} {state' : PlayerState K}
    (h : Account seconds way dashes state state') (hway : way' ≤ way) :
    Account seconds way' dashes state state' :=
  ⟨by linarith [h.way], h.dashes⟩

/-- **The account of an input.** -/
theorem applyInput_account (h : state.Paced) (gameState : GamePlayState)
    (input : PlayerInputPayload) :
    Account 0 0 (if inputStartsDash gameState input state = true then 1 else 0) state
      (Room.applyInput gameState input state) := by
  obtain ⟨hstarts, hquiet, -⟩ := applyInput_clocks gameState input state
  cases hdash : inputStartsDash gameState input state with
  | true =>
      obtain ⟨hcooled, hremaining, hcooldown⟩ := hstarts hdash
      have hdashing := h.dashing.1
      -- the last dash is over, as its cooldown is
      constructor
      · rw [hremaining, if_pos rfl]
        norm_num
        exact hdashing
      · rw [hcooldown, if_pos rfl]
        push_cast
        linarith
  | false =>
      obtain ⟨hremaining, hcooldown⟩ := hquiet hdash
      constructor
      · rw [hremaining]
        simp
      · rw [hcooldown]
        simp

variable [LawfulSqrt K]

theorem distance_pos {first second : K × K} (h : 0 < distanceSquared first second) :
    0 < distance first second := by
  rw [← distance_mul_self] at h
  exact (distance_nonneg first second).lt_of_ne fun heq => by simp [← heq] at h

/-- A player that does not move. -/
theorem distance_self (position : K × K) : distance position position = 0 := by
  apply le_antisymm
  · apply distance_le
    rw [sub_self]
    exact within_zero (le_refl 0)
  · exact distance_nonneg _ _

/-- **The account of a tick**, for a player that is not respawned in it. -/
theorem tickPlayer_account {seconds : K} (h : state.Paced) (harena : state.InArena)
    (hseconds : 0 ≤ seconds) :
    Account seconds (distance (state.positionX, state.positionY)
      ((Room.tickPlayer seconds state).positionX, (Room.tickPlayer seconds state).positionY)) 0
      state (Room.tickPlayer seconds state) := by
  have hway := distance_le (tickPlayer_within h harena hseconds)
  constructor
  · rw [tickPlayer_dash h hseconds]
    push_cast
    linarith
  · rw [(tickPlayer_clocks seconds state).2.1]
    have hcooldown := le_max_right 0 (state.dashCooldownRemainingSeconds - seconds)
    push_cast
    linarith

/-- The account of a player in the tick of a game. When it is respawned, that is no part of its way;
when the game is over, its dash ends. -/
theorem Room.tickState_account (r : Room K ρ) {deltaSeconds way : K}
    (hsim : 0 < r.simulationDelta deltaSeconds) (hpaced : state.Paced) (harena : state.InArena)
    (hway : way ≤ distance (state.positionX, state.positionY)
      ((r.tickState deltaSeconds state).positionX, (r.tickState deltaSeconds state).positionY))
    (hrespawned : (r.tickCollision deltaSeconds).isSome = true → way = 0) :
    Account (r.simulationDelta deltaSeconds) way 0 state (r.tickState deltaSeconds state) := by
  have hmoved := tickPlayer_account hpaced harena hsim.le
  have hmovedPaced := tickPlayer_paced hsim hpaced
  unfold Room.tickState at hway ⊢
  cases hcollision : (r.tickCollision deltaSeconds).isSome with
  | true =>
      obtain ⟨hdash, -, -⟩ := resetPlayerPosition_dash (Room.endDash
        (Room.tickPlayer (r.simulationDelta deltaSeconds) state))
      have hcooldown : (respawn (Room.tickPlayer (r.simulationDelta deltaSeconds)
          state)).dashCooldownRemainingSeconds = (Room.tickPlayer
            (r.simulationDelta deltaSeconds) state).dashCooldownRemainingSeconds :=
        resetPlayerPosition_cooldown _
      have hreset := (hmoved.endDash hmovedPaced hdash hcooldown).mono
        ((hrespawned hcollision).trans_le (distance_nonneg _ _))
      dsimp only
      split
      · exact hreset.endDash (resetPlayerPosition_paced (endDash_paced hmovedPaced)) rfl rfl
      · exact hreset
  | false =>
      rw [hcollision] at hway
      simp only [Bool.false_eq_true, if_false] at hway ⊢
      split
      · next hover =>
          rw [if_pos hover] at hway
          have hended : Account (r.simulationDelta deltaSeconds) _ 0 state
              (Room.endDash (Room.tickPlayer (r.simulationDelta deltaSeconds) state)) :=
            hmoved.endDash hmovedPaced rfl rfl
          exact hended.mono hway
      · next hmore =>
          rw [if_neg hmore] at hway
          exact hmoved.mono hway

variable [FloorRing K] [SessionObject ρ] {sessions : Room.Sessions ρ ω} {t : Room K ρ × ω}
  {event : RoomEvent K ρ ω} {sessionId : SessionId}

omit [LawfulSqrt K] in
/-- The player of a session after an operation. -/
theorem Room.Consistent.stateOf_step (h : t.1.Consistent) (hboth : t.1.players.length = 2)
    (hstay : (Room.step sessions t event).1.players.length = 2) :
    (Room.step sessions t event).1.stateOf sessionId =
      (t.1.stateOf sessionId).map (t.1.playerStep event sessionId) :=
  Room.stateOf_change (h.players_step hboth sessions event hstay)

theorem wayOf_nonneg (sessions : Room.Sessions ρ ω) (sessionId : SessionId) (t : Room K ρ × ω)
    (event : RoomEvent K ρ ω) : 0 ≤ wayOf sessions sessionId t event := by
  unfold wayOf
  split
  · exact le_refl 0
  · split
    · exact distance_nonneg _ _
    · exact le_refl 0

/-- The way of an operation, for a player that is there. -/
theorem wayOf_le {state' : PlayerState K} (hstate : t.1.stateOf sessionId = some state)
    (hstate' : (Room.step sessions t event).1.stateOf sessionId = some state') :
    wayOf sessions sessionId t event ≤
      distance (state.positionX, state.positionY) (state'.positionX, state'.positionY) := by
  unfold wayOf
  split
  · exact distance_nonneg _ _
  · rw [hstate, hstate']

omit [LawfulSqrt K] [FloorRing K] [SessionObject ρ] in
/-- A tick adds to no clock. -/
theorem Room.tickState_clocks_le (r : Room K ρ) {deltaSeconds : K}
    (hsim : 0 ≤ r.simulationDelta deltaSeconds) (hpaced : state.Paced) :
    (r.tickState deltaSeconds state).dashRemainingSeconds ≤ state.dashRemainingSeconds ∧
      (r.tickState deltaSeconds state).dashCooldownRemainingSeconds ≤
        state.dashCooldownRemainingSeconds := by
  have hdash : (Room.tickPlayer (r.simulationDelta deltaSeconds) state).dashRemainingSeconds ≤
      state.dashRemainingSeconds := by
    rw [tickPlayer_dash hpaced hsim]
    exact sub_le_self _ (le_min hsim (le_max_right _ _))
  have hcooldown : (Room.tickPlayer (r.simulationDelta deltaSeconds)
      state).dashCooldownRemainingSeconds ≤ state.dashCooldownRemainingSeconds := by
    rw [(tickPlayer_clocks _ state).2.1]
    exact max_le hpaced.cooling.1 (sub_le_self _ hsim)
  have hrespawned := resetPlayerPosition_dash
    (Room.endDash (Room.tickPlayer (r.simulationDelta deltaSeconds) state))
  have hrespawnedCooldown := resetPlayerPosition_cooldown
    (Room.endDash (Room.tickPlayer (r.simulationDelta deltaSeconds) state))
  unfold Room.tickState
  dsimp only
  split
  · split
    · exact ⟨hpaced.dashing.1, hrespawnedCooldown.trans_le hcooldown⟩
    · exact ⟨hpaced.dashing.1, hcooldown⟩
  · split
    · exact ⟨hrespawned.1.trans_le hpaced.dashing.1, hrespawnedCooldown.trans_le hcooldown⟩
    · exact ⟨hdash, hcooldown⟩

omit [LawfulSqrt K] in
/-- **A dash starts** exactly when the player's input passes the checks. -/
theorem Room.Consistent.startsDash_iff (h : t.1.Consistent)
    (hpaced : t.1.Every PlayerState.Paced) (hboth : t.1.players.length = 2)
    (hstay : (Room.step sessions t event).1.players.length = 2)
    (hstate : t.1.stateOf sessionId = some state) :
    startsDash sessions sessionId t event = true ↔
      ∃ input, event = .applyPlayerInput sessionId input ∧
        inputStartsDash t.1.gameState input state = true := by
  obtain ⟨entry, hentry, -, rfl⟩ := Room.stateOf_mem hstate
  have hpaced := hpaced entry hentry
  have hafter : (Room.step sessions t event).1.stateOf sessionId =
      some (t.1.playerStep event sessionId entry.2.state) := by
    rw [h.stateOf_step hboth hstay, hstate]
    rfl
  unfold startsDash
  rw [hstate, hafter]
  simp only [Bool.or_eq_true, decide_eq_true_eq]
  have hkept : ∀ state', t.1.playerStep event sessionId entry.2.state = state' →
      state'.dashRemainingSeconds ≤ entry.2.state.dashRemainingSeconds →
      state'.dashCooldownRemainingSeconds ≤ entry.2.state.dashCooldownRemainingSeconds →
      (∀ input, event = .applyPlayerInput sessionId input →
        ¬ inputStartsDash t.1.gameState input entry.2.state = true) →
      ((entry.2.state.dashRemainingSeconds <
          (t.1.playerStep event sessionId entry.2.state).dashRemainingSeconds ∨
        entry.2.state.dashCooldownRemainingSeconds <
          (t.1.playerStep event sessionId entry.2.state).dashCooldownRemainingSeconds) ↔
      ∃ input, event = .applyPlayerInput sessionId input ∧
        inputStartsDash t.1.gameState input entry.2.state = true) := by
    rintro state' hstep hdash hcooldown hnone
    rw [hstep]
    constructor
    · rintro (hless | hless)
      · exact absurd hless (not_lt.mpr hdash)
      · exact absurd hless (not_lt.mpr hcooldown)
    · rintro ⟨input, hevent, hstarts⟩
      exact absurd hstarts (hnone input hevent)
  cases event with
  | enter session | leave id | broadcast type payload | sessions w =>
      exact hkept _ rfl (le_refl _) (le_refl _) nofun
  | applyPlayerInput id input =>
      by_cases hid : id = sessionId
      swap
      · apply hkept _ (if_neg hid) (le_refl _) (le_refl _)
        intro input' hevent
        exact absurd (RoomEvent.applyPlayerInput.inj hevent).1 hid
      obtain ⟨hstarts, hquiet, -⟩ := applyInput_clocks t.1.gameState input entry.2.state
      have hstep : t.1.playerStep (.applyPlayerInput id input : RoomEvent K ρ ω) sessionId
          entry.2.state = Room.applyInput t.1.gameState input entry.2.state := if_pos hid
      cases hdash : inputStartsDash t.1.gameState input entry.2.state with
      | true =>
          obtain ⟨hcooled, -, hcooldown⟩ := hstarts hdash
          refine iff_of_true (Or.inr ?_) ⟨input, by rw [hid], hdash⟩
          rw [hstep, hcooldown]
          exact hcooled.trans_lt zero_lt_one
      | false =>
          obtain ⟨hremaining, hcooldown⟩ := hquiet hdash
          apply hkept _ hstep hremaining.le hcooldown.le
          intro input' hevent
          rw [← (RoomEvent.applyPlayerInput.inj hevent).2, hdash]
          decide
  | tick deltaSeconds =>
      by_cases hactive : 0 < deltaSeconds ∧ t.1.gameState = .playing
      · have hsim : 0 < t.1.simulationDelta deltaSeconds :=
          lt_min hactive.1 (h.phase.gameTimer hactive.2).1
        obtain ⟨hdash, hcooldown⟩ := t.1.tickState_clocks_le hsim.le hpaced
        exact hkept _ (if_pos hactive) hdash hcooldown nofun
      · exact hkept _ (if_neg hactive) (le_refl _) (le_refl _) nofun

/-- **The account of an operation** by which both players stay. -/
theorem Room.Consistent.step_account (h : t.1.Consistent) (hpaced : t.1.Every PlayerState.Paced)
    (hboth : t.1.players.length = 2) (hstay : (Room.step sessions t event).1.players.length = 2)
    (hstate : t.1.stateOf sessionId = some state) :
    Account (simulatedSeconds t event) (wayOf sessions sessionId t event)
      (dashCount sessions sessionId t event) state (t.1.playerStep event sessionId state) := by
  have hdash := h.startsDash_iff hpaced hboth hstay hstate
  obtain ⟨entry, hentry, -, rfl⟩ := Room.stateOf_mem hstate
  have hpaced := hpaced entry hentry
  have harena := h.roster.inArena entry hentry
  have hstate' : (Room.step sessions t event).1.stateOf sessionId =
      some (t.1.playerStep event sessionId entry.2.state) := by
    rw [h.stateOf_step hboth hstay, hstate]
    rfl
  have hway := wayOf_le hstate hstate'
  have hnone : (∀ input, event ≠ .applyPlayerInput sessionId input) →
      dashCount sessions sessionId t event = 0 := by
    intro hother
    apply if_neg
    intro hstarts
    obtain ⟨input, hevent, -⟩ := hdash.mp hstarts
    exact hother input hevent
  have hnothing : simulatedSeconds t event = 0 →
      (∀ input, event ≠ .applyPlayerInput sessionId input) →
      t.1.playerStep event sessionId entry.2.state = entry.2.state →
      Account (simulatedSeconds t event) (wayOf sessions sessionId t event)
        (dashCount sessions sessionId t event) entry.2.state
        (t.1.playerStep event sessionId entry.2.state) := by
    intro hseconds hother hsame
    rw [hsame, distance_self] at hway
    rw [hsame, hseconds, hnone hother]
    exact Account.mono ⟨by simp, by simp⟩ hway
  cases event with
  | enter session | leave id | broadcast type payload | sessions w =>
      exact hnothing rfl nofun rfl
  | applyPlayerInput id input =>
      by_cases hid : id = sessionId
      · obtain ⟨-, -, hx, hy, -⟩ := applyInput_clocks t.1.gameState input entry.2.state
        have hstep : t.1.playerStep (.applyPlayerInput id input : RoomEvent K ρ ω) sessionId
            entry.2.state = Room.applyInput t.1.gameState input entry.2.state := if_pos hid
        have hcount : startsDash sessions sessionId t (.applyPlayerInput id input) = true ↔
            inputStartsDash t.1.gameState input entry.2.state = true := by
          rw [hdash]
          constructor
          · rintro ⟨input', hevent, hstarts⟩
            rw [(RoomEvent.applyPlayerInput.inj hevent).2]
            exact hstarts
          · intro hstarts
            exact ⟨input, by rw [hid], hstarts⟩
        rw [hstep, hx, hy, distance_self] at hway
        rw [hstep, dashCount, if_congr hcount rfl rfl]
        exact (applyInput_account hpaced t.1.gameState input).mono hway
      · refine hnothing rfl (fun input' hevent => ?_) (if_neg hid)
        exact hid (RoomEvent.applyPlayerInput.inj hevent).1
  | tick deltaSeconds =>
      by_cases hactive : 0 < deltaSeconds ∧ t.1.gameState = .playing
      swap
      · exact hnothing (if_neg hactive) nofun (if_neg hactive)
      have hsim : 0 < t.1.simulationDelta deltaSeconds :=
        lt_min hactive.1 (h.phase.gameTimer hactive.2).1
      have hseconds : simulatedSeconds t (.tick deltaSeconds) =
          t.1.simulationDelta deltaSeconds := if_pos hactive
      have hstep : t.1.playerStep (.tick deltaSeconds : RoomEvent K ρ ω) sessionId
          entry.2.state = t.1.tickState deltaSeconds entry.2.state := if_pos hactive
      rw [hstep] at hway ⊢
      rw [hseconds, hnone nofun]
      refine t.1.tickState_account hsim hpaced harena hway fun hcollision => if_pos ?_
      simp [Room.collides, hactive.2, hcollision]

end Step

/-! ## The account of a run -/

omit [LinearOrder K] in
theorem Account.trans [LinearOrder K] [IsStrictOrderedRing K] {seconds seconds' way way' : K}
    {dashes dashes' : ℕ} {state state' state'' : PlayerState K}
    (h : Account seconds way dashes state state')
    (h' : Account seconds' way' dashes' state' state'') :
    Account (seconds + seconds') (way + way') (dashes + dashes') state state'' := by
  have hway := h.way
  have hway' := h'.way
  have hdashes := h.dashes
  have hdashes' := h'.dashes
  constructor
  · push_cast
    linarith
  · push_cast
    linarith

section Runs

variable [IsStrictOrderedRing K] [FloorRing K] [HasSqrt K] [LawfulSqrt K] [SessionObject ρ]
  {sessions : Room.Sessions ρ ω} {t : Room K ρ × ω} {events : List (RoomEvent K ρ ω)}
  {sessionId : SessionId} {state : PlayerState K}

theorem Room.Every.run_paced (hconsistent : t.1.Consistent) (h : t.1.Every PlayerState.Paced)
    (events : List (RoomEvent K ρ ω)) :
    (Room.run sessions t events).1.Every PlayerState.Paced := by
  induction events using List.reverseRecOn with
  | nil => exact h
  | append_singleton events event ih =>
      rw [Room.run_concat]
      exact ih.step paced_kept (hconsistent.run sessions events) sessions event

/-- **The account of a run** while both players stay. -/
theorem Room.Consistent.run_account (h : t.1.Consistent) (hpaced : t.1.Every PlayerState.Paced)
    (hstay : BothStay sessions t events) (hstate : t.1.stateOf sessionId = some state) :
    ∃ state', (Room.run sessions t events).1.stateOf sessionId = some state' ∧
      Account (tally simulatedSeconds sessions t events)
        (tally (wayOf sessions sessionId) sessions t events)
        (tally (dashCount sessions sessionId) sessions t events) state state' := by
  induction events using List.reverseRecOn with
  | nil => exact ⟨state, hstate, by simp [tally], by simp [tally]⟩
  | append_singleton events event ih =>
      obtain ⟨state', hstate', haccount⟩ := ih hstay.init
      have hconsistent : (Room.run sessions t events).1.Consistent := h.run sessions events
      have hboth := hstay events (List.prefix_append _ _)
      have hboth' := hstay (events ++ [event]) (List.prefix_refl _)
      rw [Room.run_concat] at hboth' ⊢
      rw [tally_concat, tally_concat, tally_concat]
      refine ⟨(Room.run sessions t events).1.playerStep event sessionId state', ?_, ?_⟩
      · rw [hconsistent.stateOf_step hboth hboth', hstate']
        rfl
      · exact haccount.trans (hconsistent.step_account (hpaced.run_paced h events) hboth hboth'
          hstate')

omit [IsStrictOrderedRing K] [LawfulSqrt K] [FloorRing K] [SessionObject ρ] in
/-- The dash button stays down until an input lets it go. -/
theorem playerStep_held (r : Room K ρ) (event : RoomEvent K ρ ω) (sessionId : SessionId)
    (hheld : state.dashInputActive = true) :
    (r.playerStep event sessionId state).dashInputActive = true ∨
      ∃ input, event = .applyPlayerInput sessionId input ∧ input.dash = false := by
  cases event with
  | enter session | leave id | broadcast type payload | sessions w => exact Or.inl hheld
  | applyPlayerInput id input =>
      unfold Room.playerStep
      dsimp only
      split
      · next hid =>
          rw [(applyInput_clocks r.gameState input state).2.2.2.2]
          cases hdash : input.dash with
          | true => exact Or.inl rfl
          | false => exact Or.inr ⟨input, by rw [hid], hdash⟩
      · exact Or.inl hheld
  | tick deltaSeconds =>
      left
      unfold Room.playerStep
      dsimp only
      split
      · exact (sameInput_tickState r deltaSeconds state).dashInputActive.trans hheld
      · exact hheld

omit [LawfulSqrt K] in
theorem Room.Consistent.run_held (h : t.1.Consistent) (hstay : BothStay sessions t events)
    (hstate : t.1.stateOf sessionId = some state) (hheld : state.dashInputActive = true) :
    ∃ state', (Room.run sessions t events).1.stateOf sessionId = some state' ∧
      (state'.dashInputActive = true ∨
        ∃ input, RoomEvent.applyPlayerInput sessionId input ∈ events ∧ input.dash = false) := by
  induction events using List.reverseRecOn with
  | nil => exact ⟨state, hstate, Or.inl hheld⟩
  | append_singleton events event ih =>
      obtain ⟨state', hstate', hbefore⟩ := ih hstay.init
      have hconsistent : (Room.run sessions t events).1.Consistent := h.run sessions events
      have hboth := hstay events (List.prefix_append _ _)
      have hboth' := hstay (events ++ [event]) (List.prefix_refl _)
      rw [Room.run_concat] at hboth' ⊢
      refine ⟨(Room.run sessions t events).1.playerStep event sessionId state', ?_, ?_⟩
      · rw [hconsistent.stateOf_step hboth hboth', hstate']
        rfl
      rcases hbefore with hstill | ⟨input, hinput, hreleased⟩
      · rcases playerStep_held (Room.run sessions t events).1 event sessionId hstill
          with hnow | ⟨input, rfl, hreleased⟩
        · exact Or.inl hnow
        · exact Or.inr ⟨input, by simp, hreleased⟩
      · exact Or.inr ⟨input, List.mem_append_left _ hinput, hreleased⟩

/-! ## The speed limit -/

/-- **Two dashes of a player are a second apart**, and the button has been let go in between. -/
theorem Room.Consistent.dashes_apart (h : t.1.Consistent) (hpaced : t.1.Every PlayerState.Paced)
    {first second : RoomEvent K ρ ω} {between : List (RoomEvent K ρ ω)}
    (hboth : t.1.players.length = 2)
    (hstay : BothStay sessions (Room.step sessions t first) (between ++ [second]))
    (hstate : t.1.stateOf sessionId = some state)
    (hfirst : startsDash sessions sessionId t first = true)
    (hsecond : startsDash sessions sessionId
      (Room.run sessions (Room.step sessions t first) between) second = true) :
    1 ≤ tally simulatedSeconds sessions (Room.step sessions t first) between ∧
      (∃ released, RoomEvent.applyPlayerInput sessionId released ∈ between ∧
        released.dash = false) ∧
      ∃ pressed, second = .applyPlayerInput sessionId pressed ∧ pressed.dash = true := by
  have hboth₁ : (Room.step sessions t first).1.players.length = 2 := hstay [] List.nil_prefix
  obtain ⟨input, rfl, hdash⟩ :=
    (h.startsDash_iff hpaced hboth hboth₁ hstate).mp hfirst
  have hstate₁ : (Room.step sessions t (.applyPlayerInput sessionId input)).1.stateOf sessionId =
      some (Room.applyInput t.1.gameState input state) := by
    rw [h.stateOf_step hboth hboth₁, hstate]
    exact congrArg some (if_pos rfl)
  have hconsistent₁ := h.step sessions (.applyPlayerInput sessionId input)
  have hpaced₁ := hpaced.step paced_kept h sessions (.applyPlayerInput sessionId input)
  clear hboth₁ hfirst
  revert hstay hsecond hstate₁ hconsistent₁ hpaced₁
  generalize Room.step sessions t (.applyPlayerInput sessionId input) = t₁
  intro hstay hsecond hstate₁ hconsistent₁ hpaced₁
  -- after the first dash the button is down and the cooldown is full
  obtain ⟨hstarted, -, -, -, hpressed⟩ := applyInput_clocks t.1.gameState input state
  obtain ⟨-, -, hcooldown⟩ := hstarted hdash
  obtain ⟨state₂, hstate₂, haccount⟩ := hconsistent₁.run_account hpaced₁ hstay.init hstate₁
  obtain ⟨state₂', hstate₂', hheld⟩ :=
    hconsistent₁.run_held hstay.init hstate₁ (hpressed.trans (dash_of_inputStartsDash hdash).1)
  obtain rfl : state₂ = state₂' := Option.some.inj (hstate₂.symm.trans hstate₂')
  have hboth₂ := hstay (between ++ [second]) (List.prefix_refl _)
  rw [Room.run_concat] at hboth₂
  obtain ⟨input₂, hevent₂, hdash₂⟩ := ((hconsistent₁.run sessions between).startsDash_iff
    (hpaced₁.run_paced hconsistent₁ between) (hstay between (List.prefix_append _ _)) hboth₂
    hstate₂).mp hsecond
  obtain ⟨hpressed₂, hreleased₂⟩ := dash_of_inputStartsDash hdash₂
  obtain ⟨hstarted₂, -, -⟩ :=
    applyInput_clocks (Room.run sessions t₁ between).1.gameState input₂ state₂
  have hcooled := (hstarted₂ hdash₂).1
  refine ⟨?_, hheld.resolve_left ?_, input₂, hevent₂, hpressed₂⟩
  · have hdashes := haccount.dashes
    have hcount : (0 : K) ≤ ((tally (dashCount sessions sessionId) sessions t₁ between : ℕ) : K) :=
      Nat.cast_nonneg _
    rw [hcooldown] at hdashes
    linarith
  · rw [hreleased₂]
    decide

omit [HasSqrt K] [LawfulSqrt K] in
/-- The dashes of a game, by its time. -/
theorem dashes_le_floor (dashes : ℕ) {T : K} (h : (dashes : K) ≤ T + 1) :
    (dashes : K) ≤ (⌊T⌋ : K) + 1 := by
  have hfloor : (dashes : ℤ) - 1 ≤ ⌊T⌋ := by
    apply Int.le_floor.mpr
    push_cast
    linarith
  have hcast : ((dashes : ℤ) : K) ≤ ((⌊T⌋ + 1 : ℤ) : K) := by
    exact_mod_cast (by omega : (dashes : ℤ) ≤ ⌊T⌋ + 1)
  push_cast at hcast
  exact hcast

omit [LawfulSqrt K] in
/-- Nobody has moved when a game starts. -/
theorem GameStarts.players (hstart : GameStarts sessions t) :
    t.1.Every PlayerState.Paced ∧ ∀ entry ∈ t.1.players,
      entry.2.state.dashRemainingSeconds = 0 ∧ entry.2.state.dashCooldownRemainingSeconds = 0 := by
  obtain ⟨r, entering, -, hroom⟩ := hstart.room
  rw [hroom]
  constructor
  · intro entry hentry
    obtain ⟨old, -, rfl⟩ := List.mem_map.mp hentry
    exact paced_idle rfl rfl rfl rfl rfl rfl
  · intro entry hentry
    obtain ⟨old, -, rfl⟩ := List.mem_map.mp hentry
    exact ⟨rfl, rfl⟩

/-- **The server decides how fast a player is.** In every game, whatever the inputs: the directions
and clocks of the players stay in their bounds; two dashes of a player are at least a second of
simulated time apart, with the button let go and pressed again in between; and in the first `T`
seconds a player goes no further than it can walk and than `⌊T⌋ + 1` dashes add to that. -/
theorem speed_limit (sessions : Room.Sessions ρ ω) (t : Room K ρ × ω)
    (events : List (RoomEvent K ρ ω)) (hstart : GameStarts sessions t)
    (hstay : BothStay sessions t events) :
    (∀ played, played <+: events →
      ∀ entry ∈ (Room.run sessions t played).1.players, entry.2.state.Paced) ∧
    ∀ entry ∈ t.1.players,
      (∀ before first between second, before ++ first :: (between ++ [second]) <+: events →
        startsDash sessions entry.1 (Room.run sessions t before) first = true →
        startsDash sessions entry.1 (Room.run sessions t (before ++ first :: between)) second =
          true →
        1 ≤ tally simulatedSeconds sessions (Room.run sessions t (before ++ [first])) between ∧
          (∃ released, RoomEvent.applyPlayerInput entry.1 released ∈ between ∧
            released.dash = false) ∧
          ∃ pressed, second = .applyPlayerInput entry.1 pressed ∧ pressed.dash = true) ∧
      ∀ played, played <+: events → ∀ T, tally simulatedSeconds sessions t played ≤ T →
        tally (wayOf sessions entry.1) sessions t played ≤ 5 * T + 16 / 10 * ((⌊T⌋ : K) + 1) := by
  obtain ⟨hpaced, hidle⟩ := hstart.players
  have hconsistent := hstart.consistent
  refine ⟨fun played _ => hpaced.run_paced hconsistent played, fun entry hentry => ⟨?_, ?_⟩⟩
  · intro before first between second hplayed hfirst hsecond
    have hstate := Room.stateOf_entry hconsistent.roster.keys hentry
    have hrun : ∀ part, Room.run sessions t (before ++ first :: part) =
        Room.run sessions (Room.step sessions (Room.run sessions t before) first) part := by
      intro part
      simp [Room.run]
    have hbefore : BothStay sessions t before := fun part hpart =>
      hstay part ((hpart.trans (List.prefix_append _ _)).trans hplayed)
    obtain ⟨state, hstate', -⟩ := hconsistent.run_account hpaced hbefore hstate
    rw [hrun] at hsecond
    rw [show Room.run sessions t (before ++ [first]) =
      Room.step sessions (Room.run sessions t before) first from Room.run_concat before first]
    refine (hconsistent.run sessions before).dashes_apart (hpaced.run_paced hconsistent before)
      (hbefore before (List.prefix_refl _)) ?_ hstate' hfirst hsecond
    rintro part ⟨rest, hrest⟩
    rw [← hrun]
    apply hstay
    refine List.IsPrefix.trans ?_ hplayed
    rw [List.prefix_append_right_inj, List.cons_prefix_cons]
    exact ⟨rfl, rest, hrest⟩
  · intro played hplayed T hT
    have hstate := Room.stateOf_entry hconsistent.roster.keys hentry
    obtain ⟨hdash, hcooldown⟩ := hidle entry hentry
    obtain ⟨state, hstate', haccount⟩ := hconsistent.run_account hpaced
      (fun part hpart => hstay part (hpart.trans hplayed)) hstate
    obtain ⟨after, hafter, -, rfl⟩ := Room.stateOf_mem hstate'
    have hpaced' : after.2.state.Paced := hpaced.run_paced hconsistent played after hafter
    have hway := haccount.way
    have hdashes := haccount.dashes
    rw [hdash] at hway
    rw [hcooldown] at hdashes
    have hcount := dashes_le_floor (tally (dashCount sessions entry.1) sessions t played)
      (show _ ≤ T + 1 by linarith [hpaced'.cooling.2])
    linarith [hpaced'.dashing.1]

end Runs

/-- Two players have entered, in exact numbers of any kind. -/
def bothEntered [FloorRing K] [IsStrictOrderedRing K] [HasSqrt K] : Room K SessionId × Unit :=
  Room.run liveSessions (Room.create 1, ()) [.enter (some 1), .enter (some 2)]

/-- Inputs and ticks make nobody leave. -/
theorem bothStay_of_moves [FloorRing K] [IsStrictOrderedRing K] [HasSqrt K] [SessionObject ρ]
    {sessions : Room.Sessions ρ ω} {t : Room K ρ × ω} {events : List (RoomEvent K ρ ω)}
    (hboth : t.1.players.length = 2)
    (hmoves : ∀ event ∈ events, (∃ id input, event = .applyPlayerInput id input) ∨
      ∃ deltaSeconds, event = .tick deltaSeconds) : BothStay sessions t events := by
  intro part hpart
  induction part using List.reverseRecOn with
  | nil => exact hboth
  | append_singleton part event ih =>
      have hbefore := ih ((List.prefix_append _ _).trans hpart)
      rw [Room.run_concat]
      have hseats : (Room.step sessions (Room.run sessions t part) event).1.seats.length =
          (Room.run sessions t part).1.seats.length := by
        rcases hmoves event (hpart.subset (by simp)) with ⟨id, input, rfl⟩ | ⟨deltaSeconds, rfl⟩
        · exact (congrArg List.length
            ((Room.run sessions t part).1.applyPlayerInput_frame id input).1).trans
              (List.length_map _)
        · exact congrArg List.length ((Room.run sessions t part).1.tick_frame deltaSeconds).1
      rw [← seats_length, hseats, seats_length]
      exact hbefore

theorem gameStarts_bothEntered [FloorRing K] [IsStrictOrderedRing K] [HasSqrt K] :
    GameStarts liveSessions (bothEntered : Room K SessionId × Unit) :=
  ⟨1, (), [.enter (some 1)], some 2, rfl, rfl, rfl⟩

/-- Full speed upwards, with a dash. -/
def dashUpInput : PlayerInputPayload := ⟨0, 1000, 0, true⟩

/-- A second in which the first player lets the button go at last. -/
def keepAndRelease : List (RoomEvent K SessionId Unit) :=
  List.replicate 4 (.tick (1 / 4)) ++ [.applyPlayerInput 1 { dashUpInput with dash := false }]

/-- The first player dashes upwards, and dashes again a second later. -/
def dashTwice : List (RoomEvent K SessionId Unit) :=
  .applyPlayerInput 1 dashUpInput :: (keepAndRelease ++ [.applyPlayerInput 1 dashUpInput])

/-- A player above its spawn who has dashed. -/
def climber (y dash cooldown : K) (dashInputActive : Bool) : SessionId × Player K SessionId :=
  (1, ⟨1, 1, some 1,
    ⟨.flame, -(15 / 10), y, 0, 0, 1, dashInputActive, 0, 1, dash, cooldown⟩⟩)

section Climbing

variable [IsStrictOrderedRing K] [FloorRing K] [HasSqrt K] {r : Room K SessionId}
  {T y dash cooldown : K} {dashInputActive : Bool}

/-- A game in which one player climbs, and the other one stands at its spawn. -/
structure Climbs (r : Room K SessionId) (T y dash cooldown : K) (dashInputActive : Bool) :
    Prop where
  clock : ClockAt r T
  consistent : r.Consistent
  players : r.players = [climber y dash cooldown dashInputActive, walker 2 2 .frost 0 (15 / 10)]

omit [FloorRing K] in
theorem normalizePlayerInput_up (dash : Bool) :
    normalizePlayerInput { dashUpInput with dash := dash } =
      (⟨0, 1, 0⟩ : NormalizedPlayerInput K) := by
  have hlevel : dashUpInput.moveX.toInt = 0 := by decide
  have hup : dashUpInput.moveY.toInt = 1000 := by decide
  exact normalizePlayerInput_short (by rw [hlevel]; norm_num) (by rw [hup]; norm_num)
    (by norm_num)

omit [FloorRing K] [HasSqrt K] in
/-- Players on different sides who move neither left nor right do not meet. -/
theorem not_meets_climber (y dash cooldown : K) (dashInputActive : Bool) (deltaSeconds : K) :
    ¬ Meets (climber y dash cooldown dashInputActive).2.state
      (walker 2 2 .frost 0 (15 / 10)).2.state deltaSeconds := by
  rintro ⟨s, hs, -, htouching, -⟩
  have hx : (path (climber y dash cooldown dashInputActive).2.state s).1 = -(15 / 10) := by
    rw [path_eq hs]
    simp [climber]
  rw [path_standing hs] at htouching
  unfold Touching distanceSquared playerCollisionRadius at htouching
  rw [hx] at htouching
  linarith [mul_self_nonneg (0 - (path (climber y dash cooldown dashInputActive).2.state s).2)]

omit [FloorRing K] [HasSqrt K] in
theorem tickPlayer_standing : Room.tickPlayer (1 / 4) (walker 2 2 .frost 0 (15 / 10)).2.state =
    (walker 2 2 .frost 0 (15 / 10) : SessionId × Player K SessionId).2.state := by
  unfold Room.tickPlayer Room.movePlayer walker clamp arenaMinX arenaMaxX arenaMinY arenaMaxY
    playerBoundaryMargin
  norm_num

omit [FloorRing K] [HasSqrt K] in
/-- Who gets to the wall stays there. -/
theorem tickPlayer_climber (hdash₀ : 0 ≤ dash) (hdash₁ : dash < 1 / 4)
    (hwall : 26 / 10 ≤ y + 15 * dash + 5 * (1 / 4 - dash)) :
    Room.tickPlayer (1 / 4) (climber y dash cooldown dashInputActive).2.state =
      (climber (26 / 10) 0 (max 0 (cooldown - 1 / 4)) dashInputActive).2.state := by
  have hmove : Room.movePlayer (1 / 4) (climber y dash cooldown dashInputActive).2.state =
      (climber (y + 15 * dash + 5 * (1 / 4 - dash)) 0 cooldown dashInputActive).2.state := by
    unfold Room.movePlayer climber playerDashSpeed playerMoveSpeed
    rcases hdash₀.eq_or_lt with rfl | hpositive
    · norm_num
    · dsimp only
      rw [if_pos hpositive, min_eq_right hdash₁.le]
      dsimp only
      rw [if_pos (sub_pos.mpr hdash₁), sub_self, max_self]
      congr 1 <;> ring
  have hclampX : clamp (-(15 / 10) : K) (arenaMinX + playerBoundaryMargin)
      (arenaMaxX - playerBoundaryMargin) = -(15 / 10) := by
    unfold clamp arenaMinX arenaMaxX playerBoundaryMargin
    rw [if_neg (by norm_num), if_neg (by norm_num)]
  have hlow : (arenaMinY + playerBoundaryMargin : K) = -(26 / 10) := by
    norm_num [arenaMinY, playerBoundaryMargin]
  have hhigh : (arenaMaxY - playerBoundaryMargin : K) = 26 / 10 := by
    norm_num [arenaMaxY, playerBoundaryMargin]
  have hclampY : clamp (y + 15 * dash + 5 * (1 / 4 - dash)) (arenaMinY + playerBoundaryMargin)
      (arenaMaxY - playerBoundaryMargin) = 26 / 10 := by
    rw [hlow, hhigh, clamp, if_neg (by linarith)]
    split
    · rfl
    · next hat => exact le_antisymm (not_lt.mp hat) hwall
  unfold Room.tickPlayer
  rw [hmove]
  unfold climber
  dsimp only
  rw [hclampX, hclampY]

/-- The first dash. -/
theorem climbs_start : Climbs (Room.step liveSessions (bothEntered : Room K SessionId × Unit)
    (.applyPlayerInput 1 dashUpInput)).1 0 0 (16 / 100) 1 true where
  clock := (clockAt_start (r := (bothEntered : Room K SessionId × Unit).1) rfl rfl rfl rfl).of_eq
    rfl rfl rfl rfl
  consistent := gameStarts_bothEntered.consistent.step liveSessions _
  players := by
    have hdash : Room.applyInput .playing dashUpInput (walker 1 1 .flame 0 (-(15 / 10))).2.state =
        (climber (0 : K) (16 / 100) 1 true).2.state :=
      applyInput_dash (normalizePlayerInput_up true) rfl rfl (le_refl 0) (by norm_num)
    show [(1, Player.mk 1 1 (some 1) (Room.applyInput .playing dashUpInput
      (walker 1 1 .flame 0 (-(15 / 10))).2.state)), walker 2 2 .frost 0 (15 / 10)] = _
    rw [hdash]
    rfl

omit [IsStrictOrderedRing K] [FloorRing K] [HasSqrt K] in
theorem Climbs.stateOf [IsStrictOrderedRing K] [FloorRing K]
    (h : Climbs r T y dash cooldown dashInputActive) :
    r.stateOf 1 = some (climber y dash cooldown dashInputActive).2.state := by
  unfold Room.stateOf Room.findPlayer
  rw [h.players]
  rfl

/-- An input of the climber. -/
theorem Climbs.input (h : Climbs r T y dash cooldown dashInputActive) (hrunning : T < 30)
    {input : PlayerInputPayload} {dash' cooldown' : K} {dashInputActive' : Bool}
    (hinput : Room.applyInput .playing input (climber y dash cooldown dashInputActive).2.state =
      (climber y dash' cooldown' dashInputActive').2.state) :
    Climbs (r.applyPlayerInput 1 input).2 T y dash' cooldown' dashInputActive' := by
  have hplaying := (h.clock.running hrunning).1
  have hplayers : (r.applyPlayerInput 1 input).2.players =
      [climber y dash' cooldown' dashInputActive', walker 2 2 .frost 0 (15 / 10)] := by
    rw [r.applyPlayerInput_eq, hplaying]
    unfold Room.updatePlayer
    rw [h.players]
    show [(1, Player.mk 1 1 (some 1) (Room.applyInput .playing input
      (climber y dash cooldown dashInputActive).2.state)), walker 2 2 .frost 0 (15 / 10)] = _
    rw [hinput]
    rfl
  refine ⟨?_, h.consistent.step (t := (r, ())) liveSessions (.applyPlayerInput 1 input), hplayers⟩
  rw [r.applyPlayerInput_eq]
  exact h.clock.of_eq rfl rfl rfl rfl

omit [FloorRing K] in
/-- The button is let go. -/
theorem applyInput_release : Room.applyInput .playing { dashUpInput with dash := false }
    (climber y dash cooldown dashInputActive).2.state =
      (climber y dash cooldown false).2.state := by
  unfold Room.applyInput
  rw [normalizePlayerInput_up]
  rfl

variable [LawfulSqrt K]

theorem Climbs.apart (h : Climbs r T y dash cooldown dashInputActive) (hrunning : T < 30 - 1 / 4) :
    r.tickCollision (1 / 4) = none := by
  obtain ⟨hplaying, hgame, -, -⟩ := h.clock.running (by linarith)
  exact h.consistent.tickCollision_apart hplaying (by norm_num) (by rw [hgame]; linarith) h.players
    (not_meets_climber _ _ _ _ _)

/-- **A quarter of a second upwards** ends at the wall. -/
theorem Climbs.tick (h : Climbs r T y dash cooldown dashInputActive) (hrunning : T < 30 - 1 / 4)
    (hdash₀ : 0 ≤ dash) (hdash₁ : dash < 1 / 4)
    (hwall : 26 / 10 ≤ y + 15 * dash + 5 * (1 / 4 - dash)) :
    Climbs (r.tick (1 / 4)) (T + 1 / 4) (26 / 10) 0 (max 0 (cooldown - 1 / 4))
      dashInputActive where
  clock := h.clock.tick (by norm_num)
  consistent := h.consistent.tick (1 / 4)
  players := by
    obtain ⟨hplaying, hgame, -, -⟩ := h.clock.running (by linarith)
    have hmoved := h.consistent.players_tick_apart hplaying (by norm_num : (0 : K) < 1 / 4)
      (by rw [hgame]; linarith) h.players (not_meets_climber _ _ _ _ _)
    rw [tickPlayer_climber hdash₀ hdash₁ hwall, tickPlayer_standing] at hmoved
    exact hmoved

/-- The four ticks of a second. -/
theorem Climbs.second (h : Climbs r T 0 (16 / 100) 1 dashInputActive) (hrunning : T < 29) :
    Climbs (Room.run liveSessions (r, ()) (List.replicate 4 (.tick (1 / 4)))).1 (T + 1) (26 / 10)
      0 0 dashInputActive := by
  have hfirst := h.tick (by linarith) (by norm_num) (by norm_num) (by norm_num)
  have hsecond := hfirst.tick (by linarith) (by norm_num) (by norm_num) (by norm_num)
  have hthird := hsecond.tick (by linarith) (by norm_num) (by norm_num) (by norm_num)
  have hfourth := hthird.tick (by linarith) (by norm_num) (by norm_num) (by norm_num)
  have htime : T + 1 / 4 + 1 / 4 + 1 / 4 + 1 / 4 = T + 1 := by ring
  have hcooled : max (0 : K) (max 0 (max 0 (max 0 (1 - 1 / 4) - 1 / 4) - 1 / 4) - 1 / 4) = 0 := by
    norm_num
  rw [htime, hcooled] at hfourth
  exact hfourth

/-- A climber that has not been at the wall goes some way. -/
theorem Climbs.wayOf_pos (h : Climbs r T y dash cooldown dashInputActive)
    (hrunning : T < 30 - 1 / 4) (hdash₀ : 0 ≤ dash) (hdash₁ : dash < 1 / 4)
    (hwall : 26 / 10 ≤ y + 15 * dash + 5 * (1 / 4 - dash)) (hbelow : y < 26 / 10) :
    0 < wayOf liveSessions 1 (r, ()) (.tick (1 / 4)) := by
  have hafter := (h.tick hrunning hdash₀ hdash₁ hwall).stateOf
  have hcollides : ¬ r.collides (.tick (1 / 4) : RoomEvent K SessionId Unit) = true := by
    show ¬ (r.gameState == .playing && (r.tickCollision (1 / 4)).isSome) = true
    rw [h.apart hrunning, Option.isSome_none, Bool.and_false]
    decide
  unfold wayOf
  rw [if_neg hcollides, h.stateOf, show (Room.step liveSessions (r, ())
    (.tick (1 / 4))).1.stateOf 1 = _ from hafter]
  apply distance_pos
  unfold distanceSquared climber
  dsimp only
  nlinarith

end Climbing

section Twice

variable [FloorRing K] [IsStrictOrderedRing K] [HasSqrt K]

theorem bothStay_dashTwice :
    BothStay liveSessions (bothEntered : Room K SessionId × Unit) dashTwice := by
  apply bothStay_of_moves rfl
  intro event hmem
  simp only [dashTwice, keepAndRelease, List.mem_cons, List.mem_append, List.mem_replicate,
    List.not_mem_nil, or_false] at hmem
  rcases hmem with rfl | (⟨-, rfl⟩ | rfl) | rfl
  · exact Or.inl ⟨1, dashUpInput, rfl⟩
  · exact Or.inr ⟨1 / 4, rfl⟩
  · exact Or.inl ⟨1, { dashUpInput with dash := false }, rfl⟩
  · exact Or.inl ⟨1, dashUpInput, rfl⟩

/-- What starts a dash of the first player. -/
theorem startsDash_first {r : Room K SessionId} {before after : PlayerState K}
    {event : RoomEvent K SessionId Unit} (hbefore : r.stateOf 1 = some before)
    (hafter : (Room.step liveSessions (r, ()) event).1.stateOf 1 = some after)
    (hraised : before.dashCooldownRemainingSeconds < after.dashCooldownRemainingSeconds) :
    startsDash liveSessions 1 (r, ()) event = true := by
  unfold startsDash
  rw [hbefore, hafter]
  simp [hraised]

end Twice

/-- **Two dashes**, a second apart, and the way of the first one. -/
theorem speed_limit_dash :
    startsDash liveSessions 1 (bothEntered : Room ℝ SessionId × Unit)
      (.applyPlayerInput 1 dashUpInput) = true ∧
    startsDash liveSessions 1 (Room.run liveSessions (bothEntered : Room ℝ SessionId × Unit)
      (.applyPlayerInput 1 dashUpInput :: keepAndRelease)) (.applyPlayerInput 1 dashUpInput) =
        true ∧
    1 ≤ tally simulatedSeconds liveSessions (Room.run liveSessions
      (bothEntered : Room ℝ SessionId × Unit) [.applyPlayerInput 1 dashUpInput]) keepAndRelease ∧
    0 < tally (wayOf liveSessions 1) liveSessions (bothEntered : Room ℝ SessionId × Unit)
      [.applyPlayerInput 1 dashUpInput, .tick (1 / 4)] ∧
    tally (wayOf liveSessions 1) liveSessions (bothEntered : Room ℝ SessionId × Unit)
      [.applyPlayerInput 1 dashUpInput, .tick (1 / 4)] ≤
        5 * (1 / 4) + 16 / 10 * ((⌊(1 / 4 : ℝ)⌋ : ℝ) + 1) := by
  have hentry : walker 1 1 .flame 0 (-(15 / 10)) ∈
      (bothEntered : Room ℝ SessionId × Unit).1.players := List.mem_cons_self
  obtain ⟨hdashes, hway⟩ := (speed_limit liveSessions (bothEntered : Room ℝ SessionId × Unit)
    dashTwice gameStarts_bothEntered bothStay_dashTwice).2 _ hentry
  have hclimbs := climbs_start (K := ℝ)
  have hfirst : startsDash liveSessions 1 (bothEntered : Room ℝ SessionId × Unit)
      (.applyPlayerInput 1 dashUpInput) = true :=
    startsDash_first (r := (bothEntered : Room ℝ SessionId × Unit).1) rfl hclimbs.stateOf
      zero_lt_one
  have hreleased := (hclimbs.second (by norm_num)).input (by norm_num) applyInput_release
  have hsecond : startsDash liveSessions 1 (Room.run liveSessions
      (bothEntered : Room ℝ SessionId × Unit)
      (.applyPlayerInput 1 dashUpInput :: keepAndRelease)) (.applyPlayerInput 1 dashUpInput) =
        true := by
    have hpressed := hreleased.input (by norm_num) (applyInput_dash (normalizePlayerInput_up true)
      rfl rfl (le_refl 0) (by norm_num))
    exact startsDash_first hreleased.stateOf hpressed.stateOf zero_lt_one
  have htick := hclimbs.tick (by norm_num) (by norm_num) (by norm_num) (by norm_num)
  have hsplit : ([.applyPlayerInput 1 dashUpInput, .tick (1 / 4)] :
      List (RoomEvent ℝ SessionId Unit)) <+: dashTwice := by
    simp [dashTwice, keepAndRelease, List.replicate_succ]
  refine ⟨hfirst, hsecond, (hdashes [] _ keepAndRelease _ (List.prefix_refl _) hfirst hsecond).1,
    ?_, hway _ hsplit (1 / 4) ?_⟩
  · have hpress := wayOf_nonneg liveSessions 1 (bothEntered : Room ℝ SessionId × Unit)
      (.applyPlayerInput 1 dashUpInput)
    have hmove := hclimbs.wayOf_pos (by norm_num) (by norm_num) (by norm_num) (by norm_num)
      (by norm_num)
    rw [tally, tally, tally, add_zero]
    exact add_pos_of_nonneg_of_pos hpress hmove
  · have hgame : (Room.step liveSessions (bothEntered : Room ℝ SessionId × Unit)
        (.applyPlayerInput 1 dashUpInput)).1.gameRemainingSeconds = 30 := rfl
    simp only [tally, simulatedSeconds, Room.simulationDelta, hgame]
    split <;> norm_num

end NetworkArena.Server
