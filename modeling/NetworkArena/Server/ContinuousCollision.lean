/-
# NetworkArena.Server.ContinuousCollision -- the collision time is the first contact

`FindPlayerCollisionTimeDuringTick` solves one quadratic per part of the tick. As long as no part
has the players moving at almost, but not exactly, the same velocity, each solution is the first
contact in its part, and the sweep over the parts returns the first contact of the whole tick, if
there is one. Contact is measured on the ways that the movement step of `Tick` takes, which is
written independently of the detection.
-/
import NetworkArena.Foundation.FirstTime
import NetworkArena.Server.Overlap

namespace NetworkArena.Server

open NetworkArena.Foundation

variable {K : Type} [Field K] [LinearOrder K]

/-! ## Contact -/

/-- In every part of the tick the two velocities are equal or not nearly equal. -/
def NeverSlow (first second : PlayerState K) (deltaSeconds : K) : Prop :=
  ∀ s, 0 ≤ s → s < deltaSeconds → segmentVelocity first s = segmentVelocity second s ∨
    Approaching (segmentVelocity first s) (segmentVelocity second s)

variable [IsStrictOrderedRing K]

omit [LinearOrder K] [IsStrictOrderedRing K] in
theorem distanceSquared_self (position : K × K) : distanceSquared position position = 0 := by
  simp [distanceSquared]

variable [HasSqrt K] [LawfulSqrt K]

/-- The source compares squares. -/
theorem touching_iff_distance (first second : K × K) :
    Touching first second ↔ distance first second ≤ 3 / 10 := by
  have hsquare := distance_mul_self first second
  have hroot := distance_nonneg first second
  have hradii : (playerCollisionRadius * 2 : K) = 3 / 10 := by
    norm_num [playerCollisionRadius]
  have hpositive : (0 : K) ≤ 3 / 10 := by norm_num
  unfold Touching
  rw [← hsquare, hradii]
  exact (mul_self_le_mul_self_iff hroot hpositive).symm

/-! ## One part -/

section OnePart

variable {first second : PlayerMovement K} {deltaSeconds t : K}

omit [HasSqrt K] [LawfulSqrt K] in
/-- Players with one velocity keep their distance. -/
theorem touching_after_of_velocity_eq (h : first.velocity = second.velocity) (t : K) :
    Touching (first.after t) (second.after t) ↔ Touching (first.after 0) (second.after 0) := by
  have hspeed : first.speedTerm second = 0 := by
    rw [PlayerMovement.speedTerm, h, distanceSquared_self]
  have hcross : first.crossTerm second = 0 := by
    have hx : first.velocityX = second.velocityX := congrArg Prod.fst h
    have hy : first.velocityY = second.velocityY := congrArg Prod.snd h
    rw [PlayerMovement.crossTerm, hx, hy]
    ring
  rw [touching_after_iff, touching_after_iff, hspeed, hcross]
  simp [quadratic]

/-- Before the collision that is found there is none. -/
theorem findPlayerCollisionTime_earliest
    (h : findPlayerCollisionTime first second deltaSeconds = some t) {s : K} (hs : 0 ≤ s)
    (hst : s < t) : ¬ Touching (first.after s) (second.after s) := by
  rw [findPlayerCollisionTime_eq] at h
  split at h
  · -- found at the start
    obtain rfl : 0 = t := Option.some.inj h
    exact absurd hst (not_lt.mpr hs)
  split at h
  · cases h
  next hspeed =>
  split at h
  · cases h
  next hdiscriminant =>
  have hroot := LawfulSqrt.sqrt_mul_self _ (not_lt.mp hdiscriminant)
  have hrootNonneg := LawfulSqrt.sqrt_nonneg _ (not_lt.mp hdiscriminant)
  dsimp only at h
  split at h
  · cases h
  obtain rfl := Option.some.inj h
  have hpositive : 0 < first.speedTerm second :=
    lt_of_lt_of_le (by norm_num [collisionEpsilon]) (not_lt.mp hspeed)
  rw [touching_after_iff, not_le]
  exact quadratic_pos_of_lt hpositive hrootNonneg hroot hst

/-- **In one part**, the first contact is found. -/
theorem findPlayerCollisionTime_isFirstTime (hdelta : 0 ≤ deltaSeconds)
    (hvelocity : first.velocity = second.velocity ∨ Approaching first.velocity second.velocity) :
    IsFirstTime (fun s => Touching (first.after s) (second.after s)) 0 deltaSeconds
      (findPlayerCollisionTime first second deltaSeconds) := by
  cases hfound : findPlayerCollisionTime first second deltaSeconds with
  | some t =>
      rw [isFirstTime_some]
      obtain ⟨hstart, hend⟩ := findPlayerCollisionTime_mem hdelta hfound
      refine ⟨⟨hstart, hend, (findPlayerCollisionTime_some hfound).1⟩, ?_⟩
      intro s hs _ htouching
      by_contra hbefore
      exact findPlayerCollisionTime_earliest hfound hs (not_le.mp hbefore) htouching
  | none =>
      rw [isFirstTime_none]
      obtain ⟨hstart, hfast⟩ := findPlayerCollisionTime_none hfound
      intro s hs hend
      rcases hvelocity with hequal | happroaching
      · -- the gap of the start stays as it is
        rw [touching_after_of_velocity_eq hequal]
        exact hstart
      · exact hfast happroaching s hs hend

end OnePart

/-! ## The whole tick -/

variable {first second : PlayerState K} {deltaSeconds u v : K} {boundaries : List K}

/-- The two ways touch at an instant. -/
def InContact (first second : PlayerState K) (s : K) : Prop :=
  Touching (path first s) (path second s)

/-- **In one part of a tick**, the first contact of the ways is found. -/
theorem Parts.isFirstTime (h : Parts first second deltaSeconds u (v :: boundaries))
    (hslow : NeverSlow first second deltaSeconds) :
    IsFirstTime (InContact first second) u v
      ((findPlayerCollisionTime (partMovement first u) (partMovement second u) (v - u)).map
        (u + ·)) := by
  have hlast : u < deltaSeconds := lt_of_lt_of_le h.lt (h.le_last (by simp))
  have hvelocity : (partMovement first u).velocity = (partMovement second u).velocity ∨
      Approaching (partMovement first u).velocity (partMovement second u).velocity :=
    hslow u h.start hlast
  apply IsFirstTime.shift
  apply (findPlayerCollisionTime_isFirstTime (sub_nonneg.mpr h.lt.le) hvelocity).congr
  intro s hs hsv
  -- in its part, a movement is the way of its player
  have hus : u ≤ u + s := le_add_of_nonneg_right hs
  have hwithin : u + s ≤ v := le_sub_iff_add_le'.mp hsv
  have hfirst := (h.movement (show first ∈ [first, second] by simp) hus hwithin).1
  have hsecond := (h.movement (show second ∈ [first, second] by simp) hus hwithin).1
  rw [add_sub_cancel_left] at hfirst hsecond
  rw [hfirst, hsecond]
  rfl

/-- **The loop finds the first contact** from where it is; it ends at the end of the tick, which is
looked at with the part before it. -/
theorem Parts.sweep (h : Parts first second deltaSeconds u boundaries)
    (hslow : NeverSlow first second deltaSeconds)
    (hend : u = deltaSeconds → ¬ InContact first second u) :
    IsFirstTime (InContact first second) u deltaSeconds
      (findCollisionInSegments first second (u :: boundaries) (path first u) (path second u)) := by
  induction boundaries generalizing u with
  | nil =>
      have hlast : deltaSeconds = u := List.mem_singleton.mp h.last
      subst hlast
      show IsFirstTime _ _ _ none
      rw [isFirstTime_none]
      intro s hus hsu
      obtain rfl := le_antisymm hus hsu
      exact hend rfl
  | cons v boundaries ih =>
      have hpart := h.isFirstTime hslow
      rw [findCollisionInSegments_cons h]
      cases hfound : findPlayerCollisionTime (partMovement first u) (partMovement second u)
          (v - u) with
      | some t =>
          rw [hfound] at hpart
          exact hpart.append_some (h.le_last (by simp))
      | none =>
          rw [hfound, Option.map_none] at hpart
          refine hpart.append_none h.lt.le (ih h.next ?_)
          -- the end of this part is covered by it
          intro _
          exact isFirstTime_none.mp hpart v h.lt.le le_rfl

theorem findPlayerCollisionTimeDuringTick_isFirstTime (hdelta : 0 < deltaSeconds)
    (hslow : NeverSlow first second deltaSeconds) :
    IsFirstTime (InContact first second) 0 deltaSeconds
      (findPlayerCollisionTimeDuringTick first second deltaSeconds) := by
  obtain ⟨boundaries, hboundaries, hparts⟩ := parts_start first second hdelta
  rw [findPlayerCollisionTimeDuringTick, hboundaries, ← path_zero, ← path_zero]
  apply hparts.sweep hslow
  intro hzero
  exact absurd hzero hdelta.ne

/-- The instants of a tick at which the players are at most two radii apart. -/
def contactTimes (first second : PlayerState K) (deltaSeconds : K) : Set K :=
  {s | 0 ≤ s ∧ s ≤ deltaSeconds ∧ distance (path first s) (path second s) ≤ 3 / 10}

theorem timesIn_inContact (first second : PlayerState K) (deltaSeconds : K) :
    timesIn (InContact first second) 0 deltaSeconds = contactTimes first second deltaSeconds := by
  ext s
  show _ ∧ _ ∧ Touching _ _ ↔ _ ∧ _ ∧ _
  rw [touching_iff_distance]

/-! ## A dash that ends on the way -/

/-- A player who dashes to the right for another tenth of a second, and walks on then. -/
def dashingPlayer : PlayerState K :=
  { PlayerState.initial with
    positionX := -(3 / 2)
    directionX := 1
    dashDirectionX := 1
    dashRemainingSeconds := 1 / 10 }

/-- A player who stands in the way. -/
def standingPlayer : PlayerState K := { PlayerState.initial with positionX := 3 / 2 }

omit [HasSqrt K] [LawfulSqrt K] in
theorem neverSlow_dashingPlayer : NeverSlow (K := K) dashingPlayer standingPlayer 1 := by
  intro s hs _
  right
  have hstanding : segmentVelocity (K := K) standingPlayer s = (0, 0) := by
    simp [segmentVelocity, standingPlayer, PlayerState.initial]
  rw [hstanding]
  unfold Approaching segmentVelocity
  split <;> norm_num [dashingPlayer, collisionEpsilon, distanceSquared, playerDashSpeed,
    playerMoveSpeed, PlayerState.initial]

omit [HasSqrt K] [LawfulSqrt K] in
/-- The gap closes three times as fast while the dash lasts. -/
theorem distanceSquared_dashingPlayer {s : K} (hs : 0 ≤ s) :
    distanceSquared (path dashingPlayer s) (path standingPlayer s) =
      (3 - 10 * min s (1 / 10) - 5 * s) * (3 - 10 * min s (1 / 10) - 5 * s) := by
  have hdash : dashTime (dashingPlayer (K := K)) s = min s (1 / 10) := by
    have hmax : max (1 / 10 : K) 0 = 1 / 10 := max_eq_left (by norm_num)
    rw [← hmax]
    rfl
  rw [path_eq hs, path_eq hs, hdash]
  simp only [distanceSquared, dashingPlayer, standingPlayer, PlayerState.initial, playerDashSpeed,
    playerMoveSpeed]
  ring

theorem isLeast_contactTimes_dashingPlayer :
    IsLeast (contactTimes (K := K) dashingPlayer standingPlayer 1) (34 / 100) := by
  have hradii : (playerCollisionRadius * 2 : K) = 3 / 10 := by
    norm_num [playerCollisionRadius]
  constructor
  · refine ⟨by norm_num, by norm_num, ?_⟩
    have hmin : min (34 / 100 : K) (1 / 10) = 1 / 10 := min_eq_right (by norm_num)
    rw [← touching_iff_distance, Touching, distanceSquared_dashingPlayer (by norm_num), hmin,
      hradii]
    norm_num
  · rintro s ⟨hs, -, hcontact⟩
    by_contra hbefore
    have hgap : 3 / 10 < 3 - 10 * min s (1 / 10) - 5 * s := by
      have hmin := min_le_right s (1 / 10)
      have hless := not_le.mp hbefore
      linarith
    rw [← touching_iff_distance, Touching, distanceSquared_dashingPlayer hs, hradii] at hcontact
    exact absurd hcontact (not_le.mpr (mul_self_lt_mul_self (by norm_num) hgap))

/-! ## The first contact -/

/-- **Continuous collision detection is exact**: what is returned is the first instant of the tick
at which the players are at most two radii apart, and nothing is returned only if there is none. -/
theorem collision_time_first_contact (first second : PlayerState K) (deltaSeconds : K)
    (hdelta : 0 < deltaSeconds) (hslow : NeverSlow first second deltaSeconds) :
    (∀ t, findPlayerCollisionTimeDuringTick first second deltaSeconds = some t ↔
      IsLeast (contactTimes first second deltaSeconds) t) ∧
    (findPlayerCollisionTimeDuringTick first second deltaSeconds = none ↔
      contactTimes first second deltaSeconds = ∅) := by
  have hfirst := findPlayerCollisionTimeDuringTick_isFirstTime hdelta hslow
  rw [← timesIn_inContact]
  exact ⟨fun _ => hfirst.eq_some_iff, hfirst.eq_none_iff⟩

theorem collision_time_first_contact_dash :
    findPlayerCollisionTimeDuringTick (K := ℝ) dashingPlayer standingPlayer 1 = some (34 / 100) :=
  ((collision_time_first_contact (K := ℝ) dashingPlayer standingPlayer 1 one_pos
    neverSlow_dashingPlayer).1 (34 / 100)).mpr isLeast_contactTimes_dashingPlayer

end NetworkArena.Server
