/-
# NetworkArena.Server.Collision -- what the collision detection finds

A player's way through a tick, its walls aside, is where `movePlayer` takes it in the first `s`
seconds of the tick. Between two dash ends both players of a pair move at constant velocity, and
`FindPlayerCollisionTime` solves a quadratic there. Put together, the source finds a collision
exactly when the two ways come within two radii of each other: at the start of a part of the tick,
or at an instant at which the players were fast enough relative to each other (`Meets`). A tick of a
room with two players follows from that alone.
-/
import NetworkArena.Foundation.Quadratic
import NetworkArena.Server.RoomPhase

namespace NetworkArena.Server

open NetworkArena.Foundation

variable {K ρ : Type} [Field K] [LinearOrder K]

/-! ## One part of a tick -/

/-- The squared distance of two positions, or the squared relative speed of two velocities. -/
def distanceSquared (first second : K × K) : K :=
  (second.1 - first.1) * (second.1 - first.1) + (second.2 - first.2) * (second.2 - first.2)

/-- Two positions at most two radii apart. -/
def Touching (first second : K × K) : Prop :=
  distanceSquared first second ≤ playerCollisionRadius * 2 * (playerCollisionRadius * 2)

instance (first second : K × K) : Decidable (Touching first second) :=
  inferInstanceAs (Decidable (_ ≤ _))

/-- Two velocities that are not nearly the same. -/
def Approaching (firstVelocity secondVelocity : K × K) : Prop :=
  collisionEpsilon ≤ distanceSquared firstVelocity secondVelocity

namespace PlayerMovement

/-- The velocity of a movement. -/
def velocity (movement : PlayerMovement K) : K × K := (movement.velocityX, movement.velocityY)

/-- Where a movement is after `t` seconds. -/
def after (movement : PlayerMovement K) (t : K) : K × K :=
  (movement.startX + movement.velocityX * t, movement.startY + movement.velocityY * t)

/-- `a` of `FindPlayerCollisionTime`, the squared relative speed. -/
def speedTerm (first second : PlayerMovement K) : K :=
  distanceSquared first.velocity second.velocity

/-- `b` of `FindPlayerCollisionTime`. -/
def crossTerm (first second : PlayerMovement K) : K :=
  2 * ((second.startX - first.startX) * (second.velocityX - first.velocityX) +
    (second.startY - first.startY) * (second.velocityY - first.velocityY))

/-- `c` of `FindPlayerCollisionTime`, how far the start is from a collision. -/
def gapTerm (first second : PlayerMovement K) : K :=
  distanceSquared (first.startX, first.startY) (second.startX, second.startY) -
    playerCollisionRadius * 2 * (playerCollisionRadius * 2)

end PlayerMovement

section OnePart

variable {first second : PlayerMovement K} {deltaSeconds t : K}

/-- The function, in its own three terms. -/
theorem findPlayerCollisionTime_eq [HasSqrt K] (first second : PlayerMovement K)
    (deltaSeconds : K) :
    findPlayerCollisionTime first second deltaSeconds =
      if first.gapTerm second ≤ 0 then some 0
      else if first.speedTerm second < collisionEpsilon then none
      else if first.crossTerm second * first.crossTerm second -
          4 * first.speedTerm second * first.gapTerm second < 0 then none
      else
        let collisionTime := firstRoot (first.speedTerm second) (first.crossTerm second)
          (HasSqrt.sqrt (first.crossTerm second * first.crossTerm second -
            4 * first.speedTerm second * first.gapTerm second))
        if collisionTime < 0 ∨ collisionTime > deltaSeconds then none else some collisionTime :=
  rfl

/-- The gap between two movements is a quadratic in time. -/
theorem touching_after_iff [IsStrictOrderedRing K] :
    Touching (first.after t) (second.after t) ↔
      quadratic (first.speedTerm second) (first.crossTerm second) (first.gapTerm second) t ≤ 0 := by
  have hgap : distanceSquared (first.after t) (second.after t) -
      playerCollisionRadius * 2 * (playerCollisionRadius * 2) =
      quadratic (first.speedTerm second) (first.crossTerm second) (first.gapTerm second) t := by
    unfold quadratic PlayerMovement.speedTerm PlayerMovement.crossTerm PlayerMovement.gapTerm
      distanceSquared PlayerMovement.after PlayerMovement.velocity
    ring
  rw [← hgap, sub_nonpos]
  rfl

/-- The start of two movements. -/
theorem touching_start_iff [IsStrictOrderedRing K] :
    Touching (first.after 0) (second.after 0) ↔ first.gapTerm second ≤ 0 := by
  rw [touching_after_iff, quadratic_zero]

variable [IsStrictOrderedRing K] [HasSqrt K]

omit [IsStrictOrderedRing K] in
/-- A collision is looked for in its part of the tick only. -/
theorem findPlayerCollisionTime_mem (hdelta : 0 ≤ deltaSeconds)
    (h : findPlayerCollisionTime first second deltaSeconds = some t) :
    0 ≤ t ∧ t ≤ deltaSeconds := by
  rw [findPlayerCollisionTime_eq] at h
  split at h
  · obtain rfl : 0 = t := Option.some.inj h
    exact ⟨le_refl 0, hdelta⟩
  split at h
  · cases h
  split at h
  · cases h
  dsimp only at h
  split at h
  · cases h
  next hinside =>
  obtain rfl := Option.some.inj h
  rw [not_or, not_lt, gt_iff_lt, not_lt] at hinside
  exact hinside

variable [LawfulSqrt K]

/-- **A collision that is found is one**: at the start, or later and not too slow. -/
theorem findPlayerCollisionTime_some
    (h : findPlayerCollisionTime first second deltaSeconds = some t) :
    Touching (first.after t) (second.after t) ∧
      (t = 0 ∨ 0 < t ∧ Approaching first.velocity second.velocity) := by
  rw [findPlayerCollisionTime_eq] at h
  split at h
  · next hgap =>
      obtain rfl : 0 = t := Option.some.inj h
      exact ⟨touching_start_iff.mpr hgap, Or.inl rfl⟩
  next hgap =>
  split at h
  · cases h
  next hspeed =>
  split at h
  · cases h
  next hdiscriminant =>
  have hroot := LawfulSqrt.sqrt_mul_self _ (not_lt.mp hdiscriminant)
  dsimp only at h
  split at h
  · cases h
  next hinside =>
  obtain rfl := Option.some.inj h
  have hnonneg := not_lt.mp fun hless => hinside (Or.inl hless)
  have hfast : Approaching first.velocity second.velocity := not_lt.mp hspeed
  have hpositive : 0 < first.speedTerm second :=
    lt_of_lt_of_le (by norm_num [collisionEpsilon]) hfast
  have hzero := quadratic_firstRoot hpositive hroot
  refine ⟨touching_after_iff.mpr hzero.le, Or.inr ⟨?_, hfast⟩⟩
  -- at the start the gap is still open, so the root is not there
  apply lt_of_le_of_ne hnonneg
  intro hstart
  rw [← hstart, quadratic_zero] at hzero
  exact hgap hzero.le

/-- **What is not found** does not happen, or happens too slowly. -/
theorem findPlayerCollisionTime_none
    (h : findPlayerCollisionTime first second deltaSeconds = none) :
    ¬ Touching (first.after 0) (second.after 0) ∧
      (Approaching first.velocity second.velocity →
        ∀ t, 0 ≤ t → t ≤ deltaSeconds → ¬ Touching (first.after t) (second.after t)) := by
  rw [findPlayerCollisionTime_eq] at h
  split at h
  · cases h
  next hgap =>
  refine ⟨fun htouching => hgap (touching_start_iff.mp htouching), ?_⟩
  intro hfast t hstart hend
  rw [touching_after_iff, not_le]
  have hpositive : 0 < first.speedTerm second :=
    lt_of_lt_of_le (by norm_num [collisionEpsilon]) hfast
  have hnotSlow : ¬ first.speedTerm second < collisionEpsilon := not_lt.mpr hfast
  rw [if_neg hnotSlow] at h
  split at h
  · next hdiscriminant => exact quadratic_pos_of_discriminant hpositive hdiscriminant t
  next hdiscriminant =>
  have hroot := LawfulSqrt.sqrt_mul_self _ (not_lt.mp hdiscriminant)
  have hrootNonneg := LawfulSqrt.sqrt_nonneg _ (not_lt.mp hdiscriminant)
  dsimp only at h
  split at h
  · next houtside =>
      rcases houtside with hpast | hlater
      · exact quadratic_pos_of_past hpositive hroot (not_le.mp hgap) hpast hstart
      · exact quadratic_pos_of_lt hpositive hrootNonneg hroot (lt_of_le_of_lt hend hlater)
  · cases h

end OnePart

/-! ## The way of a player through a tick -/

/-- Where a player is `s` seconds into a tick, its walls aside. -/
def path (state : PlayerState K) (s : K) : K × K :=
  ((Room.movePlayer s state).positionX, (Room.movePlayer s state).positionY)

/-- The part of the first `s` seconds of a tick that a player dashes. -/
def dashTime (state : PlayerState K) (s : K) : K := min s (max state.dashRemainingSeconds 0)

/-- The velocity of a player just before `s` seconds into a tick. -/
def approachVelocity (state : PlayerState K) (s : K) : K × K :=
  if s ≤ state.dashRemainingSeconds then
    (state.dashDirectionX * playerDashSpeed, state.dashDirectionY * playerDashSpeed)
  else (state.directionX * playerMoveSpeed, state.directionY * playerMoveSpeed)

section Paths

variable [IsStrictOrderedRing K] {state : PlayerState K} {u s : K}

/-- A player dashes first and walks then. -/
theorem path_eq (hs : 0 ≤ s) :
    path state s =
      (state.positionX + state.dashDirectionX * playerDashSpeed * dashTime state s +
          state.directionX * playerMoveSpeed * (s - dashTime state s),
        state.positionY + state.dashDirectionY * playerDashSpeed * dashTime state s +
          state.directionY * playerMoveSpeed * (s - dashTime state s)) := by
  unfold path Room.movePlayer
  by_cases hdash : state.dashRemainingSeconds > 0
  · have htime : dashTime state s = min s state.dashRemainingSeconds := by
      rw [dashTime, max_eq_left hdash.le]
    rw [htime]
    simp only [if_pos hdash]
    have hle := min_le_left s state.dashRemainingSeconds
    by_cases hwalk : s - min s state.dashRemainingSeconds > 0
    · rw [if_pos hwalk]
    · have hnothing : s - min s state.dashRemainingSeconds = 0 := by linarith
      rw [if_neg hwalk, hnothing]
      simp
  · have htime : dashTime state s = 0 := by
      rw [dashTime, max_eq_right (not_lt.mp hdash), min_eq_right hs]
    rw [htime]
    simp only [if_neg hdash]
    by_cases hwalk : s > 0
    · rw [if_pos hwalk]
      simp
    · have hnothing : s = 0 := by linarith
      rw [if_neg hwalk, hnothing]
      simp

theorem path_zero (state : PlayerState K) : path state 0 = (state.positionX, state.positionY) := by
  have htime : dashTime state 0 = 0 := by
    rw [dashTime, min_eq_left (le_max_right _ _)]
  rw [path_eq le_rfl, htime]
  simp

/-- **Between dash ends a player moves at constant velocity**, which is the one the source uses. -/
theorem path_add (hu : 0 ≤ u) (hus : u ≤ s)
    (hend : state.dashRemainingSeconds ≤ u ∨ s ≤ state.dashRemainingSeconds) :
    path state s = ((path state u).1 + (segmentVelocity state u).1 * (s - u),
      (path state u).2 + (segmentVelocity state u).2 * (s - u)) := by
  rw [path_eq (hu.trans hus), path_eq hu]
  by_cases hdash : state.dashRemainingSeconds > u
  · have hs : s ≤ state.dashRemainingSeconds := by
      rcases hend with hpast | hlater
      · exact absurd hdash (not_lt.mpr hpast)
      · exact hlater
    have htimeU : dashTime state u = u := by
      rw [dashTime, min_eq_left (le_max_of_le_left hdash.le)]
    have htimeS : dashTime state s = s := by
      rw [dashTime, min_eq_left (le_max_of_le_left hs)]
    rw [htimeU, htimeS, segmentVelocity, if_pos hdash]
    ext <;> dsimp only <;> ring
  · have hpast : max state.dashRemainingSeconds 0 ≤ u := max_le (not_lt.mp hdash) hu
    have htimeU : dashTime state u = max state.dashRemainingSeconds 0 := min_eq_right hpast
    have htimeS : dashTime state s = max state.dashRemainingSeconds 0 :=
      min_eq_right (hpast.trans hus)
    rw [htimeU, htimeS, segmentVelocity, if_neg hdash]
    ext <;> dsimp only <;> ring

omit [IsStrictOrderedRing K] in
/-- The velocity of a part is the one its instants are approached with. -/
theorem segmentVelocity_eq (hus : u < s)
    (hend : state.dashRemainingSeconds ≤ u ∨ s ≤ state.dashRemainingSeconds) :
    segmentVelocity state u = approachVelocity state s := by
  unfold segmentVelocity approachVelocity
  rcases hend with hpast | hlater
  · rw [if_neg (not_lt.mpr hpast), if_neg (not_le.mpr (lt_of_le_of_lt hpast hus))]
  · rw [if_pos (lt_of_lt_of_le hus hlater), if_pos hlater]

end Paths

/-! ## The parts of a tick -/

section Boundaries

omit [Field K] in
/-- `std::unique` keeps one of each. -/
theorem mem_destutter'_ne (l : List K) (a x : K) :
    x ∈ l.destutter' (· ≠ ·) a ↔ x = a ∨ x ∈ l := by
  induction l generalizing a with
  | nil => simp
  | cons b l ih =>
      rw [List.destutter'_cons]
      by_cases hab : a ≠ b
      · rw [if_pos hab, List.mem_cons, ih, List.mem_cons]
      · obtain rfl : a = b := not_not.mp hab
        rw [if_neg hab, ih, List.mem_cons]
        tauto

omit [Field K] in
theorem mem_destutter_ne (l : List K) (x : K) : x ∈ l.destutter (· ≠ ·) ↔ x ∈ l := by
  cases l with
  | nil => simp
  | cons a l => rw [List.destutter_cons', mem_destutter'_ne, List.mem_cons]

omit [Field K] in
/-- Sorted, with no neighbours that are equal. -/
theorem pairwise_lt_of_isChain_ne {l : List K} (hle : l.Pairwise (· ≤ ·))
    (hne : l.IsChain (· ≠ ·)) : l.Pairwise (· < ·) := by
  apply List.IsChain.pairwise
  induction l with
  | nil => exact List.IsChain.nil
  | cons a rest ih =>
      cases rest with
      | nil => exact List.IsChain.singleton a
      | cons b rest =>
          rw [List.isChain_cons_cons] at hne ⊢
          rw [List.pairwise_cons] at hle
          exact ⟨lt_of_le_of_ne (hle.1 b (by simp)) hne.1, ih hle.2 hne.2⟩

/-- The end of a dash within a tick. -/
def DashEnd (state : PlayerState K) (deltaSeconds s : K) : Prop :=
  s = state.dashRemainingSeconds ∧ 0 < s ∧ s < deltaSeconds

/-- **The boundaries** are the ends of the tick and of the dashes that end in it. -/
theorem mem_collectPlayerMovementBoundaries (first second : PlayerState K) (deltaSeconds s : K) :
    s ∈ collectPlayerMovementBoundaries first second deltaSeconds ↔
      s = 0 ∨ s = deltaSeconds ∨ DashEnd first deltaSeconds s ∨ DashEnd second deltaSeconds s := by
  have hend : ∀ state : PlayerState K,
      s ∈ (if state.dashRemainingSeconds > 0 ∧ state.dashRemainingSeconds < deltaSeconds then
        [state.dashRemainingSeconds] else []) ↔ DashEnd state deltaSeconds s := by
    intro state
    unfold DashEnd
    split
    · next hinside =>
        rw [List.mem_singleton]
        constructor
        · rintro rfl
          exact ⟨rfl, hinside⟩
        · intro h
          exact h.1
    · next houtside =>
        constructor
        · intro h
          exact absurd h (List.not_mem_nil)
        · rintro ⟨rfl, hinside⟩
          exact absurd hinside houtside
  unfold collectPlayerMovementBoundaries
  rw [mem_destutter_ne, List.mem_insertionSort, List.mem_append, List.mem_append, List.mem_append,
    hend, hend, List.mem_singleton, List.mem_singleton]
  tauto

theorem collectPlayerMovementBoundaries_pairwise (first second : PlayerState K) (deltaSeconds : K) :
    (collectPlayerMovementBoundaries first second deltaSeconds).Pairwise (· < ·) :=
  pairwise_lt_of_isChain_ne
    ((List.pairwise_insertionSort (· ≤ ·) _).sublist (List.destutter_sublist _ _))
    (List.isChain_destutter _ _)

end Boundaries

/-! ## What is found in a tick -/

/-- The two ways are within two radii at an instant: at the start of a part, or at some later
instant to which the players were not nearly at rest relative to each other. -/
def MeetAt (first second : PlayerState K) (deltaSeconds s : K) : Prop :=
  Touching (path first s) (path second s) ∧
    (s = 0 ∨ DashEnd first deltaSeconds s ∨ DashEnd second deltaSeconds s ∨
      Approaching (approachVelocity first s) (approachVelocity second s))

/-- What the loop knows of the boundaries that are left, the first of which is `u`. -/
structure Parts (first second : PlayerState K) (deltaSeconds u : K) (boundaries : List K) :
    Prop where
  start : 0 ≤ u
  sorted : (u :: boundaries).Pairwise (· < ·)
  last : deltaSeconds ∈ u :: boundaries
  within : ∀ s ∈ u :: boundaries,
    s = 0 ∨ s = deltaSeconds ∨ DashEnd first deltaSeconds s ∨ DashEnd second deltaSeconds s
  ends : ∀ state ∈ [first, second], ∀ s, DashEnd state deltaSeconds s → u < s → s ∈ boundaries

section Search

variable [IsStrictOrderedRing K] {first second : PlayerState K} {deltaSeconds u v s : K}
  {boundaries : List K}

omit [IsStrictOrderedRing K] in
/-- At the start of the tick, all boundaries are left. -/
theorem parts_start (first second : PlayerState K) (hdelta : 0 < deltaSeconds) :
    ∃ boundaries, collectPlayerMovementBoundaries first second deltaSeconds = 0 :: boundaries ∧
      Parts first second deltaSeconds 0 boundaries := by
  have hmem := mem_collectPlayerMovementBoundaries first second deltaSeconds
  have hsorted := collectPlayerMovementBoundaries_pairwise first second deltaSeconds
  have hzero := (hmem 0).mpr (Or.inl rfl)
  have hfirst : ∀ s ∈ collectPlayerMovementBoundaries first second deltaSeconds, 0 ≤ s := by
    intro s hs
    rcases (hmem s).mp hs with rfl | rfl | hend | hend
    · exact le_refl _
    · exact hdelta.le
    · exact hend.2.1.le
    · exact hend.2.1.le
  cases hlist : collectPlayerMovementBoundaries first second deltaSeconds with
  | nil =>
      rw [hlist] at hzero
      exact absurd hzero List.not_mem_nil
  | cons u boundaries =>
      rw [hlist] at hmem hsorted hzero hfirst
      have hu : u = 0 := by
        apply le_antisymm _ (hfirst u (by simp))
        rcases List.mem_cons.mp hzero with heq | hlater
        · exact heq.ge
        · exact ((List.pairwise_cons.mp hsorted).1 0 hlater).le
      subst hu
      refine ⟨boundaries, rfl, le_rfl, hsorted, (hmem _).mpr (Or.inr (Or.inl rfl)),
        fun s hs => (hmem s).mp hs, ?_⟩
      intro state hstate s hend hlater
      have heither : DashEnd first deltaSeconds s ∨ DashEnd second deltaSeconds s := by
        rcases List.mem_pair.mp hstate with rfl | rfl
        · exact Or.inl hend
        · exact Or.inr hend
      have hs := (hmem s).mpr (Or.inr (Or.inr heither))
      exact (List.mem_cons.mp hs).resolve_left hlater.ne'

omit [IsStrictOrderedRing K] in
/-- No boundary is after the end of the tick. -/
theorem Parts.le_last (h : Parts first second deltaSeconds u boundaries)
    (hs : s ∈ u :: boundaries) : s ≤ deltaSeconds := by
  rcases h.within s hs with rfl | rfl | hend | hend
  · apply h.start.trans
    rcases List.mem_cons.mp h.last with rfl | hlater
    · exact le_refl _
    · exact ((List.pairwise_cons.mp h.sorted).1 _ hlater).le
  · exact le_refl _
  · exact hend.2.2.le
  · exact hend.2.2.le

omit [IsStrictOrderedRing K] in
theorem Parts.lt (h : Parts first second deltaSeconds u (v :: boundaries)) : u < v :=
  (List.pairwise_cons.mp h.sorted).1 v (by simp)

omit [IsStrictOrderedRing K] in
/-- The loop moves to the next boundary. -/
theorem Parts.next (h : Parts first second deltaSeconds u (v :: boundaries)) :
    Parts first second deltaSeconds v boundaries where
  start := h.start.trans h.lt.le
  sorted := (List.pairwise_cons.mp h.sorted).2
  last := by
    rcases List.mem_cons.mp h.last with rfl | hlater
    · exact absurd (h.le_last (s := v) (by simp)) (not_le.mpr h.lt)
    · exact hlater
  within s hs := h.within s (List.mem_cons_of_mem u hs)
  ends state hstate s hend hlater :=
    (List.mem_cons.mp (h.ends state hstate s hend (h.lt.trans hlater))).resolve_left hlater.ne'

omit [IsStrictOrderedRing K] in
/-- No boundary is inside a part. -/
theorem Parts.outside (h : Parts first second deltaSeconds u (v :: boundaries))
    (hs : s ∈ v :: boundaries) : v ≤ s := by
  rcases List.mem_cons.mp hs with rfl | hlater
  · exact le_refl _
  · exact ((List.pairwise_cons.mp h.next.sorted).1 s hlater).le

omit [IsStrictOrderedRing K] in
/-- No dash ends inside a part. -/
theorem Parts.constant (h : Parts first second deltaSeconds u (v :: boundaries))
    {state : PlayerState K} (hstate : state ∈ [first, second]) :
    state.dashRemainingSeconds ≤ u ∨ v ≤ state.dashRemainingSeconds := by
  by_contra hinside
  obtain ⟨hlater, hbefore⟩ := not_or.mp hinside
  have hlast := h.le_last (s := v) (by simp)
  have hend : DashEnd state deltaSeconds state.dashRemainingSeconds :=
    ⟨rfl, lt_of_le_of_lt h.start (not_le.mp hlater), lt_of_lt_of_le (not_le.mp hbefore) hlast⟩
  exact hbefore (h.outside (h.ends state hstate _ hend (not_le.mp hlater)))

/-- The movement of a player in the part of the tick that starts at `u`. -/
def partMovement (state : PlayerState K) (u : K) : PlayerMovement K :=
  ⟨(path state u).1, (path state u).2, (segmentVelocity state u).1, (segmentVelocity state u).2⟩

/-- Within a part, the movement is the player's way. -/
theorem partMovement_after {state : PlayerState K} (hu : 0 ≤ u) (hus : u ≤ s) (hsv : s ≤ v)
    (hend : state.dashRemainingSeconds ≤ u ∨ v ≤ state.dashRemainingSeconds) :
    (partMovement state u).after (s - u) = path state s :=
  (path_add hu hus (hend.imp_right hsv.trans)).symm

/-- One round of the loop. -/
theorem findCollisionInSegments_cons [HasSqrt K]
    (h : Parts first second deltaSeconds u (v :: boundaries)) :
    findCollisionInSegments first second (u :: v :: boundaries) (path first u) (path second u) =
      match findPlayerCollisionTime (partMovement first u) (partMovement second u) (v - u) with
      | some collisionTime => some (u + collisionTime)
      | none => findCollisionInSegments first second (v :: boundaries) (path first v)
          (path second v) := by
  have hfirst := path_add h.start h.lt.le (h.constant (show first ∈ [first, second] by simp))
  have hsecond := path_add h.start h.lt.le (h.constant (show second ∈ [first, second] by simp))
  rw [hfirst, hsecond, findCollisionInSegments]
  rfl

/-- The way of a player in a part of the tick, and the velocity it is approached with. -/
theorem Parts.movement (h : Parts first second deltaSeconds u (v :: boundaries))
    {state : PlayerState K} (hstate : state ∈ [first, second]) (hus : u ≤ s) (hsv : s ≤ v) :
    (partMovement state u).after (s - u) = path state s ∧
      (u < s → (partMovement state u).velocity = approachVelocity state s) := by
  have hend := h.constant hstate
  refine ⟨partMovement_after h.start hus hsv hend, ?_⟩
  intro hlater
  exact segmentVelocity_eq hlater (hend.imp_right hsv.trans)

variable [HasSqrt K]

/-- What the loop finds, it finds in some part. -/
theorem Parts.found_in_part (h : Parts first second deltaSeconds u boundaries) {collisionTime : K}
    (hfound : findCollisionInSegments first second (u :: boundaries) (path first u)
      (path second u) = some collisionTime) :
    ∃ v w rest t, Parts first second deltaSeconds v (w :: rest) ∧ u ≤ v ∧
      findPlayerCollisionTime (partMovement first v) (partMovement second v) (w - v) = some t ∧
      collisionTime = v + t := by
  induction boundaries generalizing u with
  | nil => cases hfound
  | cons v boundaries ih =>
      rw [findCollisionInSegments_cons h] at hfound
      cases hpart : findPlayerCollisionTime (partMovement first u) (partMovement second u)
          (v - u) with
      | none =>
          rw [hpart] at hfound
          obtain ⟨v', w, rest, t, hparts, hv, hrest⟩ := ih h.next hfound
          exact ⟨v', w, rest, t, hparts, h.lt.le.trans hv, hrest⟩
      | some t =>
          rw [hpart] at hfound
          exact ⟨u, v, boundaries, t, h, le_rfl, hpart, (Option.some.inj hfound).symm⟩

variable [LawfulSqrt K]

/-- **What is found in a part is a meeting.** -/
theorem Parts.meetAt (h : Parts first second deltaSeconds u (v :: boundaries)) {t : K}
    (hpart : findPlayerCollisionTime (partMovement first u) (partMovement second u) (v - u) =
      some t) : MeetAt first second deltaSeconds (u + t) := by
  obtain ⟨hnonneg, hwithin⟩ := findPlayerCollisionTime_mem (sub_nonneg.mpr h.lt.le) hpart
  obtain ⟨htouching, hhow⟩ := findPlayerCollisionTime_some hpart
  have hus : u ≤ u + t := by linarith
  have hsv : u + t ≤ v := by linarith
  obtain ⟨hfirst, hfirstVelocity⟩ := h.movement (show first ∈ [first, second] by simp) hus hsv
  obtain ⟨hsecond, hsecondVelocity⟩ := h.movement (show second ∈ [first, second] by simp) hus hsv
  rw [add_sub_cancel_left] at hfirst hsecond
  rw [hfirst, hsecond] at htouching
  refine ⟨htouching, ?_⟩
  rcases hhow with rfl | ⟨hpositive, hfast⟩
  · -- found at the start of the part, which is not the end of the tick
    rw [add_zero]
    rcases h.within u (by simp) with hzero | hdelta | hend | hend
    · exact Or.inl hzero
    · exact absurd (hdelta ▸ h.le_last (s := v) (by simp)) (not_le.mpr h.lt)
    · exact Or.inr (Or.inl hend)
    · exact Or.inr (Or.inr (Or.inl hend))
  · have hlater : u < u + t := by linarith
    rw [hfirstVelocity hlater, hsecondVelocity hlater] at hfast
    exact Or.inr (Or.inr (Or.inr hfast))

/-- **The loop misses no meeting** from where it is, except at the very end of the tick. -/
theorem Parts.missed (h : Parts first second deltaSeconds u boundaries)
    (hnone : findCollisionInSegments first second (u :: boundaries) (path first u)
      (path second u) = none) (hus : u ≤ s) (hs : s ≤ deltaSeconds)
    (hend : s = deltaSeconds → u < s) : ¬ MeetAt first second deltaSeconds s := by
  induction boundaries generalizing u with
  | nil =>
      -- the only boundary left is the end
      have hlast : deltaSeconds = u := List.mem_singleton.mp h.last
      subst hlast
      exact absurd (hend (le_antisymm hs hus)) (not_lt.mpr hs)
  | cons v boundaries ih =>
      rw [findCollisionInSegments_cons h] at hnone
      cases hpart : findPlayerCollisionTime (partMovement first u) (partMovement second u)
          (v - u) with
      | some t =>
          rw [hpart] at hnone
          cases hnone
      | none =>
          rw [hpart] at hnone
          obtain ⟨hstart, hslow⟩ := findPlayerCollisionTime_none hpart
          by_cases hnext : v ≤ s ∧ (s = deltaSeconds → v < s)
          · exact ih h.next hnone hnext.1 hnext.2
          have hsv : s ≤ v := by
            by_contra hlater
            exact hnext ⟨(not_le.mp hlater).le, fun _ => not_le.mp hlater⟩
          obtain ⟨hfirst, hfirstVelocity⟩ :=
            h.movement (show first ∈ [first, second] by simp) hus hsv
          obtain ⟨hsecond, hsecondVelocity⟩ :=
            h.movement (show second ∈ [first, second] by simp) hus hsv
          rintro ⟨htouching, hhow⟩
          rw [← hfirst, ← hsecond] at htouching
          rcases eq_or_lt_of_le hus with rfl | hlater
          · rw [sub_self] at htouching
            exact hstart htouching
          have hnotEnd : ∀ state ∈ [first, second], ¬ DashEnd state deltaSeconds s := by
            intro state hstate hdash
            have houtside := h.outside (h.ends state hstate s hdash hlater)
            exact hnext ⟨houtside, fun heq => absurd hdash.2.2 (heq ▸ lt_irrefl _)⟩
          rcases hhow with hzero | hdash | hdash | hfast
          · exact absurd hlater (not_lt.mpr (hzero ▸ h.start))
          · exact hnotEnd first (by simp) hdash
          · exact hnotEnd second (by simp) hdash
          · rw [← hfirstVelocity hlater, ← hsecondVelocity hlater] at hfast
            exact hslow hfast (s - u) (sub_nonneg.mpr hus) (sub_le_sub_right hsv u) htouching

end Search

section Detection

variable [IsStrictOrderedRing K] [HasSqrt K] {first second : PlayerState K} {deltaSeconds : K}

/-- The two ways meet during a tick. -/
def Meets (first second : PlayerState K) (deltaSeconds : K) : Prop :=
  ∃ s, 0 ≤ s ∧ s ≤ deltaSeconds ∧ MeetAt first second deltaSeconds s

/-- What is found in a tick, is found in a part of it. -/
theorem findPlayerCollisionTimeDuringTick_part (hdelta : 0 < deltaSeconds) {collisionTime : K}
    (h : findPlayerCollisionTimeDuringTick first second deltaSeconds = some collisionTime) :
    ∃ u v rest t, Parts first second deltaSeconds u (v :: rest) ∧
      findPlayerCollisionTime (partMovement first u) (partMovement second u) (v - u) = some t ∧
      collisionTime = u + t := by
  obtain ⟨boundaries, hboundaries, hparts⟩ := parts_start first second hdelta
  rw [findPlayerCollisionTimeDuringTick, hboundaries, ← path_zero, ← path_zero] at h
  obtain ⟨u, v, rest, t, hpart, -, hfound⟩ := hparts.found_in_part h
  exact ⟨u, v, rest, t, hpart, hfound⟩

/-- **A collision that is found lies in the tick.** -/
theorem findPlayerCollisionTimeDuringTick_mem (hdelta : 0 < deltaSeconds) {collisionTime : K}
    (h : findPlayerCollisionTimeDuringTick first second deltaSeconds = some collisionTime) :
    0 ≤ collisionTime ∧ collisionTime ≤ deltaSeconds := by
  obtain ⟨u, v, rest, t, hpart, hfound, rfl⟩ := findPlayerCollisionTimeDuringTick_part hdelta h
  obtain ⟨hnonneg, hwithin⟩ := findPlayerCollisionTime_mem (sub_nonneg.mpr hpart.lt.le) hfound
  have hstart := hpart.start
  have hlast := hpart.le_last (s := v) (by simp)
  constructor <;> linarith

variable [LawfulSqrt K]

/-- **A collision is found exactly when the ways meet.** -/
theorem findPlayerCollisionTimeDuringTick_isSome (hdelta : 0 < deltaSeconds) :
    (findPlayerCollisionTimeDuringTick first second deltaSeconds).isSome = true ↔
      Meets first second deltaSeconds := by
  constructor
  · intro h
    obtain ⟨collisionTime, hsome⟩ := Option.isSome_iff_exists.mp h
    obtain ⟨hstart, hend⟩ := findPlayerCollisionTimeDuringTick_mem hdelta hsome
    obtain ⟨u, v, rest, t, hpart, hfound, rfl⟩ :=
      findPlayerCollisionTimeDuringTick_part hdelta hsome
    exact ⟨u + t, hstart, hend, hpart.meetAt hfound⟩
  · rintro ⟨s, hstart, hend, hmeet⟩
    by_contra hnone
    have hnotFound := Option.not_isSome_iff_eq_none.mp hnone
    obtain ⟨boundaries, hboundaries, hparts⟩ := parts_start first second hdelta
    rw [findPlayerCollisionTimeDuringTick, hboundaries, ← path_zero, ← path_zero] at hnotFound
    exact hparts.missed hnotFound hstart hend (fun heq => heq ▸ hdelta) hmeet

end Detection

/-! ## A tick with two players -/

section TwoPlayers

variable {r : Room K ρ} {first second : SessionId × Player K ρ}

/-- When two players collide in a tick, if they do. -/
def Room.tickCollision [HasSqrt K] (r : Room K ρ) (deltaSeconds : K) : Option K :=
  match r.players with
  | [first, second] =>
    findPlayerCollisionTimeDuringTick first.2.state second.2.state (r.simulationDelta deltaSeconds)
  | _ => none

omit [Field K] [LinearOrder K] in
/-- Respawning both of two players is respawning everyone. -/
theorem respawn_both (hplayers : r.players = [first, second]) (hkeys : first.1 ≠ second.1)
    (f : PlayerState K → PlayerState K) :
    ((r.updatePlayer first.1 f).updatePlayer second.1 f).players = (r.forEachPlayer f).players := by
  unfold Room.updatePlayer Room.forEachPlayer
  simp only [hplayers, List.map_cons, List.map_nil, if_true, if_neg hkeys, if_neg hkeys.symm]

/-- **A tick with two players** moves both, and respawns both if they collide. -/
theorem Room.simulate_two [HasSqrt K] (hplayers : r.players = [first, second])
    (hkeys : first.1 ≠ second.1) (deltaSeconds : K) :
    r.simulate deltaSeconds =
      match r.tickCollision deltaSeconds with
      | none => r.forEachPlayer (Room.tickPlayer (r.simulationDelta deltaSeconds))
      | some collisionTime =>
        { (r.forEachPlayer (Room.tickPlayer (r.simulationDelta deltaSeconds))).forEachPlayer
            respawn with sideScores := r.scoresAfter collisionTime } := by
  have hcollision : r.tickCollision deltaSeconds = findPlayerCollisionTimeDuringTick
      first.2.state second.2.state (r.simulationDelta deltaSeconds) := by
    unfold Room.tickCollision
    rw [hplayers]
  have hlist : Room.findPlayerCollisions (r.simulationDelta deltaSeconds) r.players =
      ((r.tickCollision deltaSeconds).map fun collisionTime =>
        (⟨collisionTime, first.1, second.1⟩ : Room.PlayerCollision K)).toList := by
    rw [hplayers, hcollision]
    simp only [Room.findPlayerCollisions, Room.collisionsWith, List.filterMap_cons,
      List.filterMap_nil, List.append_nil]
    cases findPlayerCollisionTimeDuringTick first.2.state second.2.state
      (r.simulationDelta deltaSeconds) <;> rfl
  unfold Room.simulate
  rw [hlist]
  cases r.tickCollision deltaSeconds with
  | none => rfl
  | some collisionTime =>
      have hmoved : (r.forEachPlayer (Room.tickPlayer (r.simulationDelta deltaSeconds))).players =
          [(first.1, { first.2 with
            state := Room.tickPlayer (r.simulationDelta deltaSeconds) first.2.state }),
          (second.1, { second.2 with
            state := Room.tickPlayer (r.simulationDelta deltaSeconds) second.2.state })] := by
        unfold Room.forEachPlayer
        rw [hplayers]
        rfl
      show Room.resolveCollision _ _ = _
      rw [Room.resolveCollision_eq, respawn_both hmoved hkeys]
      rfl

end TwoPlayers

end NetworkArena.Server
