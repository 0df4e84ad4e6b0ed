/-
# NetworkArena.Client.Interpolation -- where players are drawn between two snapshots

The players are drawn as they were 64 ms ago. `UpdateWorldStateInterpolationSelection` looks for two
neighbouring snapshots that came before and after that time, and `ApplyInterpolatedPlayerStates`
moves the players between them. Snapshots may have come at the same time, so the interval between
the two can be empty.
-/
import NetworkArena.Client.PlayerRendering
import Mathlib.Tactic.FieldSimp
import Mathlib.Tactic.Linarith
import Mathlib.Tactic.Positivity

namespace NetworkArena.Client

open NetworkArena.Foundation
open NetworkArena.Shared

/-! ## The interval -/

/-- Two neighbours of the queue came before and after a time, and the ratio is where between them it
lies. -/
structure Brackets (snapshots : List BufferedWorldStateSnapshot) (renderTime : ℤ)
    (selection : WorldStateInterpolationSelection)
    (previous next : BufferedWorldStateSnapshot) : Prop where
  neighbours : selection.nextSnapshotIndex = selection.previousSnapshotIndex + 1
  previousAt : snapshots[selection.previousSnapshotIndex]? = some previous
  nextAt : snapshots[selection.nextSnapshotIndex]? = some next
  after : previous.receivedAt ≤ renderTime
  before : renderTime ≤ next.receivedAt
  alpha_nonneg : 0 ≤ selection.alpha
  alpha_le_one : selection.alpha ≤ 1
  time : (previous.receivedAt : ℚ) +
    selection.alpha * ((next.receivedAt : ℚ) - previous.receivedAt) = renderTime

namespace InterpolatingApplication

theorem seconds_pos {earlier later : ℤ} : 0 < seconds earlier later ↔ earlier < later := by
  have hdifference : (0 : ℚ) < ((later - earlier : ℤ) : ℚ) ↔ earlier < later := by
    rw [Int.cast_pos, sub_pos]
  rw [← hdifference, seconds]
  constructor
  · intro h
    by_contra hle
    exact absurd h (not_lt.mpr (div_nonpos_of_nonpos_of_nonneg (not_lt.mp hle) (by norm_num)))
  · intro h
    exact div_pos h (by norm_num)

/-- The ratio of a time inside an interval, which may be empty. -/
theorem alpha_spec {previous next renderTime : ℤ} (hprevious : previous ≤ renderTime)
    (hnext : renderTime ≤ next) :
    let alpha : ℚ :=
      if seconds previous next > 0 then
        max 0 (min (seconds previous renderTime / seconds previous next) 1)
      else 1
    0 ≤ alpha ∧ alpha ≤ 1 ∧ (previous : ℚ) + alpha * ((next : ℚ) - previous) = renderTime := by
  dsimp only
  by_cases hinterval : seconds previous next > 0
  · rw [if_pos hinterval]
    have hlt : (previous : ℚ) < next := Int.cast_lt.mpr (seconds_pos.mp hinterval)
    have hpos : (0 : ℚ) < next - previous := sub_pos.mpr hlt
    have hafter : (previous : ℚ) ≤ renderTime := Int.cast_le.mpr hprevious
    have hbefore : (renderTime : ℚ) ≤ next := Int.cast_le.mpr hnext
    have hratio : seconds previous renderTime / seconds previous next =
        ((renderTime : ℚ) - previous) / (next - previous) := by
      unfold seconds
      push_cast
      field_simp
    have hnonneg : 0 ≤ ((renderTime : ℚ) - previous) / (next - previous) :=
      div_nonneg (sub_nonneg.mpr hafter) hpos.le
    have hle : ((renderTime : ℚ) - previous) / (next - previous) ≤ 1 := by
      rw [div_le_one hpos]
      exact sub_le_sub_right hbefore _
    rw [hratio, min_eq_left hle, max_eq_right hnonneg]
    refine ⟨hnonneg, hle, ?_⟩
    rw [div_mul_cancel₀ _ hpos.ne']
    ring
  · rw [if_neg hinterval]
    -- the interval is empty, so all three times are the same
    have hle : next ≤ previous := not_lt.mp fun hlt => hinterval (seconds_pos.mpr hlt)
    obtain rfl : previous = renderTime := by omega
    obtain rfl : previous = next := by omega
    refine ⟨by norm_num, by norm_num, ?_⟩
    ring

/-- **What the search finds** brackets the time. The queue has `index - 1` snapshots before those
that are searched. -/
theorem selectInterpolation_brackets {renderTime : ℤ} {index : ℕ} (hindex : 0 < index)
    {earlier snapshots : List BufferedWorldStateSnapshot} (hearlier : earlier.length + 1 = index)
    (hvalid : (selectInterpolation renderTime index snapshots).isValid = true) :
    ∃ previous next, Brackets (earlier ++ snapshots) renderTime
      (selectInterpolation renderTime index snapshots) previous next := by
  induction snapshots generalizing index earlier with
  | nil => cases hvalid
  | cons previous snapshots ih =>
      cases snapshots with
      | nil => cases hvalid
      | cons next snapshots =>
          unfold selectInterpolation at hvalid ⊢
          by_cases houtside : renderTime < previous.receivedAt ∨ renderTime > next.receivedAt
          · rw [if_pos houtside] at hvalid ⊢
            have hsplit : earlier ++ previous :: next :: snapshots =
                (earlier ++ [previous]) ++ next :: snapshots := by simp
            rw [hsplit]
            exact ih (Nat.succ_pos _) (by simp [hearlier]) hvalid
          · rw [if_neg houtside]
            rw [not_or, not_lt, gt_iff_lt, not_lt] at houtside
            obtain ⟨hnonneg, hle, htime⟩ := alpha_spec houtside.1 houtside.2
            have hprevious : index - 1 = earlier.length := by omega
            refine ⟨previous, next, ?_, ?_, ?_, houtside.1, houtside.2, hnonneg, hle, htime⟩
            · dsimp only
              omega
            · dsimp only
              rw [hprevious, List.getElem?_append_right (le_refl _), Nat.sub_self]
              rfl
            · dsimp only
              have hone : index - earlier.length = 1 := by omega
              rw [List.getElem?_append_right (by omega), hone]
              rfl

/-- **The search succeeds** for every time between the first snapshot and the last one, in whatever
order those between came. -/
theorem selectInterpolation_succeeds {renderTime : ℤ} (index : ℕ)
    (first : BufferedWorldStateSnapshot) (middle : List BufferedWorldStateSnapshot)
    (last : BufferedWorldStateSnapshot) (hfirst : first.receivedAt ≤ renderTime)
    (hlast : renderTime ≤ last.receivedAt) :
    (selectInterpolation renderTime index (first :: (middle ++ [last]))).isValid = true := by
  induction middle generalizing index first with
  | nil =>
      show (if renderTime < first.receivedAt ∨ renderTime > last.receivedAt then _
        else _ : WorldStateInterpolationSelection).isValid = true
      rw [if_neg (not_or.mpr ⟨not_lt.mpr hfirst, not_lt.mpr hlast⟩)]
  | cons next middle ih =>
      show (if renderTime < first.receivedAt ∨ renderTime > next.receivedAt then
        selectInterpolation renderTime (index + 1) (next :: (middle ++ [last]))
        else _ : WorldStateInterpolationSelection).isValid = true
      by_cases hnext : renderTime ≤ next.receivedAt
      · rw [if_neg (not_or.mpr ⟨not_lt.mpr hfirst, not_lt.mpr hnext⟩)]
      · rw [if_pos (Or.inr (not_le.mp hnext))]
        exact ih (index + 1) next (not_le.mp hnext).le

/-- **The selection is valid** exactly for the times between the first snapshot and the last one. -/
theorem selection_valid_iff {v : InterpolatingApplication} (now : ℤ)
    {first last : BufferedWorldStateSnapshot} {middle : List BufferedWorldStateSnapshot}
    (hhistory : v.worldStateSnapshotHistory = first :: (middle ++ [last]))
    (htimes : v.worldStateSnapshotHistory.Pairwise fun earlier later =>
      earlier.receivedAt ≤ later.receivedAt) :
    ((v.updateWorldStateInterpolationSelection now).worldStateInterpolationSelection.isValid =
          true ↔
        first.receivedAt ≤ now - worldStateInterpolationDelayNanoseconds ∧
          now - worldStateInterpolationDelayNanoseconds ≤ last.receivedAt) ∧
      ((v.updateWorldStateInterpolationSelection now).worldStateInterpolationSelection.isValid =
          true → ∃ previous next, Brackets v.worldStateSnapshotHistory
        (now - worldStateInterpolationDelayNanoseconds)
        (v.updateWorldStateInterpolationSelection now).worldStateInterpolationSelection
        previous next) := by
  have hmany : ¬ v.worldStateSnapshotHistory.length < 2 := by
    rw [hhistory]
    simp
  unfold updateWorldStateInterpolationSelection
  dsimp only
  rw [if_neg hmany]
  have hbrackets : (selectInterpolation (now - worldStateInterpolationDelayNanoseconds) 1
      v.worldStateSnapshotHistory).isValid = true → ∃ previous next,
        Brackets ([] ++ v.worldStateSnapshotHistory)
          (now - worldStateInterpolationDelayNanoseconds)
          (selectInterpolation (now - worldStateInterpolationDelayNanoseconds) 1
            v.worldStateSnapshotHistory) previous next :=
    selectInterpolation_brackets Nat.one_pos rfl
  refine ⟨⟨fun hvalid => ?_, fun hbetween => ?_⟩, hbrackets⟩
  · obtain ⟨previous, next, h⟩ := hbrackets hvalid
    have hprevious := List.mem_of_getElem? h.previousAt
    have hnext := List.mem_of_getElem? h.nextAt
    rw [List.nil_append, hhistory] at hprevious hnext
    rw [hhistory] at htimes
    -- the bracket lies in the queue, and the queue is in the order of arrival
    have hfirst : first.receivedAt ≤ previous.receivedAt := by
      rcases List.mem_cons.mp hprevious with rfl | hin
      · exact le_refl _
      · exact (List.pairwise_cons.mp htimes).1 previous hin
    have hlast : next.receivedAt ≤ last.receivedAt := by
      rw [← List.cons_append] at hnext htimes
      rcases List.mem_append.mp hnext with hin | hin
      · exact (List.pairwise_append.mp htimes).2.2 next hin last (List.mem_singleton_self _)
      · rw [List.mem_singleton.mp hin]
    exact ⟨hfirst.trans h.after, h.before.trans hlast⟩
  · rw [hhistory]
    exact selectInterpolation_succeeds 1 first middle last hbetween.1 hbetween.2

end InterpolatingApplication

/-! ## The players -/

/-- A position inside a box. -/
structure InBox (low high position : Float3) : Prop where
  lowX : low.x ≤ position.x
  highX : position.x ≤ high.x
  lowY : low.y ≤ position.y
  highY : position.y ≤ high.y
  lowZ : low.z ≤ position.z
  highZ : position.z ≤ high.z

/-- The position a snapshot shows. -/
def positionOf (player : PlayerStateSnapshot FloatBits) : Float3 :=
  ⟨exactValue player.positionX, exactValue player.positionY, exactValue player.positionZ⟩

/-- The player a snapshot shows under an id. -/
def playerOf (worldState : WorldStateSnapshot FloatBits) (playerId : PlayerId) :
    Option (PlayerStateSnapshot FloatBits) :=
  worldState.players.find? fun player => player.playerId = playerId

/-- A coordinate on the line between two values, at a ratio between 0 and 1. -/
structure OnLine (alpha previous next x : ℚ) : Prop where
  eq : x = previous + alpha * (next - previous)
  low : min previous next ≤ x
  high : x ≤ max previous next

/-- What is drawn of an entry: if both snapshots show its player, it stands between the two
positions, and otherwise where it stood before. -/
structure Drawn (previous next : WorldStateSnapshot FloatBits) (alpha : ℚ)
    (entry entry' : PlayerRenderEntry) : Prop where
  player : RenderingApplication.shown entry' = RenderingApplication.shown entry
  moved : ∀ p q, playerOf previous entry.playerId = some p → playerOf next entry.playerId = some q →
    OnLine alpha (positionOf p).x (positionOf q).x entry'.renderObject.transform.position.x ∧
      OnLine alpha (positionOf p).y (positionOf q).y entry'.renderObject.transform.position.y ∧
      OnLine alpha (positionOf p).z (positionOf q).z entry'.renderObject.transform.position.z ∧
      ∀ low high, InBox low high (positionOf p) → InBox low high (positionOf q) →
        InBox low high entry'.renderObject.transform.position
  unmoved : playerOf previous entry.playerId = none ∨ playerOf next entry.playerId = none →
    entry' = entry

theorem onLine_interpolate {alpha : ℚ} (hnonneg : 0 ≤ alpha) (hle : alpha ≤ 1)
    (previous next : FloatBits) :
    OnLine alpha (exactValue previous) (exactValue next) (interpolate alpha previous next) := by
  -- a mean of the two values, with weights that are not negative
  have hweights : interpolate alpha previous next =
      (1 - alpha) * exactValue previous + alpha * exactValue next := by
    unfold interpolate
    ring
  have hrest : 0 ≤ 1 - alpha := sub_nonneg.mpr hle
  refine ⟨by rw [interpolate, mul_comm], ?_, ?_⟩
  · have hprevious := mul_le_mul_of_nonneg_left
      (min_le_left (exactValue previous) (exactValue next)) hrest
    have hnext := mul_le_mul_of_nonneg_left
      (min_le_right (exactValue previous) (exactValue next)) hnonneg
    rw [hweights]
    linarith
  · have hprevious := mul_le_mul_of_nonneg_left
      (le_max_left (exactValue previous) (exactValue next)) hrest
    have hnext := mul_le_mul_of_nonneg_left
      (le_max_right (exactValue previous) (exactValue next)) hnonneg
    rw [hweights]
    linarith

theorem OnLine.inside {alpha previous next x low high : ℚ} (h : OnLine alpha previous next x)
    (hlow : low ≤ previous) (hlow' : low ≤ next) (hhigh : previous ≤ high) (hhigh' : next ≤ high) :
    low ≤ x ∧ x ≤ high :=
  ⟨(le_min hlow hlow').trans h.low, h.high.trans (max_le hhigh hhigh')⟩

/-- Turning an entry does not move it. -/
theorem position_interpolatePlayer (atan2 : ℚ → ℚ → ℚ) (alpha : ℚ)
    (p q : PlayerStateSnapshot FloatBits) (entry : PlayerRenderEntry) :
    (interpolatePlayer atan2 alpha p q entry).renderObject.transform.position =
      ⟨interpolate alpha p.positionX q.positionX, interpolate alpha p.positionY q.positionY,
        interpolate alpha p.positionZ q.positionZ⟩ := by
  unfold interpolatePlayer
  dsimp only
  split
  · rfl
  · split
    · rfl
    · split <;> rfl

theorem drawn_interpolateEntry (atan2 : ℚ → ℚ → ℚ) {alpha : ℚ} (hnonneg : 0 ≤ alpha)
    (hle : alpha ≤ 1) (previous next : WorldStateSnapshot FloatBits) (entry : PlayerRenderEntry) :
    Drawn previous next alpha entry (interpolateEntry atan2 alpha previous next entry) := by
  refine ⟨RenderingApplication.shown_interpolateEntry _ _ _ _, ?_, ?_⟩
  · intro p q hp hq
    have hentry : interpolateEntry atan2 alpha previous next entry =
        interpolatePlayer atan2 alpha p q entry := by
      unfold interpolateEntry
      unfold playerOf at hp hq
      rw [hp, hq]
    rw [hentry, position_interpolatePlayer]
    have hx := onLine_interpolate hnonneg hle p.positionX q.positionX
    have hy := onLine_interpolate hnonneg hle p.positionY q.positionY
    have hz := onLine_interpolate hnonneg hle p.positionZ q.positionZ
    refine ⟨hx, hy, hz, fun low high hinP hinQ => ?_⟩
    obtain ⟨hlowX, hhighX⟩ := hx.inside hinP.lowX hinQ.lowX hinP.highX hinQ.highX
    obtain ⟨hlowY, hhighY⟩ := hy.inside hinP.lowY hinQ.lowY hinP.highY hinQ.highY
    obtain ⟨hlowZ, hhighZ⟩ := hz.inside hinP.lowZ hinQ.lowZ hinP.highZ hinQ.highZ
    exact ⟨hlowX, hhighX, hlowY, hhighY, hlowZ, hhighZ⟩
  · intro hmissing
    unfold playerOf at hmissing
    unfold interpolateEntry
    rcases hmissing with hnone | hnone
    · rw [hnone]
    · rw [hnone]
      split <;> simp_all

namespace RenderingApplication

/-- **What is drawn** from a valid selection, and from one that is not. -/
theorem applyInterpolatedPlayerStates_spec (atan2 : ℚ → ℚ → ℚ) (r : RenderingApplication) :
    (∀ renderTime previous next, r.interpolating.worldStateInterpolationSelection.isValid = true →
      Brackets r.interpolating.worldStateSnapshotHistory renderTime
          r.interpolating.worldStateInterpolationSelection previous next →
        ∃ entries, r.applyInterpolatedPlayerStates atan2 =
            .ok { r with playerRenderEntries := entries } ∧
          List.Forall₂ (Drawn previous.worldState next.worldState
            r.interpolating.worldStateInterpolationSelection.alpha) r.playerRenderEntries
              entries) ∧
      (r.interpolating.worldStateInterpolationSelection.isValid = false →
        r.applyInterpolatedPlayerStates atan2 = .ok r) := by
  unfold applyInterpolatedPlayerStates InterpolatingApplication.applyInterpolatedPlayerStates
  dsimp only
  constructor
  · intro renderTime previous next hvalid hbrackets
    simp only [hvalid, Bool.not_true, Bool.false_eq_true, if_false, Span.readAt,
      hbrackets.previousAt, hbrackets.nextAt]
    refine ⟨_, rfl, List.forall₂_map_right_iff.mpr ?_⟩
    rw [List.forall₂_same]
    intro entry _
    exact drawn_interpolateEntry atan2 hbrackets.alpha_nonneg
      hbrackets.alpha_le_one _ _ entry
  · intro hinvalid
    simp only [hinvalid, Bool.not_false, if_true]
    rfl

/-- **Interpolation brackets the render time.** For a queue of at least two snapshots in the order
in which they came, the selection is valid exactly if the time that is drawn lies between the first
and the last of them. Then it is of two neighbours around this time, every entry whose player is in
both stands between its two positions, and all others stay where they are, as all do otherwise. -/
theorem interpolation_brackets_render_time (atan2 : ℚ → ℚ → ℚ) (r : RenderingApplication) (now : ℤ)
    (first last : BufferedWorldStateSnapshot) (middle : List BufferedWorldStateSnapshot)
    (hhistory : r.interpolating.worldStateSnapshotHistory = first :: (middle ++ [last]))
    (htimes : r.interpolating.worldStateSnapshotHistory.Pairwise fun earlier later =>
      earlier.receivedAt ≤ later.receivedAt) :
    let renderTime := now - worldStateInterpolationDelayNanoseconds
    let r₁ := r.updateWorldStateInterpolationSelection now
    let selection := r₁.interpolating.worldStateInterpolationSelection
    (selection.isValid = true ↔
      first.receivedAt ≤ renderTime ∧ renderTime ≤ last.receivedAt) ∧
    (selection.isValid = true → ∃ previous next entries,
      Brackets r.interpolating.worldStateSnapshotHistory renderTime selection previous next ∧
        r₁.applyInterpolatedPlayerStates atan2 = .ok { r₁ with playerRenderEntries := entries } ∧
        List.Forall₂ (Drawn previous.worldState next.worldState selection.alpha)
          r.playerRenderEntries entries) ∧
    (selection.isValid = false → r₁.applyInterpolatedPlayerStates atan2 = .ok r₁) := by
  dsimp only
  obtain ⟨hiff, hbrackets⟩ := InterpolatingApplication.selection_valid_iff now hhistory htimes
  obtain ⟨hdrawn, hleft⟩ := applyInterpolatedPlayerStates_spec atan2
    (r.updateWorldStateInterpolationSelection now)
  refine ⟨hiff, fun hvalid => ?_, hleft⟩
  obtain ⟨previous, next, hbracket⟩ := hbrackets hvalid
  obtain ⟨entries, happly, hentries⟩ := hdrawn _ previous next hvalid hbracket
  exact ⟨previous, next, entries, hbracket, happly, hentries⟩

/-- Player 7 has moved from 1.0 to 2.0 in 100 ms, and player 8 has come. -/
def oneHasMoved : RenderingApplication where
  interpolating.worldStateSnapshotHistory := [
    ⟨{ WorldStateSnapshot.default with
      players := [⟨7, .flame, ⟨0x3F800000⟩, .zero, .zero, .zero, .zero⟩] }, 0⟩,
    ⟨{ WorldStateSnapshot.default with
      players := [⟨7, .flame, ⟨0x40000000⟩, .zero, .zero, .zero, .zero⟩,
        ⟨8, .frost, ⟨0x40000000⟩, .zero, .zero, .zero, .zero⟩] }, 100000000⟩]
  playerRenderEntries := [⟨7, {}⟩, ⟨8, {}⟩]

theorem interpolation_brackets_render_time_quarter :
    let r₁ := oneHasMoved.updateWorldStateInterpolationSelection 89000000
    r₁.interpolating.worldStateInterpolationSelection.isValid = true ∧
      ∃ entries, r₁.applyInterpolatedPlayerStates (fun _ _ => 0) =
          .ok { r₁ with playerRenderEntries := entries } ∧
        entries.map (fun entry => (entry.playerId, entry.renderObject.transform.position.x)) =
          [(7, 5 / 4), (8, 0)] := by
  dsimp only
  obtain ⟨hiff, hdrawn, -⟩ := interpolation_brackets_render_time (fun _ _ => 0) oneHasMoved 89000000
    _ _ [] rfl (by decide)
  have hvalid := hiff.mpr (by decide)
  obtain ⟨previous, next, entries, -, happly, -⟩ := hdrawn hvalid
  refine ⟨hvalid, entries, happly, ?_⟩
  have hpositions : ((oneHasMoved.updateWorldStateInterpolationSelection
      89000000).applyInterpolatedPlayerStates (fun _ _ => 0)).map (fun r : RenderingApplication =>
        r.playerRenderEntries.map fun entry =>
          (entry.playerId, entry.renderObject.transform.position.x)) =
      .ok [(7, 5 / 4), (8, 0)] := by decide +kernel
  rw [happly] at hpositions
  exact Except.ok.inj hpositions

end RenderingApplication

end NetworkArena.Client
