/-
# NetworkArena.Client.SnapshotHistory -- the snapshots the application interpolates between

Beside the game state, the application keeps the snapshots it has applied, with the times at which
they came, and the pair of them that the last `Update` has chosen to draw from. Five handlers change
these three, and what is chosen is a pair of indices into a queue that loses elements at its front.

`InterpolatingApplication` adds the queue and the choice to the application of
`ClientApplication.lean` (`handle_application`). A read of the queue is checked, so that a run that
reads beside it has no result. What is drawn from the chosen pair is left out.
-/
import NetworkArena.Client.ClientApplication
import Mathlib.Algebra.Order.Ring.Rat
import Mathlib.Data.Rat.Defs

namespace NetworkArena.Client

open NetworkArena.Foundation
open NetworkArena.Shared

/-! ## A queue that forgets -/

section Queue

variable {α : Type*}

/-- Append an element, and drop the first one if the queue is over its capacity. -/
def pushBounded (capacity : ℕ) (queue : List α) (item : α) : List α :=
  let queue := queue ++ [item]
  if queue.length > capacity then queue.tail else queue

/-- What is left is the end of the queue and the new element. -/
theorem pushBounded_eq {capacity : ℕ} (hcapacity : 0 < capacity) {queue : List α}
    (hfew : queue.length ≤ capacity) (item : α) :
    ∃ kept, pushBounded capacity queue item = kept ++ [item] ∧ kept <:+ queue ∧
      (kept ++ [item]).length ≤ capacity := by
  unfold pushBounded
  dsimp only
  split
  · next hover =>
      cases queue with
      | nil =>
          simp only [List.nil_append, List.length_singleton] at hover
          omega
      | cons first queue =>
          refine ⟨queue, rfl, List.suffix_cons first queue, ?_⟩
          simpa using hfew
  · next hunder => exact ⟨queue, rfl, List.suffix_refl queue, not_lt.mp hunder⟩

/-- In an ordered list, nothing comes after the last element. -/
theorem pairwise_getLast {R : α → α → Prop} {l : List α} (h : l.Pairwise R) (hne : l ≠ []) {a : α}
    (ha : a ∈ l) : a = l.getLast hne ∨ R a (l.getLast hne) := by
  rw [← List.dropLast_append_getLast hne] at h ha
  rcases List.mem_append.mp ha with hbefore | hlast
  · exact Or.inr ((List.pairwise_append.mp h).2.2 a hbefore _ (List.mem_singleton_self _))
  · exact Or.inl (List.mem_singleton.mp hlast)

end Queue

/-! ## The application -/

/-- `receivedAt` counts the nanoseconds of the steady clock. -/
structure BufferedWorldStateSnapshot where
  worldState : WorldStateSnapshot FloatBits
  receivedAt : ℤ
  deriving DecidableEq, Repr

structure WorldStateInterpolationSelection where
  previousSnapshotIndex : ℕ := 0
  nextSnapshotIndex : ℕ := 0
  alpha : ℚ := 0
  isValid : Bool := false
  deriving DecidableEq, Repr

def maxWorldStateSnapshotHistorySize : ℕ := 32

/-- `WorldStateInterpolationDelay`, 64 ms. -/
def worldStateInterpolationDelayNanoseconds : ℤ := 64000000

structure InterpolatingApplication where
  application : ClientApplication := {}
  worldStateSnapshotHistory : List BufferedWorldStateSnapshot := []
  worldStateInterpolationSelection : WorldStateInterpolationSelection := {}
  deriving DecidableEq, Repr

namespace InterpolatingApplication

/-! ## What the callbacks do -/

/-- The state of an application without a connection. -/
def forget (v : InterpolatingApplication) : InterpolatingApplication :=
  { application := v.application.forget }

def handlePlayerIdentity (identity : PlayerIdentityPayload) (v : InterpolatingApplication) :
    InterpolatingApplication :=
  let (applied, _) := v.application.clientGameState.applyPlayerIdentity identity
  let application := v.application.handlePlayerIdentity identity
  if !applied then { v with application }
  else
    { application
      worldStateSnapshotHistory := []
      worldStateInterpolationSelection := {} }

def handleWorldStateSnapshot (snapshot : WorldStateSnapshot FloatBits) (generation : ℕ) (now : ℤ)
    (v : InterpolatingApplication) : InterpolatingApplication :=
  let (applied, clientGameState) := v.application.clientGameState.applyWorldStateSnapshot snapshot
  let application := v.application.handleWorldStateSnapshot snapshot generation
  if !applied then { v with application }
  else
    match clientGameState.worldState with
    | none => { v with application }
    | some worldState =>
      { v with
        application
        worldStateSnapshotHistory := pushBounded maxWorldStateSnapshotHistorySize
          v.worldStateSnapshotHistory ⟨worldState, now⟩ }

/-- What the callbacks given to `Connect` do, at a given time. -/
def handle (generation : ℕ) (now : ℤ) (v : InterpolatingApplication) :
    Invocation → InterpolatingApplication
  | .connected => v
  | .connectionFailed _ => v.forget
  | .disconnected _ => v.forget
  | .playerIdentity identity => v.handlePlayerIdentity identity
  | .worldStateSnapshot snapshot => v.handleWorldStateSnapshot snapshot generation now

/-! ## Update -/

/-- The seconds between two times. -/
def seconds (earlier later : ℤ) : ℚ := ((later - earlier : ℤ) : ℚ) / 1000000000

/-- The loop of `UpdateWorldStateInterpolationSelection`, from the snapshot before a given index
on. -/
def selectInterpolation (renderTime : ℤ) :
    ℕ → List BufferedWorldStateSnapshot → WorldStateInterpolationSelection
  | index, previousSnapshot :: nextSnapshot :: snapshots =>
    if renderTime < previousSnapshot.receivedAt ∨ renderTime > nextSnapshot.receivedAt then
      selectInterpolation renderTime (index + 1) (nextSnapshot :: snapshots)
    else
      let snapshotIntervalSeconds := seconds previousSnapshot.receivedAt nextSnapshot.receivedAt
      let alpha :=
        if snapshotIntervalSeconds > 0 then
          let elapsedSeconds := seconds previousSnapshot.receivedAt renderTime
          max 0 (min (elapsedSeconds / snapshotIntervalSeconds) 1)
        else 1
      ⟨index - 1, index, alpha, true⟩
  | _, _ => {}

def updateWorldStateInterpolationSelection (now : ℤ) (v : InterpolatingApplication) :
    InterpolatingApplication :=
  { v with
    worldStateInterpolationSelection :=
      if v.worldStateSnapshotHistory.length < 2 then {}
      else
        selectInterpolation (now - worldStateInterpolationDelayNanoseconds) 1
          v.worldStateSnapshotHistory }

/-- The two snapshots that `ApplyInterpolatedPlayerStates` draws from, and the ratio. -/
def applyInterpolatedPlayerStates (v : InterpolatingApplication) :
    Checked (Option (WorldStateSnapshot FloatBits × WorldStateSnapshot FloatBits × ℚ)) :=
  let selection := v.worldStateInterpolationSelection
  if !selection.isValid then return none
  else do
    let previous ← Span.readAt v.worldStateSnapshotHistory selection.previousSnapshotIndex
    let next ← Span.readAt v.worldStateSnapshotHistory selection.nextSnapshotIndex
    return some (previous.worldState, next.worldState, selection.alpha)

/-- The part of `Update` between the probe of the round trip time and the input. -/
def interpolate (now : ℤ) (v : InterpolatingApplication) : Checked InterpolatingApplication :=
  if v.application.clientGameState.playerIdentity.isNone then return v
  else do
    let v := v.updateWorldStateInterpolationSelection now
    let _ ← v.applyInterpolatedPlayerStates
    return v

def update (clock : ℕ → UInt64) (keys : Keys) (now : ℤ) (c : NetworkClient)
    (v : InterpolatingApplication) : Checked (NetworkClient × InterpolatingApplication) := do
  let (c, application) := ClientApplication.probeRtt clock c v.application
  let v ← interpolate now { v with application }
  let (refused, c, application) := ClientApplication.submitPlayerInput keys c v.application
  return (c, { v with
    application :=
      if refused then application
      else { application with settledTick := application.playingTick } })

/-! ## Runs -/

/-- A callback, an `Update` next to a client in some state, or `Shutdown`. -/
inductive Event where
  | invoke (generation : ℕ) (invocation : Invocation)
  | update (clock : ℕ → UInt64) (keys : Keys) (c : NetworkClient)
  | shutdown

/-- What an event does at a given time. -/
def step (v : InterpolatingApplication) : ℤ × Event → Checked InterpolatingApplication
  | (now, .invoke generation invocation) => return v.handle generation now invocation
  | (now, .update clock keys c) => return (← v.update clock keys now c).2
  | (_, .shutdown) => return v.forget

/-- The application after some events, with the times at which they happened. -/
def run (v : InterpolatingApplication) (events : List (ℤ × Event)) :
    Checked InterpolatingApplication :=
  events.foldlM step v

/-! ## The application underneath -/

/-- The callbacks do to the application what they did without the history. -/
theorem handle_application (generation : ℕ) (now : ℤ) (v : InterpolatingApplication)
    (invocation : Invocation) :
    (v.handle generation now invocation).application =
      v.application.handle generation invocation := by
  cases invocation with
  | connected | connectionFailed error | disconnected error => rfl
  | playerIdentity identity =>
      simp only [handle, handlePlayerIdentity, ClientApplication.handle]
      split <;> rfl
  | worldStateSnapshot snapshot =>
      simp only [handle, handleWorldStateSnapshot, ClientApplication.handle]
      split
      · rfl
      · split <;> rfl

/-! ## What is chosen is in the queue -/

theorem selectInterpolation_inside (renderTime : ℤ) (snapshots : List BufferedWorldStateSnapshot)
    {index : ℕ} (hindex : 0 < index)
    (hvalid : (selectInterpolation renderTime index snapshots).isValid = true) :
    (selectInterpolation renderTime index snapshots).previousSnapshotIndex + 1 =
        (selectInterpolation renderTime index snapshots).nextSnapshotIndex ∧
      (selectInterpolation renderTime index snapshots).nextSnapshotIndex + 1 <
        index + snapshots.length := by
  induction snapshots generalizing index with
  | nil => cases hvalid
  | cons previous snapshots ih =>
      cases snapshots with
      | nil => cases hvalid
      | cons next snapshots =>
          unfold selectInterpolation at hvalid ⊢
          split
          · next houtside =>
              rw [if_pos houtside] at hvalid
              obtain ⟨hneighbours, hinside⟩ := ih (show 0 < index + 1 by omega) hvalid
              refine ⟨hneighbours, ?_⟩
              simp only [List.length_cons] at hinside ⊢
              omega
          · simp only [List.length_cons]
            omega

/-- **A valid choice** is of two neighbours in the queue. -/
theorem selection_inside (v : InterpolatingApplication) (now : ℤ)
    (hvalid :
      (v.updateWorldStateInterpolationSelection now).worldStateInterpolationSelection.isValid
      = true) :
    (v.updateWorldStateInterpolationSelection
        now).worldStateInterpolationSelection.previousSnapshotIndex + 1 =
      (v.updateWorldStateInterpolationSelection
        now).worldStateInterpolationSelection.nextSnapshotIndex ∧
    (v.updateWorldStateInterpolationSelection
        now).worldStateInterpolationSelection.nextSnapshotIndex <
      (v.updateWorldStateInterpolationSelection now).worldStateSnapshotHistory.length := by
  unfold updateWorldStateInterpolationSelection at hvalid ⊢
  dsimp only at hvalid ⊢
  split
  · next hfew =>
      rw [if_pos hfew] at hvalid
      cases hvalid
  · next hmany =>
      rw [if_neg hmany] at hvalid
      obtain ⟨hneighbours, hinside⟩ := selectInterpolation_inside _ _ Nat.one_pos hvalid
      refine ⟨hneighbours, ?_⟩
      omega

/-- What is drawn is read from inside the queue. -/
theorem interpolate_ok (v : InterpolatingApplication) (now : ℤ) :
    ∃ v', v.interpolate now = .ok v' ∧ v'.application = v.application ∧
      v'.worldStateSnapshotHistory = v.worldStateSnapshotHistory := by
  unfold interpolate
  split
  · exact ⟨v, rfl, rfl, rfl⟩
  have happly :
      (v.updateWorldStateInterpolationSelection now).applyInterpolatedPlayerStates.InBounds
      := by
    have hinside := v.selection_inside now
    generalize v.updateWorldStateInterpolationSelection now = v₁ at hinside
    unfold applyInterpolatedPlayerStates
    dsimp only
    split
    · exact ⟨none, rfl⟩
    · next hvalid =>
        obtain ⟨hneighbours, hnext⟩ := hinside (by simpa using hvalid)
        have hprevious : v₁.worldStateInterpolationSelection.previousSnapshotIndex <
            v₁.worldStateSnapshotHistory.length := by omega
        simp only [Span.readAt, List.getElem?_eq_getElem hnext, List.getElem?_eq_getElem hprevious]
        exact ⟨_, rfl⟩
  obtain ⟨drawn, hdrawn⟩ := happly
  refine ⟨v.updateWorldStateInterpolationSelection now, ?_, rfl, rfl⟩
  dsimp only
  rw [hdrawn]
  rfl

/-- **`Update`** does to the application what it did without the history, and nothing to the
history. -/
theorem update_ok (clock : ℕ → UInt64) (keys : Keys) (now : ℤ) (c : NetworkClient)
    (v : InterpolatingApplication) :
    ∃ v', v.update clock keys now c =
        .ok ((ClientApplication.update clock keys c v.application).1, v') ∧
      v'.application = (ClientApplication.update clock keys c v.application).2 ∧
      v'.worldStateSnapshotHistory = v.worldStateSnapshotHistory := by
  unfold update ClientApplication.update
  obtain ⟨c₁, application⟩ := ClientApplication.probeRtt clock c v.application
  obtain ⟨v₁, hinterpolate, happlication, hhistory⟩ := interpolate_ok { v with application } now
  dsimp only at happlication hhistory ⊢
  rw [hinterpolate, Checked.ok_bind, happlication]
  exact ⟨_, rfl, rfl, hhistory⟩

end InterpolatingApplication

/-! ## The invariant -/

namespace InterpolatingApplication

/-- The queue is short, in order, of the room the player is in, and up to date with the game
state. -/
structure HistoryKept (v : InterpolatingApplication) : Prop where
  few : v.worldStateSnapshotHistory.length ≤ 32
  ticks : v.worldStateSnapshotHistory.Pairwise fun earlier later =>
    earlier.worldState.serverTick < later.worldState.serverTick
  times : v.worldStateSnapshotHistory.Pairwise fun earlier later =>
    earlier.receivedAt ≤ later.receivedAt
  room : ∀ identity, v.application.clientGameState.playerIdentity = some identity →
    ∀ entry ∈ v.worldStateSnapshotHistory, entry.worldState.roomId = identity.roomId
  nonempty : v.worldStateSnapshotHistory ≠ [] ↔
    v.application.clientGameState.worldState.isSome = true
  latest : ∀ hne : v.worldStateSnapshotHistory ≠ [],
    v.application.clientGameState.worldState =
      some (v.worldStateSnapshotHistory.getLast hne).worldState
  identified : v.application.clientGameState.playerIdentity = none →
    v.worldStateSnapshotHistory = [] ∧ v.application.clientGameState.worldState = none

/-- The invariant at a given time. -/
structure KeptAt (now : ℤ) (v : InterpolatingApplication) : Prop where
  kept : HistoryKept v
  past : ∀ entry ∈ v.worldStateSnapshotHistory, entry.receivedAt ≤ now

variable {v v' : InterpolatingApplication} {now now' : ℤ}

/-- An application that remembers no snapshot. -/
theorem keptAt_empty (hhistory : v.worldStateSnapshotHistory = [])
    (hworld : v.application.clientGameState.worldState = none) : KeptAt now v where
  kept := by
    refine ⟨?_, ?_, ?_, ?_, ?_, ?_, fun _ => ⟨hhistory, hworld⟩⟩
    · rw [hhistory]
      decide
    · rw [hhistory]
      exact .nil
    · rw [hhistory]
      exact .nil
    · rw [hhistory]
      nofun
    · rw [hhistory, hworld]
      decide
    · intro hne
      exact absurd hhistory hne
  past := by
    rw [hhistory]
    nofun

/-- Whatever else happens to the application, and as time goes by. -/
theorem KeptAt.of_eq (h : KeptAt now v) (hnow : now ≤ now')
    (hhistory : v'.worldStateSnapshotHistory = v.worldStateSnapshotHistory)
    (hgame : v'.application.clientGameState = v.application.clientGameState) : KeptAt now' v' := by
  obtain ⟨⟨few, ticks, times, room, nonempty, latest, identified⟩, past⟩ := h
  refine ⟨⟨?_, ?_, ?_, ?_, ?_, ?_, ?_⟩, ?_⟩
  all_goals simp only [hhistory, hgame]
  · exact few
  · exact ticks
  · exact times
  · exact room
  · exact nonempty
  · exact latest
  · exact identified
  · intro entry hentry
    exact (past entry hentry).trans hnow

/-- **A snapshot that is applied** goes to the end of the queue. -/
theorem KeptAt.push (h : KeptAt now v) (hnow : now ≤ now')
    {snapshot : WorldStateSnapshot FloatBits} {identity : PlayerIdentityPayload}
    (hidentity : v.application.clientGameState.playerIdentity = some identity)
    (hroom : snapshot.roomId = identity.roomId)
    (hnewer : ∀ worldState, v.application.clientGameState.worldState = some worldState →
      worldState.serverTick < snapshot.serverTick)
    (hhistory : v'.worldStateSnapshotHistory = pushBounded maxWorldStateSnapshotHistorySize
      v.worldStateSnapshotHistory ⟨snapshot, now'⟩)
    (hgame : v'.application.clientGameState =
      { v.application.clientGameState with worldState := some snapshot }) : KeptAt now' v' := by
  obtain ⟨⟨few, ticks, times, room, nonempty, latest, identified⟩, past⟩ := h
  obtain ⟨kept, hpushed, hsuffix, hlength⟩ := pushBounded_eq
    (show 0 < maxWorldStateSnapshotHistorySize by decide) few ⟨snapshot, now'⟩
  -- everything that stays is older than the new snapshot
  have holder : ∀ entry ∈ kept, entry.worldState.serverTick < snapshot.serverTick := by
    intro entry hentry
    have hold := hsuffix.subset hentry
    have hne := List.ne_nil_of_mem hold
    have hlast := hnewer _ (latest hne)
    rcases pairwise_getLast ticks hne hold with hsame | hless
    · rw [hsame]
      exact hlast
    · exact UInt64.lt_trans hless hlast
  have hpast : ∀ entry ∈ kept, entry.receivedAt ≤ now' := fun entry hentry =>
    (past entry (hsuffix.subset hentry)).trans hnow
  rw [hpushed] at hhistory
  refine ⟨⟨?_, ?_, ?_, ?_, ?_, ?_, ?_⟩, ?_⟩
  all_goals simp only [hhistory, hgame]
  · exact hlength
  · refine List.pairwise_append.mpr ⟨ticks.sublist hsuffix.sublist, List.pairwise_singleton _ _, ?_⟩
    intro entry hentry last hlast
    rw [List.mem_singleton.mp hlast]
    exact holder entry hentry
  · refine List.pairwise_append.mpr ⟨times.sublist hsuffix.sublist, List.pairwise_singleton _ _, ?_⟩
    intro entry hentry last hlast
    rw [List.mem_singleton.mp hlast]
    exact hpast entry hentry
  · intro identity' hidentity' entry hentry
    rcases List.mem_append.mp hentry with hold | hnew
    · exact room identity' hidentity' entry (hsuffix.subset hold)
    · rw [List.mem_singleton.mp hnew]
      exact hroom.trans (congrArg _ (Option.some.inj (hidentity.symm.trans hidentity')))
  · simp
  · intro hne
    rw [List.getLast_append_singleton]
  · intro hnone
    rw [hidentity] at hnone
    cases hnone
  · intro entry hentry
    rcases List.mem_append.mp hentry with hold | hnew
    · exact hpast entry hold
    · rw [List.mem_singleton.mp hnew]

/-- **A snapshot that is refused** changes neither the queue nor the game state. -/
theorem handle_refused (generation : ℕ) (now : ℤ) {snapshot : WorldStateSnapshot FloatBits}
    (hrefused : (v.application.clientGameState.applyWorldStateSnapshot snapshot).1 = false) :
    (v.handle generation now (.worldStateSnapshot snapshot)).worldStateSnapshotHistory =
        v.worldStateSnapshotHistory ∧
      (v.handle generation now (.worldStateSnapshot snapshot)).application.clientGameState =
        v.application.clientGameState := by
  have hno : v.application.clientGameState.applyWorldStateSnapshot snapshot =
      (false, v.application.clientGameState) := by
    rcases v.application.clientGameState.applyWorldStateSnapshot_cases snapshot with
      hno | ⟨hyes, -⟩
    · exact hno
    · rw [hyes] at hrefused
      cases hrefused
  constructor
  · simp only [handle, handleWorldStateSnapshot, hno]
    rfl
  · simp only [handle_application, ClientApplication.handle,
      ClientApplication.handleWorldStateSnapshot, hno]
    rfl

/-- **The handlers** keep the history. -/
theorem KeptAt.handle (h : KeptAt now v) (hnow : now ≤ now') (generation : ℕ)
    (invocation : Invocation) : KeptAt now' (v.handle generation now' invocation) := by
  cases invocation with
  | connected => exact h.of_eq hnow rfl rfl
  | connectionFailed error => exact keptAt_empty rfl rfl
  | disconnected error => exact keptAt_empty rfl rfl
  | playerIdentity identity =>
      rcases v.application.clientGameState.applyPlayerIdentity_cases identity with hno | hyes
      · refine h.of_eq hnow ?_ ?_
        · simp only [InterpolatingApplication.handle, handlePlayerIdentity, hno]
          rfl
        · simp only [handle_application, ClientApplication.handle,
            ClientApplication.handlePlayerIdentity, hno]
          rfl
      · refine keptAt_empty ?_ ?_
        · simp only [InterpolatingApplication.handle, handlePlayerIdentity, hyes]
          rfl
        · simp only [handle_application, ClientApplication.handle,
            ClientApplication.handlePlayerIdentity, hyes]
          rfl
  | worldStateSnapshot snapshot =>
      rcases v.application.clientGameState.applyWorldStateSnapshot_cases snapshot with
        hno | ⟨hyes, ⟨identity, hidentity, hroom⟩, hnewer⟩
      · obtain ⟨hhistory, hgame⟩ := handle_refused generation now' (congrArg Prod.fst hno)
        exact h.of_eq hnow hhistory hgame
      · refine h.push hnow hidentity hroom hnewer ?_ ?_
        · simp only [InterpolatingApplication.handle, handleWorldStateSnapshot, hyes]
          rfl
        · simp only [handle_application, ClientApplication.handle,
            ClientApplication.handleWorldStateSnapshot, hyes]
          rfl

/-- `Update` leaves the game state alone. -/
theorem update_clientGameState (clock : ℕ → UInt64) (keys : Keys) (c : NetworkClient)
    (a : ClientApplication) :
    (ClientApplication.update clock keys c a).2.clientGameState = a.clientGameState := by
  have hprobe : (ClientApplication.probeRtt clock c a).2.clientGameState = a.clientGameState := by
    unfold ClientApplication.probeRtt
    split
    · dsimp only
      split
      · split <;> rfl
      · rfl
    · rfl
  have hsubmit : ∀ c a, (ClientApplication.submitPlayerInput keys c a).2.2.clientGameState =
      a.clientGameState := by
    intro c a
    unfold ClientApplication.submitPlayerInput
    split
    · rfl
    split
    · rfl
    split
    · rfl
    dsimp only
    split
    · rfl
    split <;> rfl
  unfold ClientApplication.update
  dsimp only
  split
  · exact (hsubmit _ _).trans hprobe
  · exact (hsubmit _ _).trans hprobe

/-- **Every event** has a result, and keeps the history. -/
theorem KeptAt.step (h : KeptAt now v) (hnow : now ≤ now') (event : Event) :
    ∃ v', v.step (now', event) = .ok v' ∧ KeptAt now' v' := by
  cases event with
  | invoke generation invocation => exact ⟨_, rfl, h.handle hnow generation invocation⟩
  | shutdown => exact ⟨_, rfl, keptAt_empty rfl rfl⟩
  | update clock keys c =>
      obtain ⟨v', hupdate, happlication, hhistory⟩ := v.update_ok clock keys now' c
      refine ⟨v', ?_, h.of_eq hnow hhistory ?_⟩
      · show (v.update clock keys now' c >>= fun result => pure result.2) = _
        rw [hupdate]
        rfl
      · rw [happlication]
        exact update_clientGameState clock keys c v.application

theorem KeptAt.run (h : KeptAt now v) {events : List (ℤ × Event)}
    (hclock : (now :: events.map (·.1)).Pairwise (· ≤ ·)) :
    ∃ v', v.run events = .ok v' ∧ HistoryKept v' := by
  induction events generalizing v now with
  | nil => exact ⟨v, rfl, h.kept⟩
  | cons event events ih =>
      obtain ⟨now', event⟩ := event
      obtain ⟨hafter, hclock'⟩ := List.pairwise_cons.mp hclock
      obtain ⟨v₁, hstep, h₁⟩ := h.step (hafter now' List.mem_cons_self) event
      obtain ⟨v', hrun, hkept⟩ := ih h₁ hclock'
      refine ⟨v', ?_, hkept⟩
      unfold InterpolatingApplication.run
      rw [List.foldlM_cons, hstep]
      exact hrun

/-- **The history of snapshots**, after any events at any times in order. Nothing beside the queue
is ever read; the queue is as `HistoryKept` says; a snapshot that is refused changes neither the
queue nor the game state; and a valid choice is of two elements of the queue. -/
theorem snapshot_history_invariant (events : List (ℤ × Event))
    (hclock : (events.map (·.1)).Pairwise (· ≤ ·)) :
    ∃ v, run {} events = .ok v ∧ HistoryKept v ∧
      (∀ generation now snapshot,
        (v.application.clientGameState.applyWorldStateSnapshot snapshot).1 = false →
          (v.handle generation now (.worldStateSnapshot snapshot)).worldStateSnapshotHistory =
              v.worldStateSnapshotHistory ∧
            (v.handle generation now (.worldStateSnapshot snapshot)).application.clientGameState =
              v.application.clientGameState) ∧
      ∀ now, (v.updateWorldStateInterpolationSelection
          now).worldStateInterpolationSelection.isValid = true →
        (v.updateWorldStateInterpolationSelection
            now).worldStateInterpolationSelection.previousSnapshotIndex <
          (v.updateWorldStateInterpolationSelection now).worldStateSnapshotHistory.length ∧
        (v.updateWorldStateInterpolationSelection
            now).worldStateInterpolationSelection.nextSnapshotIndex <
          (v.updateWorldStateInterpolationSelection now).worldStateSnapshotHistory.length := by
  have hrun : ∃ v, run {} events = .ok v ∧ HistoryKept v := by
    cases events with
    | nil => exact ⟨{}, rfl, (show KeptAt 0 {} from keptAt_empty rfl rfl).kept⟩
    | cons event events =>
        refine (show KeptAt event.1 {} from keptAt_empty rfl rfl).run ?_
        refine List.pairwise_cons.mpr ⟨?_, hclock⟩
        intro later hlater
        rcases List.mem_cons.mp hlater with rfl | hlater
        · exact le_refl _
        · exact (List.pairwise_cons.mp hclock).1 later hlater
  obtain ⟨v, hv, hkept⟩ := hrun
  refine ⟨v, hv, hkept, ?_, ?_⟩
  · intro generation now snapshot
    exact handle_refused generation now
  · intro now hvalid
    obtain ⟨hneighbours, hinside⟩ := v.selection_inside now hvalid
    exact ⟨by omega, hinside⟩

/-- Two snapshots come for a player, and are drawn from a little later. -/
def twoSnapshots : List (ℤ × Event) :=
  [(0, .invoke 1 (.playerIdentity ⟨1, 7⟩)),
    (100000000, .invoke 1 (.worldStateSnapshot { WorldStateSnapshot.default with
      serverTick := 5, roomId := 1 })),
    (150000000, .invoke 1 (.worldStateSnapshot { WorldStateSnapshot.default with
      serverTick := 6, roomId := 1 })),
    (200000000, .update (fun _ => 0) {} {})]

theorem snapshot_history_invariant_two :
    ∃ v, run {} twoSnapshots = .ok v ∧ HistoryKept v ∧
      v.worldStateSnapshotHistory.map (·.receivedAt) = [100000000, 150000000] ∧
      v.worldStateInterpolationSelection = ⟨0, 1, 18 / 25, true⟩ := by
  obtain ⟨v, hrun, hkept, -⟩ := snapshot_history_invariant twoSnapshots (by decide)
  have hdrawn : (run {} twoSnapshots).map (fun v =>
      (v.worldStateSnapshotHistory.map (·.receivedAt), v.worldStateInterpolationSelection)) =
        .ok ([100000000, 150000000], ⟨0, 1, 18 / 25, true⟩) := by decide +kernel
  rw [hrun] at hdrawn
  have hpair := Except.ok.inj hdrawn
  exact ⟨v, hrun, hkept, congrArg Prod.fst hpair, congrArg Prod.snd hpair⟩

end InterpolatingApplication

end NetworkArena.Client
