/-
# NetworkArena.Client.NewestSnapshot -- the game state keeps the newest snapshot

Snapshots can reach the game state in any order, more than once, and from a room the player has
left. `Accepts` is the rule by which one of them is taken. Over a whole list it comes to this: the
game state holds the first of the newest snapshots of its room (`worldState_applyAll`), so the order
in which they come does not matter, and neither does what comes too late or from elsewhere.
-/
import NetworkArena.Client.ClientApplication
import NetworkArena.Foundation.Argmax
import Mathlib.Data.List.Nodup

namespace NetworkArena.Client

open NetworkArena.Foundation
open NetworkArena.Shared

/-! ## The rule -/

/-- A snapshot of the room a player has been let into. -/
def IsOfRoom (identity : PlayerIdentityPayload) (snapshot : WorldStateSnapshot FloatBits) : Prop :=
  snapshot.serverTick ≠ 0 ∧ snapshot.roomId = identity.roomId

instance (identity : PlayerIdentityPayload) (snapshot : WorldStateSnapshot FloatBits) :
    Decidable (IsOfRoom identity snapshot) := inferInstanceAs (Decidable (_ ∧ _))

/-- The tick of a snapshot as a number. -/
def tickOf (snapshot : WorldStateSnapshot FloatBits) : ℕ := snapshot.serverTick.toNat

namespace ClientGameState

/-- The snapshot is of the player's room, and newer than the one that is shown. -/
def Accepts (g : ClientGameState) (snapshot : WorldStateSnapshot FloatBits) : Prop :=
  (∃ identity, g.playerIdentity = some identity ∧ IsOfRoom identity snapshot) ∧
    ∀ worldState ∈ g.worldState, tickOf worldState < tickOf snapshot

variable {g : ClientGameState} {identity : PlayerIdentityPayload}
  {snapshot : WorldStateSnapshot FloatBits}

theorem applyWorldStateSnapshot_accepts (h : g.Accepts snapshot) :
    g.applyWorldStateSnapshot snapshot = (true, { g with worldState := some snapshot }) := by
  obtain ⟨⟨identity, hidentity, htick, hroom⟩, hnewer⟩ := h
  unfold applyWorldStateSnapshot
  rw [hidentity]
  dsimp only
  rw [if_neg htick, if_neg (not_not.mpr hroom), if_neg]
  rw [Option.any_eq_true]
  rintro ⟨worldState, hworld, hle⟩
  exact absurd (of_decide_eq_true hle) (UInt64.not_le.mpr (hnewer worldState hworld))

theorem applyWorldStateSnapshot_refuses (h : ¬ g.Accepts snapshot) :
    g.applyWorldStateSnapshot snapshot = (false, g) := by
  unfold applyWorldStateSnapshot
  cases hidentity : g.playerIdentity with
  | none => rfl
  | some identity =>
      dsimp only
      split
      · rfl
      · next htick =>
          split
          · rfl
          · next hroom =>
              rw [if_pos]
              by_contra hnewer
              refine h ⟨⟨identity, hidentity, htick, not_not.mp hroom⟩, ?_⟩
              intro worldState hworld
              rw [hworld, Option.any_some, decide_eq_true_eq] at hnewer
              exact UInt64.not_le.mp hnewer

/-- **`ApplyWorldStateSnapshot` returns whether the snapshot is accepted**, and changes nothing if
it is not. -/
theorem applyWorldStateSnapshot_iff (g : ClientGameState)
    (snapshot : WorldStateSnapshot FloatBits) :
    ((g.applyWorldStateSnapshot snapshot).1 = true ↔ g.Accepts snapshot) ∧
      ((g.applyWorldStateSnapshot snapshot).1 = false →
        (g.applyWorldStateSnapshot snapshot).2 = g) := by
  by_cases h : g.Accepts snapshot
  · rw [applyWorldStateSnapshot_accepts h]
    exact ⟨⟨fun _ => h, fun _ => rfl⟩, nofun⟩
  · rw [applyWorldStateSnapshot_refuses h]
    exact ⟨⟨nofun, fun haccepts => absurd haccepts h⟩, fun _ => rfl⟩

/-! ## A list of snapshots -/

/-- The game state after some snapshots have been applied, one after the other. -/
def applyAll (g : ClientGameState) (snapshots : List (WorldStateSnapshot FloatBits)) :
    ClientGameState :=
  snapshots.foldl (fun g snapshot => (g.applyWorldStateSnapshot snapshot).2) g

theorem applyAll_append (g : ClientGameState)
    (before after : List (WorldStateSnapshot FloatBits)) :
    g.applyAll (before ++ after) = (g.applyAll before).applyAll after :=
  List.foldl_append

/-- The snapshots of a player's room. -/
def ofRoom (identity : PlayerIdentityPayload) (snapshots : List (WorldStateSnapshot FloatBits)) :
    List (WorldStateSnapshot FloatBits) :=
  snapshots.filter fun snapshot => IsOfRoom identity snapshot

theorem mem_ofRoom {snapshots : List (WorldStateSnapshot FloatBits)} :
    snapshot ∈ ofRoom identity snapshots ↔ snapshot ∈ snapshots ∧ IsOfRoom identity snapshot := by
  rw [ofRoom, List.mem_filter, decide_eq_true_eq]

theorem ofRoom_append (before after : List (WorldStateSnapshot FloatBits)) :
    ofRoom identity (before ++ after) = ofRoom identity before ++ ofRoom identity after :=
  List.filter_append ..

theorem ofRoom_cons {snapshots : List (WorldStateSnapshot FloatBits)}
    (h : IsOfRoom identity snapshot) :
    ofRoom identity (snapshot :: snapshots) = snapshot :: ofRoom identity snapshots :=
  List.filter_cons_of_pos (by simpa using h)

theorem ofRoom_cons_foreign {snapshots : List (WorldStateSnapshot FloatBits)}
    (h : ¬ IsOfRoom identity snapshot) :
    ofRoom identity (snapshot :: snapshots) = ofRoom identity snapshots :=
  List.filter_cons_of_neg (by simpa using h)

/-- The game state of a player that has been let in and has seen nothing yet. -/
def identified (identity : PlayerIdentityPayload) : ClientGameState :=
  { playerIdentity := some identity, worldState := none }

/-- **The newest snapshot of the room**, the first one if there are several, is kept. -/
theorem applyAll_identified (identity : PlayerIdentityPayload)
    (snapshots : List (WorldStateSnapshot FloatBits)) :
    (identified identity).applyAll snapshots =
      { playerIdentity := some identity
        worldState := (ofRoom identity snapshots).argmax tickOf } := by
  induction snapshots using List.reverseRecOn with
  | nil => rfl
  | append_singleton snapshots last ih =>
      rw [applyAll_append, ih]
      show (applyWorldStateSnapshot last _).2 = _
      by_cases hroom : IsOfRoom identity last
      · rw [ofRoom_append, ofRoom_cons hroom]
        show _ = ClientGameState.mk (some identity) ((_ ++ [last]).argmax tickOf)
        rw [List.argmax_concat]
        cases hnewest : (ofRoom identity snapshots).argmax tickOf with
        | none =>
            rw [applyWorldStateSnapshot_accepts]
            exact ⟨⟨identity, rfl, hroom⟩, fun _ hin => by cases hin⟩
        | some worldState =>
            dsimp only
            split
            · next hnewer =>
                rw [applyWorldStateSnapshot_accepts]
                refine ⟨⟨identity, rfl, hroom⟩, fun _ hin => ?_⟩
                cases hin
                exact hnewer
            · next hnewer =>
                rw [applyWorldStateSnapshot_refuses]
                intro haccepts
                exact hnewer (haccepts.2 worldState rfl)
      · have hlast : ofRoom identity [last] = [] := ofRoom_cons_foreign hroom
        rw [ofRoom_append, hlast, List.append_nil, applyWorldStateSnapshot_refuses]
        rintro ⟨⟨identity', hidentity, hroom'⟩, -⟩
        obtain rfl : identity = identity' := Option.some.inj hidentity
        exact hroom hroom'

/-- Behind some others, a snapshot is taken exactly if it is newer than all of its room. -/
theorem accepts_applyAll (before : List (WorldStateSnapshot FloatBits)) :
    ((identified identity).applyAll before).Accepts snapshot ↔
      IsOfRoom identity snapshot ∧
        ∀ earlier ∈ before, IsOfRoom identity earlier → tickOf earlier < tickOf snapshot := by
  rw [applyAll_identified]
  have hnewer := argmax_lt_iff (f := tickOf) (l := ofRoom identity before) (c := tickOf snapshot)
  constructor
  · rintro ⟨⟨identity', hidentity, hroom⟩, hworld⟩
    obtain rfl : identity = identity' := Option.some.inj hidentity
    exact ⟨hroom, fun earlier hin hof => hnewer.mp hworld earlier (mem_ofRoom.mpr ⟨hin, hof⟩)⟩
  · rintro ⟨hroom, hall⟩
    refine ⟨⟨identity, rfl, hroom⟩, hnewer.mpr fun earlier hin => ?_⟩
    exact hall earlier (mem_ofRoom.mp hin).1 (mem_ofRoom.mp hin).2

/-! ## What the order does not matter for -/

/-- A snapshot that comes too late, or from another room: it is not of the player's room, one at
least as new came before it, or a newer one comes at some time. -/
def Superfluous (identity : PlayerIdentityPayload)
    (before after : List (WorldStateSnapshot FloatBits))
    (snapshot : WorldStateSnapshot FloatBits) : Prop :=
  ¬ IsOfRoom identity snapshot ∨
    (∃ earlier ∈ before, IsOfRoom identity earlier ∧ tickOf snapshot ≤ tickOf earlier) ∨
    ∃ newer ∈ before ++ after, IsOfRoom identity newer ∧ tickOf snapshot < tickOf newer

/-- **What is superfluous** makes no difference. -/
theorem applyAll_superfluous {before after : List (WorldStateSnapshot FloatBits)}
    (h : Superfluous identity before after snapshot) :
    (identified identity).applyAll (before ++ snapshot :: after) =
      (identified identity).applyAll (before ++ after) := by
  -- a snapshot that is refused where it stands leaves the state as it was
  have hrefused : ¬ ((identified identity).applyAll before).Accepts snapshot →
      (identified identity).applyAll (before ++ snapshot :: after) =
        (identified identity).applyAll (before ++ after) := by
    intro hno
    rw [applyAll_append, applyAll_append]
    show (applyWorldStateSnapshot snapshot _).2.applyAll after = _
    rw [applyWorldStateSnapshot_refuses hno]
  rcases h with hforeign | ⟨earlier, hin, hroom, hle⟩ | ⟨newer, hin, hroom, hlt⟩
  · exact hrefused fun haccepts => hforeign ((accepts_applyAll before).mp haccepts).1
  · apply hrefused
    intro haccepts
    exact absurd (((accepts_applyAll before).mp haccepts).2 earlier hin hroom) (not_lt.mpr hle)
  · by_cases hof : IsOfRoom identity snapshot
    · have hnewer : newer ∈ ofRoom identity before ++ ofRoom identity after := by
        rw [← ofRoom_append]
        exact mem_ofRoom.mpr ⟨hin, hroom⟩
      rw [applyAll_identified, applyAll_identified, ofRoom_append, ofRoom_append,
        ofRoom_cons hof, argmax_insert hnewer hlt]
    · exact hrefused fun haccepts => hof ((accepts_applyAll before).mp haccepts).1

/-- **Snapshots with different ticks** may come in any order, more than once, and with any others
that are older or of another room. -/
theorem applyAll_of_subset {snapshots arrived : List (WorldStateSnapshot FloatBits)}
    (hticks : (snapshots.map (·.serverTick)).Nodup) (hsubset : snapshots ⊆ arrived)
    (hothers : ∀ other ∈ arrived, other ∈ snapshots ∨ ¬ IsOfRoom identity other ∨
      ∃ newer ∈ snapshots, IsOfRoom identity newer ∧ tickOf other < tickOf newer) :
    (identified identity).applyAll arrived = (identified identity).applyAll snapshots := by
  rw [applyAll_identified, applyAll_identified]
  congr 1
  refine argmax_eq_of_subset ?_ (fun a ha => ?_) (fun a ha => ?_)
  · intro a ha b hb htick
    exact List.inj_on_of_nodup_map hticks (mem_ofRoom.mp ha).1 (mem_ofRoom.mp hb).1
      (UInt64.toNat_inj.mp htick)
  · exact mem_ofRoom.mpr ⟨hsubset (mem_ofRoom.mp ha).1, (mem_ofRoom.mp ha).2⟩
  · obtain ⟨hin, hroom⟩ := mem_ofRoom.mp ha
    rcases hothers a hin with hold | hforeign | ⟨newer, hnewer, hof, hlt⟩
    · exact Or.inl (mem_ofRoom.mpr ⟨hold, hroom⟩)
    · exact absurd hroom hforeign
    · exact Or.inr ⟨newer, mem_ofRoom.mpr ⟨hnewer, hof⟩, hlt⟩

/-- **The newest snapshot is kept, whatever the order.** After an identity has been accepted, the
game state holds the first of the newest snapshots of its room. `ApplyWorldStateSnapshot` returns
`true` exactly for a snapshot of the room that is newer than all before it, and changes nothing
otherwise. So snapshots with different ticks may be permuted, repeated and mixed with older and
foreign ones, and whatever is superfluous may be inserted anywhere. Without an identity nothing is
accepted. -/
theorem newest_snapshot_kept (g : ClientGameState) (identity : PlayerIdentityPayload)
    (haccepted : (g.applyPlayerIdentity identity).1 = true) :
    let g₀ := (g.applyPlayerIdentity identity).2
    (∀ snapshots, g₀.applyAll snapshots =
      { playerIdentity := some identity
        worldState := (ofRoom identity snapshots).argmax tickOf }) ∧
    (∀ before snapshot,
      (((g₀.applyAll before).applyWorldStateSnapshot snapshot).1 = true ↔
        IsOfRoom identity snapshot ∧
          ∀ earlier ∈ ofRoom identity before, tickOf earlier < tickOf snapshot) ∧
      (((g₀.applyAll before).applyWorldStateSnapshot snapshot).1 = false →
        ((g₀.applyAll before).applyWorldStateSnapshot snapshot).2 = g₀.applyAll before)) ∧
    (∀ snapshots permuted, snapshots.Perm permuted → (snapshots.map (·.serverTick)).Nodup →
      g₀.applyAll permuted = g₀.applyAll snapshots) ∧
    (∀ snapshots arrived, (snapshots.map (·.serverTick)).Nodup → snapshots ⊆ arrived →
      (∀ other ∈ arrived, other ∈ snapshots ∨ ¬ IsOfRoom identity other ∨
        ∃ newer ∈ snapshots, IsOfRoom identity newer ∧ tickOf other < tickOf newer) →
      g₀.applyAll arrived = g₀.applyAll snapshots) ∧
    (∀ before snapshot after, Superfluous identity before after snapshot →
      g₀.applyAll (before ++ snapshot :: after) = g₀.applyAll (before ++ after)) ∧
    ∀ g' : ClientGameState, g'.playerIdentity = none → ∀ before snapshot,
      (g'.applyAll before).applyWorldStateSnapshot snapshot = (false, g') := by
  have hstart : (g.applyPlayerIdentity identity).2 = identified identity := by
    rcases g.applyPlayerIdentity_cases identity with hno | hyes
    · rw [hno] at haccepted
      cases haccepted
    · rw [hyes]
      rfl
  dsimp only
  rw [hstart]
  refine ⟨applyAll_identified identity, ?_, ?_, ?_, ?_, ?_⟩
  · intro before snapshot
    obtain ⟨hiff, hsame⟩ := applyWorldStateSnapshot_iff
      ((identified identity).applyAll before) snapshot
    refine ⟨?_, hsame⟩
    rw [hiff, accepts_applyAll]
    simp only [mem_ofRoom, and_imp]
  -- a permutation brings nothing that was not there
  · intro snapshots permuted hperm hticks
    exact applyAll_of_subset hticks hperm.subset fun other hin => Or.inl (hperm.mem_iff.mpr hin)
  · intro snapshots arrived
    exact applyAll_of_subset
  · intro before snapshot after
    exact applyAll_superfluous
  · intro g' hnone before snapshot
    have hno : ∀ snapshot, g'.applyWorldStateSnapshot snapshot = (false, g') := by
      intro snapshot
      apply applyWorldStateSnapshot_refuses
      rintro ⟨⟨identity', hidentity, -⟩, -⟩
      rw [hnone] at hidentity
      cases hidentity
    have hall : g'.applyAll before = g' := by
      induction before with
      | nil => rfl
      | cons first before ih =>
          show (g'.applyWorldStateSnapshot first).2.applyAll before = g'
          rw [hno first]
          exact ih
    rw [hall, hno]

/-- A snapshot of a room with a given tick. -/
def atTick (serverTick : ServerTick) (roomId : RoomId) : WorldStateSnapshot FloatBits :=
  { WorldStateSnapshot.default with serverTick, roomId }

/-- Two snapshots overtake each other; a stale one, a foreign one and a copy come between them. -/
theorem newest_snapshot_kept_overtaken :
    (identified ⟨1, 7⟩).applyAll [atTick 6 1, atTick 3 1, atTick 9 2, atTick 5 1, atTick 6 1] =
        (identified ⟨1, 7⟩).applyAll [atTick 5 1, atTick 6 1] ∧
      ((identified ⟨1, 7⟩).applyAll [atTick 5 1, atTick 6 1]).worldState = some (atTick 6 1) := by
  obtain ⟨-, -, -, hsubset, -, -⟩ := newest_snapshot_kept {} ⟨1, 7⟩ (by decide)
  refine ⟨hsubset [atTick 5 1, atTick 6 1] _ (by decide) (by decide) (by decide), by decide⟩

end ClientGameState

end NetworkArena.Client
