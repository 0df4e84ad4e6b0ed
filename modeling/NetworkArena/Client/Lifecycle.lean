/-
# NetworkArena.Client.Lifecycle -- the callbacks of a connection attempt

What an application can rely on when it is called back. A `Connect` that succeeds starts an attempt,
and the callbacks of the attempt come in the order of `IsLifecycle`, as far as they come: it failed,
or it connected, delivered, and disconnected. Callbacks that were not supplied are left out.

Failing and disconnecting do not advance the generation, `Connect` and `Disconnect` do. What keeps a
late completion out is therefore the generation together with the state, and the invariant of a
client (`Lifecycle`) says of each state what the log of the current attempt can be. The application
is called back at most once in a handler, and by then the client is in the state the callback tells
it of; whatever it calls then, it calls on a client of which the invariant holds.
-/
import NetworkArena.Client.ClientRuns

namespace NetworkArena.Client

open NetworkArena.Foundation
open NetworkArena.Shared

variable {α : Type}

/-! ## The order of callbacks -/

/-- The callbacks that hand over what has been received. -/
def Invocation.isDelivery : Invocation → Bool
  | .playerIdentity _ | .worldStateSnapshot _ => true
  | _ => false

/-- The callbacks a client still holds when it is connected. -/
def Invocation.whileConnected : Invocation → Bool
  | .connected | .connectionFailed _ => false
  | _ => true

/-- The callbacks of an attempt for which all of them were supplied, as far as it has come. -/
def IsLifecycle (trace : List Invocation) : Prop :=
  (∃ error, trace <+: [.connectionFailed error]) ∨
    ∃ deliveries error, (∀ d ∈ deliveries, Invocation.isDelivery d = true) ∧
      trace <+: .connected :: (deliveries ++ [.disconnected error])

/-- Whether the callback for an invocation is among those supplied. -/
def SuppliedCallbacks.gives (supplied : SuppliedCallbacks) : Invocation → Bool
  | .connected => supplied.onConnected
  | .connectionFailed _ => supplied.onConnectionFailed
  | .disconnected _ => supplied.onDisconnected
  | .playerIdentity _ => supplied.onPlayerIdentity
  | .worldStateSnapshot _ => supplied.onWorldStateSnapshot

/-- A log of the callbacks of an attempt: a lifecycle without the callbacks not supplied. -/
def Lived (supplied : SuppliedCallbacks) (log : List Invocation) : Prop :=
  ∃ trace, IsLifecycle trace ∧ log = trace.filter supplied.gives

theorem lived_nil (supplied : SuppliedCallbacks) : Lived supplied [] :=
  ⟨[], Or.inl ⟨.protocolError, List.nil_prefix⟩, rfl⟩

theorem lived_failed (supplied : SuppliedCallbacks) (error : ErrorCode) :
    Lived supplied ([.connectionFailed error].filter supplied.gives) :=
  ⟨_, Or.inl ⟨error, List.prefix_refl _⟩, rfl⟩

/-- A connection that is still up. -/
theorem lived_connected (supplied : SuppliedCallbacks) {deliveries : List Invocation}
    (h : ∀ d ∈ deliveries, d.isDelivery = true) :
    Lived supplied ((.connected :: deliveries).filter supplied.gives) := by
  refine ⟨_, Or.inr ⟨deliveries, .protocolError, h, ?_⟩, rfl⟩
  rw [← List.cons_append]
  exact List.prefix_append _ _

theorem lived_disconnected (supplied : SuppliedCallbacks) {deliveries : List Invocation}
    (h : ∀ d ∈ deliveries, d.isDelivery = true) (error : ErrorCode) :
    Lived supplied ((.connected :: deliveries).filter supplied.gives ++
      [.disconnected error].filter supplied.gives) := by
  refine ⟨_, Or.inr ⟨deliveries, error, h, List.prefix_refl _⟩, ?_⟩
  rw [← List.cons_append, List.filter_append]

namespace NetworkClient

/-! ## The callbacks a client holds and those it has called -/

/-- The callback a client would call for an invocation. -/
def callbackFor (c : NetworkClient) : Invocation → Option ℕ
  | .connected => c.onConnected
  | .connectionFailed _ => c.onConnectionFailed
  | .disconnected _ => c.onDisconnected
  | .playerIdentity _ => c.onPlayerIdentity
  | .worldStateSnapshot _ => c.onWorldStateSnapshot

/-- The callbacks of an attempt that have been invoked, oldest first. -/
def invocationsOf (c : NetworkClient) (attempt : ℕ) : List Invocation :=
  (c.invocations.filter (·.1 = attempt)).map (·.2)

theorem held_gives (c : NetworkClient) (i : Invocation) :
    c.held.gives i = (c.callbackFor i).isSome := by
  cases i <;> rfl

theorem held_of_gives {c : NetworkClient} {supplied : SuppliedCallbacks}
    (h : ∀ i, (c.callbackFor i).isSome = supplied.gives i) : c.held = supplied := by
  have hconnected := h .connected
  have hfailed := h (.connectionFailed .protocolError)
  have hdisconnected := h (.disconnected .protocolError)
  have hidentity := h (.playerIdentity {})
  have hsnapshot := h (.worldStateSnapshot .default)
  cases supplied
  simp only [held, SuppliedCallbacks.mk.injEq]
  exact ⟨hconnected, hfailed, hdisconnected, hidentity, hsnapshot⟩

theorem invocationsOf_noted (c : NetworkClient) (callback : Option ℕ) (i : Invocation) (n : ℕ) :
    (c.noted callback i).invocationsOf n =
      c.invocationsOf n ++ if callback = some n then [i] else [] := by
  rw [invocationsOf, noted, List.filter_append, List.map_append]
  congr 1
  cases callback with
  | none => simp
  | some m => by_cases hm : m = n <;> simp [hm]

/-- Calling a callback of one attempt, if it was supplied. -/
theorem invocationsOf_noted_own {c : NetworkClient} {callback : Option ℕ} {i : Invocation}
    {g : ℕ} {supplied : SuppliedCallbacks} (hown : ∀ n, callback = some n → n = g)
    (hgives : callback.isSome = supplied.gives i) :
    (c.noted callback i).invocationsOf g = c.invocationsOf g ++ [i].filter supplied.gives ∧
      ∀ n, n ≠ g → (c.noted callback i).invocationsOf n = c.invocationsOf n := by
  constructor
  · rw [invocationsOf_noted]
    congr 1
    cases callback with
    | none => simp [← hgives]
    | some m =>
        obtain rfl : m = g := hown m rfl
        simp [← hgives]
  · intro n hn
    rw [invocationsOf_noted, if_neg, List.append_nil]
    intro hcallback
    exact hn (hown n hcallback)

/-! ## The invariant -/

/-- An attempt that has called nothing back yet. -/
structure Opening (supplied : SuppliedCallbacks) (c : NetworkClient) : Prop where
  silent : c.invocationsOf c.connectionGeneration = []
  holds : ∀ i, (c.callbackFor i).isSome = supplied.gives i
  nothingPosted : ∀ p ∈ c.posted, p.generation ≠ c.connectionGeneration

/-- An attempt that has said it is connected, and has not said more than deliveries since. -/
structure Established (supplied : SuppliedCallbacks) (c : NetworkClient) : Prop where
  log : ∃ deliveries, (∀ d ∈ deliveries, Invocation.isDelivery d = true) ∧
    c.invocationsOf c.connectionGeneration = (.connected :: deliveries).filter supplied.gives
  holds : ∀ i, i.whileConnected = true → (c.callbackFor i).isSome = supplied.gives i
  asked : ∀ p ∈ c.posted, p.generation = c.connectionGeneration →
    supplied.gives p.invocation = true

/-- The state of every attempt of a client. -/
structure Lifecycle (supplied : ℕ → SuppliedCallbacks) (c : NetworkClient) : Prop where
  own : ∀ i n, c.callbackFor i = some n → n = c.connectionGeneration
  posted : ∀ p ∈ c.posted, p.generation ≤ c.connectionGeneration ∧ p.attempt = p.generation ∧
    p.invocation.isDelivery = true
  past : ∀ n < c.connectionGeneration, Lived (supplied n) (c.invocationsOf n)
  future : ∀ n, c.connectionGeneration < n → c.invocationsOf n = []
  ended : c.connectionState = .disconnected →
    Lived (supplied c.connectionGeneration) (c.invocationsOf c.connectionGeneration)
  opening : c.connectionState = .resolving ∨ c.connectionState = .connecting →
    c.Opening (supplied c.connectionGeneration)
  established : c.connectionState = .connected →
    c.Established (supplied c.connectionGeneration)

/-- Note which callbacks an attempt was given, while it is resolving. -/
def note (supplied : ℕ → SuppliedCallbacks) (c : NetworkClient) : ℕ → SuppliedCallbacks :=
  if c.connectionState = .resolving then
    Function.update supplied c.connectionGeneration c.held
  else supplied

/-- What calls of the client leave alone, those of `Connect` and `Disconnect` apart. -/
structure SameAttempt (c c' : NetworkClient) : Prop where
  state : c'.connectionState = c.connectionState
  generation : c'.connectionGeneration = c.connectionGeneration
  held : c'.held = c.held
  callbacks : c'.callbackFor = c.callbackFor
  posted : c'.posted = c.posted
  invocations : c'.invocations = c.invocations

section Lifecycle

variable {supplied : ℕ → SuppliedCallbacks} {c c' : NetworkClient}

theorem lifecycle_initial (supplied : ℕ → SuppliedCallbacks) : Lifecycle supplied {} where
  own i n h := by cases i <;> cases h
  posted := nofun
  past := nofun
  future _ _ := rfl
  ended _ := lived_nil _
  opening h := by rcases h with h | h <;> cases h
  established := nofun

theorem note_other {n : ℕ} (hn : n ≠ c.connectionGeneration) :
    note supplied c n = supplied n := by
  unfold note
  split
  · exact Function.update_of_ne hn _ _
  · rfl

theorem note_moved (hstate : c.connectionState ≠ .resolving) : note supplied c = supplied :=
  if_neg hstate

/-- A client of which everything is noted. -/
theorem Lifecycle.noted (h : c.Lifecycle supplied) : note supplied c = supplied := by
  unfold note
  split
  · next hresolving =>
      rw [held_of_gives (h.opening (Or.inl hresolving)).holds, Function.update_eq_self]
  · rfl

/-- Whatever state an attempt is in, its callbacks have come in order. -/
theorem Lifecycle.lived (h : c.Lifecycle supplied) (n : ℕ) :
    Lived (supplied n) (c.invocationsOf n) := by
  rcases lt_trichotomy n c.connectionGeneration with hpast | rfl | hfuture
  · exact h.past n hpast
  · cases hstate : c.connectionState with
    | disconnected => exact h.ended hstate
    | resolving =>
        rw [(h.opening (Or.inl hstate)).silent]
        exact lived_nil _
    | connecting =>
        rw [(h.opening (Or.inr hstate)).silent]
        exact lived_nil _
    | connected =>
        obtain ⟨deliveries, hdeliveries, hlog⟩ := (h.established hstate).log
        rw [hlog]
        exact lived_connected _ hdeliveries
  · rw [h.future n hfuture]
    exact lived_nil _

/-- Of an attempt that can still call nothing back, it does not matter what was supplied. -/
theorem Lifecycle.lived_unnoted (h : c.Lifecycle (note supplied c)) (n : ℕ) :
    Lived (supplied n) (c.invocationsOf n) := by
  by_cases hresolving : c.connectionState = .resolving ∧ n = c.connectionGeneration
  · obtain ⟨hresolving, rfl⟩ := hresolving
    rw [(h.opening (Or.inl hresolving)).silent]
    exact lived_nil _
  · have hsame : note supplied c n = supplied n := by
      rcases not_and_or.mp hresolving with hstate | hn
      · rw [note_moved hstate]
      · exact note_other hn
    rw [← hsame]
    exact h.lived n

theorem invocationsOf_congr (h : c'.invocations = c.invocations) (n : ℕ) :
    c'.invocationsOf n = c.invocationsOf n := by
  rw [invocationsOf, invocationsOf, h]

theorem SameAttempt.note (h : SameAttempt c c') (supplied : ℕ → SuppliedCallbacks) :
    note supplied c' = note supplied c := by
  unfold NetworkClient.note
  rw [h.state, h.generation, h.held]

theorem Lifecycle.of_same (h : c.Lifecycle supplied) (hsame : SameAttempt c c') :
    c'.Lifecycle supplied := by
  have hlog := invocationsOf_congr hsame.invocations
  refine ⟨?_, ?_, ?_, ?_, ?_, ?_, ?_⟩
  · rw [hsame.callbacks, hsame.generation]
    exact h.own
  · rw [hsame.posted, hsame.generation]
    exact h.posted
  · rw [hsame.generation]
    intro n hn
    rw [hlog]
    exact h.past n hn
  · rw [hsame.generation]
    intro n hn
    rw [hlog]
    exact h.future n hn
  · rw [hsame.state, hsame.generation, hlog]
    exact h.ended
  · rw [hsame.state, hsame.generation]
    intro hstate
    obtain ⟨hsilent, hholds, hposted⟩ := h.opening hstate
    refine ⟨?_, ?_, ?_⟩
    · rw [hlog, hsame.generation]
      exact hsilent
    · rw [hsame.callbacks]
      exact hholds
    · rw [hsame.posted, hsame.generation]
      exact hposted
  · rw [hsame.state, hsame.generation]
    intro hstate
    obtain ⟨hopened, hholds, hasked⟩ := h.established hstate
    refine ⟨?_, ?_, ?_⟩
    · rw [hlog, hsame.generation]
      exact hopened
    · rw [hsame.callbacks]
      exact hholds
    · rw [hsame.posted, hsame.generation]
      exact hasked

/-! ## Calls -/

theorem SameAttempt.refl (c : NetworkClient) : SameAttempt c c := ⟨rfl, rfl, rfl, rfl, rfl, rfl⟩

theorem SameAttempt.trans {c'' : NetworkClient} (h : SameAttempt c c') (h' : SameAttempt c' c'') :
    SameAttempt c c'' :=
  ⟨h'.state.trans h.state, h'.generation.trans h.generation, h'.held.trans h.held,
    h'.callbacks.trans h.callbacks, h'.posted.trans h.posted, h'.invocations.trans h.invocations⟩

theorem send_attempt (c : NetworkClient) (type : MessageType) (payload : List UInt8) :
    SameAttempt c (c.send type payload).2 := by
  rcases send_cases c type payload with ⟨-, hsend⟩ | ⟨-, diagnostics, hsend⟩
  · rw [hsend]
    exact ⟨rfl, rfl, rfl, rfl, rfl, rfl⟩
  · rw [hsend]
    exact ⟨rfl, rfl, rfl, rfl, rfl, rfl⟩

theorem sendPing_attempt (c : NetworkClient) (clock : ℕ → UInt64) :
    SameAttempt c (c.sendPing clock).2 := by
  unfold sendPing
  split
  · exact .refl c
  · have hread : SameAttempt c (c.readClock clock).2 := ⟨rfl, rfl, rfl, rfl, rfl, rfl⟩
    exact hread.trans (send_attempt _ _ _)

theorem sendPlayerInput_attempt (c : NetworkClient) (input : PlayerInputPayload) :
    SameAttempt c (c.sendPlayerInput input).2 := by
  unfold sendPlayerInput
  split
  · exact .refl c
  split
  · exact ⟨rfl, rfl, rfl, rfl, rfl, rfl⟩
  split
  split
  · exact ⟨rfl, rfl, rfl, rfl, rfl, rfl⟩
  · exact send_attempt _ _ _

/-- A new attempt: `Connect` has succeeded. -/
structure Started (c c' : NetworkClient) : Prop where
  before : c.connectionState = .disconnected
  state : c'.connectionState = .resolving
  generation : c'.connectionGeneration = c.connectionGeneration + 1
  own : ∀ i n, c'.callbackFor i = some n → n = c'.connectionGeneration
  posted : c'.posted = c.posted
  invocations : c'.invocations = c.invocations

/-- An attempt given up: `Disconnect` has succeeded. -/
structure GivenUp (c c' : NetworkClient) : Prop where
  before : c.connectionState ≠ .disconnected
  state : c'.connectionState = .disconnected
  generation : c'.connectionGeneration = c.connectionGeneration + 1
  own : ∀ i, c'.callbackFor i = none
  posted : c'.posted = c.posted
  invocations : c'.invocations = c.invocations

theorem connect_cases (c : NetworkClient) (host : String) (port : UInt16)
    (callbacks : SuppliedCallbacks) :
    c.connect host port callbacks = (false, c) ∨
      ((c.connect host port callbacks).1 = true ∧ Started c (c.connect host port callbacks).2 ∧
        (c.connect host port callbacks).2.held = callbacks) := by
  unfold connect
  split
  · exact Or.inl rfl
  next hstate =>
  split
  · exact Or.inl rfl
  right
  refine ⟨rfl, ⟨by simpa using hstate, rfl, rfl, ?_, rfl, rfl⟩, ?_⟩
  · intro i n hn
    cases i <;> exact (Option.ite_some_none_eq_some.mp hn).2.symm
  · simp only [held]
    cases callbacks with
    | mk b₁ b₂ b₃ b₄ b₅ => cases b₁ <;> cases b₂ <;> cases b₃ <;> cases b₄ <;> cases b₅ <;> rfl

theorem disconnect_cases (c : NetworkClient) :
    c.disconnect = (false, c) ∨ (c.disconnect.1 = true ∧ GivenUp c c.disconnect.2) := by
  unfold disconnect
  split
  · exact Or.inl rfl
  next hstate =>
  right
  refine ⟨rfl, by simpa using hstate, rfl, rfl, ?_, rfl, rfl⟩
  intro i
  cases i <;> rfl

/-- **What a call can do** to the attempts of a client. -/
theorem run_cases (clock : ℕ → UInt64) (call : ApiCall) (c : NetworkClient) :
    SameAttempt c (call.run clock c) ∨ Started c (call.run clock c) ∨
      GivenUp c (call.run clock c) := by
  cases call with
  | connect host port callbacks =>
      simp only [ApiCall.run]
      rcases connect_cases c host port callbacks with hrefused | ⟨-, hstarted, -⟩
      · rw [hrefused]
        exact Or.inl (.refl c)
      · exact Or.inr (Or.inl hstarted)
  | disconnect =>
      simp only [ApiCall.run]
      rcases disconnect_cases c with hrefused | ⟨-, hgivenUp⟩
      · rw [hrefused]
        exact Or.inl (.refl c)
      · exact Or.inr (Or.inr hgivenUp)
  | send message => exact Or.inl (send_attempt c _ _)
  | sendPing => exact Or.inl (sendPing_attempt c clock)
  | sendPlayerInput input => exact Or.inl (sendPlayerInput_attempt c input)

/-- Calls call nothing back, and no generation comes again. -/
theorem run_quiet (clock : ℕ → UInt64) (call : ApiCall) (c : NetworkClient) :
    (call.run clock c).invocations = c.invocations ∧
      c.connectionGeneration ≤ (call.run clock c).connectionGeneration := by
  rcases run_cases clock call c with h | h | h
  · exact ⟨h.invocations, h.generation.ge⟩
  · exact ⟨h.invocations, by rw [h.generation]; exact Nat.le_succ _⟩
  · exact ⟨h.invocations, by rw [h.generation]; exact Nat.le_succ _⟩

theorem calls_quiet (clock : ℕ → UInt64) (calls : List ApiCall) (c : NetworkClient) :
    (calls.foldl (ApiCall.run clock) c).invocations = c.invocations ∧
      c.connectionGeneration ≤ (calls.foldl (ApiCall.run clock) c).connectionGeneration := by
  induction calls generalizing c with
  | nil => exact ⟨rfl, Nat.le_refl _⟩
  | cons call calls ih =>
      obtain ⟨hlog, hgeneration⟩ := run_quiet clock call c
      obtain ⟨hlogs, hgenerations⟩ := ih (call.run clock c)
      exact ⟨hlogs.trans hlog, hgeneration.trans hgenerations⟩

/-- The attempts before a new generation. -/
theorem Lifecycle.past_next (h : c.Lifecycle (note supplied c))
    (hlog : c'.invocations = c.invocations) {n : ℕ} (hn : n < c'.connectionGeneration) :
    Lived (note supplied c' n) (c'.invocationsOf n) := by
  rw [note_other hn.ne, invocationsOf_congr hlog]
  exact h.lived_unnoted n

theorem Lifecycle.started (h : c.Lifecycle (note supplied c)) (hstarted : Started c c') :
    c'.Lifecycle (note supplied c') := by
  have hgeneration := hstarted.generation
  have hlog := invocationsOf_congr hstarted.invocations
  have hnew : c'.invocationsOf c'.connectionGeneration = [] := by
    rw [hlog]
    exact h.future _ (by omega)
  refine ⟨hstarted.own, ?_, fun n hn => h.past_next hstarted.invocations hn, ?_, ?_,
    fun _ => ⟨hnew, ?_, ?_⟩, ?_⟩
  · intro p hp
    rw [hstarted.posted] at hp
    obtain ⟨hle, hrest⟩ := h.posted p hp
    exact ⟨by omega, hrest⟩
  · intro n hn
    rw [hlog]
    exact h.future n (by omega)
  · intro hstate
    exact absurd (hstarted.state.symm.trans hstate) (by decide)
  · intro i
    rw [note, if_pos hstarted.state, Function.update_self, held_gives]
  · intro p hp
    rw [hstarted.posted] at hp
    have hle := (h.posted p hp).1
    omega
  · intro hstate
    exact absurd (hstarted.state.symm.trans hstate) (by decide)

theorem Lifecycle.givenUp (h : c.Lifecycle (note supplied c)) (hgivenUp : GivenUp c c') :
    c'.Lifecycle (note supplied c') := by
  have hgeneration := hgivenUp.generation
  have hlog := invocationsOf_congr hgivenUp.invocations
  have hnew : c'.invocationsOf c'.connectionGeneration = [] := by
    rw [hlog]
    exact h.future _ (by omega)
  refine ⟨?_, ?_, fun n hn => h.past_next hgivenUp.invocations hn, ?_, ?_, ?_, ?_⟩
  · intro i n hn
    rw [hgivenUp.own i] at hn
    cases hn
  · intro p hp
    rw [hgivenUp.posted] at hp
    obtain ⟨hle, hrest⟩ := h.posted p hp
    exact ⟨by omega, hrest⟩
  · intro n hn
    rw [hlog]
    exact h.future n (by omega)
  · intro _
    rw [hnew]
    exact lived_nil _
  · rw [hgivenUp.state]
    intro hstate
    rcases hstate with hstate | hstate <;> cases hstate
  · rw [hgivenUp.state]
    nofun

theorem Lifecycle.calls (clock : ℕ → UInt64) (calls : List ApiCall)
    (h : c.Lifecycle (note supplied c)) :
    (calls.foldl (ApiCall.run clock) c).Lifecycle
      (note supplied (calls.foldl (ApiCall.run clock) c)) := by
  induction calls generalizing c with
  | nil => exact h
  | cons call calls ih =>
      apply ih
      rcases run_cases clock call c with hcall | hcall | hcall
      · rw [hcall.note]
        exact h.of_same hcall
      · exact h.started hcall
      · exact h.givenUp hcall

/-! ## Handlers -/

/-- What dispatching a message can post. -/
structure Posts (c c' : NetworkClient) : Prop where
  state : c'.connectionState = c.connectionState
  generation : c'.connectionGeneration = c.connectionGeneration
  callbacks : c'.callbackFor = c.callbackFor
  invocations : c'.invocations = c.invocations
  posted : ∀ p ∈ c'.posted, p ∈ c.posted ∨ (p.generation = c.connectionGeneration ∧
    p.invocation.isDelivery = true ∧ c.callbackFor p.invocation = some p.attempt)

theorem post_posts (c : NetworkClient) (i : Invocation) (hdelivery : i.isDelivery = true) :
    Posts c (c.post (c.callbackFor i) i) := by
  unfold post
  split
  · exact ⟨rfl, rfl, rfl, rfl, fun p hp => Or.inl hp⟩
  next attempt hattempt =>
  refine ⟨rfl, rfl, rfl, rfl, fun p hp => ?_⟩
  rcases List.mem_append.mp hp with hp | hp
  · exact Or.inl hp
  · obtain rfl := List.mem_singleton.mp hp
    exact Or.inr ⟨rfl, hdelivery, hattempt⟩

theorem dispatchOn_posts (env : ClientEnvironment α) (message : Message) (a : α)
    (c : NetworkClient) : Posts c (dispatchOn env message (c, a)).2.1 := by
  have hnothing : ∀ {c' : NetworkClient}, c'.connectionState = c.connectionState →
      c'.connectionGeneration = c.connectionGeneration → c'.callbackFor = c.callbackFor →
      c'.invocations = c.invocations → c'.posted = c.posted → Posts c c' :=
    fun hstate hgeneration hcallbacks hlog hposted =>
      ⟨hstate, hgeneration, hcallbacks, hlog, fun p hp => Or.inl (hposted ▸ hp)⟩
  unfold dispatchOn dispatchMessage
  dsimp only
  split
  · unfold handlePong readClock
    split
    split
    · exact hnothing rfl rfl rfl rfl rfl
    · dsimp only
      split <;> exact hnothing rfl rfl rfl rfl rfl
  split
  · unfold handlePlayerIdentity
    split
    split
    · exact hnothing rfl rfl rfl rfl rfl
    · next identity _ _ =>
        obtain ⟨hstate, hgeneration, hcallbacks, hlog, hposted⟩ :=
          post_posts { c.recordPacketLog ⟨.receive, message.type, message.payload.length⟩ with
            dispatched := c.dispatched ++ [(c.connectionGeneration,
              ⟨message.header.type, message.payload⟩)]
            traffic := c.traffic ++
              [Traffic.received ⟨message.header.type, message.payload⟩ c.clockReads]
            playerIdentity := some identity } (.playerIdentity identity) rfl
        exact ⟨hstate, hgeneration, hcallbacks, hlog, hposted⟩
  split
  · unfold handleWorldStateSnapshot
    split
    split
    · exact hnothing rfl rfl rfl rfl rfl
    · dsimp only
      split
      · exact hnothing rfl rfl rfl rfl rfl
      split
      · exact hnothing rfl rfl rfl rfl rfl
      · next snapshot _ _ _ _ _ _ =>
          obtain ⟨hstate, hgeneration, hcallbacks, hlog, hposted⟩ :=
            post_posts { c.recordPacketLog ⟨.receive, message.type, message.payload.length⟩ with
              dispatched := c.dispatched ++ [(c.connectionGeneration,
                ⟨message.header.type, message.payload⟩)]
              traffic := c.traffic ++
                [Traffic.received ⟨message.header.type, message.payload⟩ c.clockReads] }
              (.worldStateSnapshot snapshot) rfl
          exact ⟨hstate, hgeneration, hcallbacks, hlog, hposted⟩
  · exact hnothing rfl rfl rfl rfl rfl

/-- A connected client has posted what it was asked to deliver. -/
theorem Lifecycle.posts (h : c.Lifecycle supplied) (hconnected : c.connectionState = .connected)
    (hposts : Posts c c') : c'.Lifecycle supplied := by
  obtain ⟨hstate, hgeneration, hcallbacks, hinvocations, hposted⟩ := hposts
  have hlog := invocationsOf_congr hinvocations
  obtain ⟨hopened, hholds, hasked⟩ := h.established hconnected
  have hgives : ∀ {p : PostedCallback}, p.invocation.isDelivery = true →
      c.callbackFor p.invocation = some p.attempt →
      (supplied c.connectionGeneration).gives p.invocation = true := by
    intro p hdelivery hcallback
    rw [← hholds p.invocation, hcallback]
    · rfl
    · revert hdelivery
      cases p.invocation <;> simp [Invocation.isDelivery, Invocation.whileConnected]
  refine ⟨?_, ?_, ?_, ?_, ?_, ?_, fun _ => ⟨?_, ?_, ?_⟩⟩
  · rw [hcallbacks, hgeneration]
    exact h.own
  · rw [hgeneration]
    intro p hp
    rcases hposted p hp with hold | ⟨hnew, hdelivery, hcallback⟩
    · exact h.posted p hold
    · exact ⟨hnew.le, (h.own _ _ hcallback).trans hnew.symm, hdelivery⟩
  · rw [hgeneration]
    intro n hn
    rw [hlog]
    exact h.past n hn
  · rw [hgeneration]
    intro n hn
    rw [hlog]
    exact h.future n hn
  · rw [hstate, hconnected]
    nofun
  · rw [hstate, hconnected]
    intro hopening
    rcases hopening with hopening | hopening <;> cases hopening
  · rw [hlog, hgeneration]
    exact hopened
  · rw [hcallbacks, hgeneration]
    exact hholds
  · rw [hgeneration]
    intro p hp hcurrent
    rcases hposted p hp with hold | ⟨-, hdelivery, hcallback⟩
    · exact hasked p hold hcurrent
    · exact hgives hdelivery hcallback

/-- **A callback is called** once the client is in the state the callback tells of. -/
theorem Lifecycle.calledBack (h : c.Lifecycle supplied) {callback : Option ℕ} {i : Invocation}
    (hown : ∀ n, callback = some n → n = c.connectionGeneration)
    (hgives : callback.isSome = (supplied c.connectionGeneration).gives i)
    (hgeneration : c'.connectionGeneration = c.connectionGeneration)
    (hinvocations : c'.invocations = c.invocations)
    (hcallbacks : ∀ i n, c'.callbackFor i = some n → c.callbackFor i = some n)
    (hposted : ∀ p ∈ c'.posted, p ∈ c.posted)
    (hopened : c'.connectionState ≠ .resolving ∧ c'.connectionState ≠ .connecting)
    (hended : c'.connectionState = .disconnected →
      Lived (supplied c.connectionGeneration) (c.invocationsOf c.connectionGeneration ++
        [i].filter (supplied c.connectionGeneration).gives))
    (hestablished : c'.connectionState = .connected →
      (∃ deliveries, (∀ d ∈ deliveries, Invocation.isDelivery d = true) ∧
        c.invocationsOf c.connectionGeneration ++
          [i].filter (supplied c.connectionGeneration).gives =
            (.connected :: deliveries).filter (supplied c.connectionGeneration).gives) ∧
      (∀ i, i.whileConnected = true →
        (c'.callbackFor i).isSome = (supplied c.connectionGeneration).gives i) ∧
      ∀ p ∈ c'.posted, p.generation = c.connectionGeneration →
        (supplied c.connectionGeneration).gives p.invocation = true) :
    (c'.noted callback i).Lifecycle supplied := by
  obtain ⟨hcurrent, hothers⟩ := invocationsOf_noted_own (c := c') hown hgives
  have hlog := invocationsOf_congr hinvocations
  have hsame : (c'.noted callback i).connectionGeneration = c.connectionGeneration := hgeneration
  have hheld : (c'.noted callback i).callbackFor = c'.callbackFor := by
    funext i
    cases i <;> rfl
  refine ⟨?_, ?_, ?_, ?_, ?_, ?_, ?_⟩
  · rw [hsame, hheld]
    intro i n hn
    exact h.own i n (hcallbacks i n hn)
  · rw [hsame]
    intro p hp
    exact h.posted p (hposted p hp)
  · rw [hsame]
    intro n hn
    rw [hothers n hn.ne, hlog]
    exact h.past n hn
  · rw [hsame]
    intro n hn
    rw [hothers n hn.ne', hlog]
    exact h.future n hn
  · intro hstate
    rw [hsame, hcurrent, hlog]
    exact hended hstate
  · intro hstate
    exact absurd hstate (not_or.mpr hopened)
  · intro hstate
    obtain ⟨⟨deliveries, hdeliveries, hafter⟩, hholds, hasked⟩ := hestablished hstate
    refine ⟨⟨deliveries, hdeliveries, ?_⟩, ?_, ?_⟩
    · rw [hsame, hcurrent, hlog]
      exact hafter
    · rw [hsame, hheld]
      exact hholds
    · rw [hsame]
      exact hasked

/-- A connection that comes up says so, and holds on to the callbacks for later. -/
theorem Lifecycle.connected (h : c.Lifecycle supplied)
    (hconnecting : c.connectionState = .connecting) :
    (NetworkClient.noted { c with
      connectionState := .connected
      onConnected := none
      onConnectionFailed := none } c.onConnected .connected).Lifecycle supplied := by
  obtain ⟨hsilent, hholds, hnothing⟩ := h.opening (Or.inr hconnecting)
  refine h.calledBack (h.own .connected) (hholds .connected) rfl rfl ?_ (fun _ hp => hp)
    ⟨nofun, nofun⟩ nofun fun _ => ⟨⟨[], nofun, ?_⟩, ?_, ?_⟩
  · intro i n hn
    cases i with
    | connected => cases hn
    | connectionFailed error => cases hn
    | disconnected error => exact hn
    | playerIdentity identity => exact hn
    | worldStateSnapshot snapshot => exact hn
  · rw [hsilent, List.nil_append]
  · intro i hi
    rw [← hholds i]
    cases i with
    | connected => cases hi
    | connectionFailed error => cases hi
    | disconnected error => rfl
    | playerIdentity identity => rfl
    | worldStateSnapshot snapshot => rfl
  · intro p hp hgeneration
    exact absurd hgeneration (hnothing p hp)

/-- An attempt that is over says so, and holds fewer callbacks for later. -/
theorem Lifecycle.over (h : c.Lifecycle supplied) {i : Invocation}
    (hgives : (c.callbackFor i).isSome = (supplied c.connectionGeneration).gives i)
    (hlived : Lived (supplied c.connectionGeneration)
      (c.invocationsOf c.connectionGeneration ++
        [i].filter (supplied c.connectionGeneration).gives))
    (hstate : c'.connectionState = .disconnected)
    (hgeneration : c'.connectionGeneration = c.connectionGeneration)
    (hinvocations : c'.invocations = c.invocations)
    (hcallbacks : ∀ i n, c'.callbackFor i = some n → c.callbackFor i = some n)
    (hposted : c'.posted = c.posted) : (c'.noted (c.callbackFor i) i).Lifecycle supplied := by
  refine h.calledBack (h.own i) hgives hgeneration hinvocations hcallbacks
    (fun p hp => hposted ▸ hp) ?_ (fun _ => hlived) fun hconnected => ?_
  · rw [hstate]
    exact ⟨nofun, nofun⟩
  · exact absurd (hstate.symm.trans hconnected) (by decide)

/-- A client that has delivered one more thing. -/
theorem Lifecycle.delivered (h : c.Lifecycle supplied) {p : PostedCallback} (hp : p ∈ c.posted)
    (hcurrent : p.generation = c.connectionGeneration) (hconnected : c.connectionState = .connected)
    {posted : List PostedCallback} (hposted : ∀ q ∈ posted, q ∈ c.posted) :
    (NetworkClient.noted { c with posted := posted } (some p.attempt)
      p.invocation).Lifecycle supplied := by
  obtain ⟨-, hattempt, hdelivery⟩ := h.posted p hp
  obtain ⟨⟨deliveries, hdeliveries, hlog⟩, hholds, hasked⟩ := h.established hconnected
  have hown : ∀ n, some p.attempt = some n → n = c.connectionGeneration := by
    intro n hn
    cases hn
    exact hattempt.trans hcurrent
  have hmoved : c.connectionState ≠ .resolving ∧ c.connectionState ≠ .connecting := by
    rw [hconnected]
    exact ⟨nofun, nofun⟩
  refine h.calledBack hown (hasked p hp hcurrent).symm rfl rfl ?_ hposted hmoved ?_
    fun _ => ⟨⟨deliveries ++ [p.invocation], ?_, ?_⟩, ?_, fun q hq => hasked q (hposted q hq)⟩
  · intro i n hn
    cases i <;> exact hn
  · intro hno
    exact absurd (hconnected.symm.trans hno) (by decide)
  · intro d hd
    rcases List.mem_append.mp hd with hd | hd
    · exact hdeliveries d hd
    · rw [List.mem_singleton.mp hd]
      exact hdelivery
  · rw [hlog, ← List.cons_append, List.filter_append]
  · intro i hi
    rw [← hholds i hi]
    cases i <;> rfl

/-- A handler that has not called the application back. -/
structure Quiet (supplied : ℕ → SuppliedCallbacks) (before c : NetworkClient) : Prop where
  lifecycle : c.Lifecycle supplied
  generation : c.connectionGeneration = before.connectionGeneration
  log : c.invocations = before.invocations

/-- A handler that may have called back for the current attempt, once, and any calls after that. -/
structure Told (supplied : ℕ → SuppliedCallbacks) (before c : NetworkClient) : Prop where
  lifecycle : c.Lifecycle (note supplied c)
  generation : before.connectionGeneration ≤ c.connectionGeneration
  log : ∃ invoked : Option Invocation, c.invocations =
    before.invocations ++ invoked.toList.map (before.connectionGeneration, ·)

variable {before : NetworkClient}

theorem Quiet.told (h : Quiet supplied before c) : Told supplied before c where
  lifecycle := by
    rw [h.lifecycle.noted]
    exact h.lifecycle
  generation := h.generation.ge
  log := ⟨none, by rw [h.log]; simp⟩

theorem Quiet.of_same (h : Quiet supplied before c) (hsame : SameAttempt c c') :
    Quiet supplied before c' :=
  ⟨h.lifecycle.of_same hsame, hsame.generation.trans h.generation,
    hsame.invocations.trans h.log⟩

theorem Told.calls (clock : ℕ → UInt64) (calls : List ApiCall) (h : Told supplied before c) :
    Told supplied before (calls.foldl (ApiCall.run clock) c) := by
  obtain ⟨hlog, hgeneration⟩ := calls_quiet clock calls c
  refine ⟨h.lifecycle.calls clock calls, h.generation.trans hgeneration, ?_⟩
  rw [hlog]
  exact h.log

/-- The one invocation of a handler. -/
theorem Quiet.noted (h : Quiet supplied before c) {callback : Option ℕ} {i : Invocation}
    (hown : ∀ n, callback = some n → n = c.connectionGeneration)
    (hgeneration : c'.connectionGeneration = c.connectionGeneration)
    (hinvocations : c'.invocations = c.invocations)
    (hlifecycle : (c'.noted callback i).Lifecycle supplied) :
    Told supplied before (c'.noted callback i) := by
  refine ⟨?_, ?_, callback.map fun _ => i, ?_⟩
  · rw [hlifecycle.noted]
    exact hlifecycle
  · exact (hgeneration.trans h.generation).ge
  · rw [NetworkClient.noted, hinvocations, h.log]
    cases callback with
    | none => rfl
    | some n =>
        obtain rfl := hown n rfl
        rw [← h.generation]
        rfl

theorem lifecycle_handled (env : ClientEnvironment α) (supplied : ℕ → SuppliedCallbacks)
    (before : NetworkClient) : Handled env (Quiet supplied before) (Told supplied before) where
  weaken h := h.told
  calls calls h := h.calls env.clock calls
  reads _ _ h := by
    refine ⟨?_, h.generation, h.log⟩
    exact Lifecycle.of_same h.lifecycle ⟨rfl, rfl, rfl, rfl, rfl, rfl⟩
  dispatch {c} message a hconnected h := by
    have hposts := dispatchOn_posts env message a c
    exact ⟨h.lifecycle.posts hconnected hposts, hposts.generation.trans h.generation,
      hposts.invocations.trans h.log⟩
  buffer _ h := h.of_same ⟨rfl, rfl, rfl, rfl, rfl, rfl⟩
  resolved {c} hresolving h := by
    obtain ⟨hsilent, hholds, hnothing⟩ := h.lifecycle.opening (Or.inl hresolving)
    refine ⟨⟨h.lifecycle.own, h.lifecycle.posted, h.lifecycle.past, h.lifecycle.future, nofun,
      fun _ => ⟨hsilent, hholds, hnothing⟩, nofun⟩, h.generation, h.log⟩
  connected hconnecting h :=
    h.noted (h.lifecycle.own .connected) rfl rfl (h.lifecycle.connected hconnecting)
  failed {c} error hopening h := by
    have hopened := h.lifecycle.opening hopening
    refine h.noted (h.lifecycle.own (.connectionFailed error)) rfl rfl ?_
    refine h.lifecycle.over (i := .connectionFailed error) (hopened.holds _) ?_ rfl rfl rfl ?_ rfl
    · rw [hopened.silent, List.nil_append]
      exact lived_failed _ error
    · intro i n hn
      cases i <;> cases hn
  ended {c} error hconnected h := by
    obtain ⟨⟨deliveries, hdeliveries, hlog⟩, hholds, -⟩ := h.lifecycle.established hconnected
    refine h.noted (h.lifecycle.own (.disconnected error)) rfl rfl ?_
    refine h.lifecycle.over (i := .disconnected error) (hholds _ rfl) ?_ rfl rfl rfl ?_ rfl
    · rw [hlog]
      exact lived_disconnected _ hdeliveries error
    · intro i n hn
      cases i with
      | connected => exact hn
      | connectionFailed error => exact hn
      | disconnected error => cases hn
      | playerIdentity identity => cases hn
      | worldStateSnapshot snapshot => cases hn

/-- A posted callback is of the attempt it was posted for. -/
theorem Quiet.handlePosted (h : Quiet supplied before c) (env : ClientEnvironment α)
    {callback : PostedCallback} {i : ℕ} (hposted : c.posted[i]? = some callback) (a : α) :
    Told supplied before ((c.retirePosted i).handlePosted env callback a).1 := by
  have hsub : ∀ q ∈ (c.retirePosted i).posted, q ∈ c.posted :=
    fun q hq => List.mem_of_mem_eraseIdx hq
  unfold NetworkClient.handlePosted
  split
  · refine Quiet.told ⟨⟨h.lifecycle.own, fun q hq => h.lifecycle.posted q (hsub q hq),
      h.lifecycle.past, h.lifecycle.future, h.lifecycle.ended, fun hopening => ?_,
      fun hconnected => ?_⟩, h.generation, h.log⟩
    · obtain ⟨hsilent, hholds, hnothing⟩ := h.lifecycle.opening hopening
      exact ⟨hsilent, hholds, fun q hq => hnothing q (hsub q hq)⟩
    · obtain ⟨hlog, hholds, hasked⟩ := h.lifecycle.established hconnected
      exact ⟨hlog, hholds, fun q hq => hasked q (hsub q hq)⟩
  · next hcurrent =>
      simp only [isCurrentOperation, retirePosted, Bool.not_eq_true', Bool.not_eq_false,
        Bool.and_eq_true, beq_iff_eq] at hcurrent
      obtain ⟨hgeneration, hconnected⟩ := hcurrent
      have hmem := List.mem_of_getElem? hposted
      have hattempt := (h.lifecycle.posted callback hmem).2.1
      have hdelivered := h.lifecycle.delivered hmem hgeneration hconnected hsub
      refine (lifecycle_handled env supplied before).invoke _ _ a ?_
      refine h.noted ?_ rfl rfl hdelivered
      intro n hn
      cases hn
      exact hattempt.trans hgeneration

end Lifecycle

end NetworkClient

/-! ## Runs -/

section Runs

variable {env : ClientEnvironment α} {r r' : ClientRun α} {input : ClientInput}

/-- What a run notes is what is read off the client after the step. -/
theorem ClientRun.step_supplied (hstep : r.step env input = some r') :
    r'.supplied = NetworkClient.note r.supplied r'.client := by
  cases ClientRun.step_cases hstep <;> rfl

/-- **What one event tells the application**: at most one thing, about the attempt that was current
when the event came. -/
theorem ClientRun.step_told (h : r.client.Lifecycle r.supplied)
    (hstep : r.step env input = some r') : NetworkClient.Told r.supplied r.client r'.client := by
  refine ClientRun.step_keeps (NetworkClient.lifecycle_handled env r.supplied r.client)
    (fun _ _ _ _ _ _ h => h.of_same ⟨rfl, rfl, rfl, rfl, rfl, rfl⟩)
    (fun _ _ h => h.of_same ⟨rfl, rfl, rfl, rfl, rfl, rfl⟩) ⟨h, rfl, rfl⟩ ?_ ?_ hstep
  · intro i error write _ _ _
    have hretired : NetworkClient.Quiet r.supplied r.client (r.client.retireWrite i) :=
      ⟨h.of_same ⟨rfl, rfl, rfl, rfl, rfl, rfl⟩, rfl, rfl⟩
    exact (NetworkClient.lifecycle_handled env r.supplied r.client).handleWrite
      (fun _ _ _ _ h => h.of_same ⟨rfl, rfl, rfl, rfl, rfl, rfl⟩) error _ _ _ hretired
  · intro i callback _ hposted
    exact NetworkClient.Quiet.handlePosted ⟨h, rfl, rfl⟩ env hposted r.application

theorem ClientRun.lifecycle_step (h : r.client.Lifecycle r.supplied)
    (hstep : r.step env input = some r') : r'.client.Lifecycle r'.supplied := by
  rw [ClientRun.step_supplied hstep]
  exact (ClientRun.step_told h hstep).lifecycle

/-- Attempts that are not current any more are never called back. -/
theorem ClientRun.later_quiet (h : r.client.Lifecycle r.supplied) {later : List ClientInput}
    (hrun : runFrom (ClientRun.step env) r later = some r') :
    r.client.connectionGeneration ≤ r'.client.connectionGeneration ∧
      ∀ n < r.client.connectionGeneration,
        r'.client.invocationsOf n = r.client.invocationsOf n := by
  refine (runFrom_induction (P := fun r₁ : ClientRun α => r₁.client.Lifecycle r₁.supplied ∧
    r.client.connectionGeneration ≤ r₁.client.connectionGeneration ∧
      ∀ n < r.client.connectionGeneration,
        r₁.client.invocationsOf n = r.client.invocationsOf n) ?_
    ⟨h, Nat.le_refl _, fun _ _ => rfl⟩ hrun).2
  rintro r₁ input r₂ ⟨hlifecycle, hle, hsame⟩ hstep
  have htold := ClientRun.step_told hlifecycle hstep
  refine ⟨ClientRun.lifecycle_step hlifecycle hstep, hle.trans htold.generation, fun n hn => ?_⟩
  obtain ⟨invoked, hlog⟩ := htold.log
  rw [← hsame n hn, NetworkClient.invocationsOf, NetworkClient.invocationsOf, hlog,
    List.filter_append, List.map_append]
  have hne : r₁.client.connectionGeneration ≠ n := by omega
  cases invoked <;> simp [hne]

end Runs

/-! ## Counting in 64 bits -/

/-- The generations that the handlers of what asio owes the client have captured. -/
def NetworkClient.captured (c : NetworkClient) : List ℕ :=
  c.resolvesOutstanding ++ c.connectsOutstanding ++ c.readsOutstanding ++
    c.writesOutstanding.map (·.generation) ++ c.posted.map (·.generation)

/-- What is being opened or read belongs to no later attempt. -/
structure NetworkClient.Opened (c : NetworkClient) : Prop where
  resolves : ∀ g ∈ c.resolvesOutstanding, g ≤ c.connectionGeneration
  connects : ∀ g ∈ c.connectsOutstanding, g ≤ c.connectionGeneration
  reads : ∀ g ∈ c.readsOutstanding, g ≤ c.connectionGeneration

section Captured

variable {c c' : NetworkClient} {env : ClientEnvironment α} {r r' : ClientRun α}
  {input : ClientInput}

namespace NetworkClient

theorem Opened.of_eq (h : c.Opened) (hgeneration : c.connectionGeneration ≤ c'.connectionGeneration)
    (hresolves : c'.resolvesOutstanding ⊆ c.resolvesOutstanding)
    (hconnects : c'.connectsOutstanding ⊆ c.connectsOutstanding)
    (hreads : c'.readsOutstanding ⊆ c.readsOutstanding) : c'.Opened where
  resolves g hg := (h.resolves g (hresolves hg)).trans hgeneration
  connects g hg := (h.connects g (hconnects hg)).trans hgeneration
  reads g hg := (h.reads g (hreads hg)).trans hgeneration

theorem Opened.of_same (h : c.Opened)
    (hgeneration : c'.connectionGeneration = c.connectionGeneration)
    (hresolves : c'.resolvesOutstanding = c.resolvesOutstanding)
    (hconnects : c'.connectsOutstanding = c.connectsOutstanding)
    (hreads : c'.readsOutstanding = c.readsOutstanding) : c'.Opened :=
  h.of_eq hgeneration.ge (fun _ hg => hresolves ▸ hg) (fun _ hg => hconnects ▸ hg)
    (fun _ hg => hreads ▸ hg)

theorem opened_initial : Opened {} := ⟨nofun, nofun, nofun⟩

theorem opened_survives : Survives Opened where
  connect {c} host port callbacks h := by
    unfold NetworkClient.connect
    split
    · exact h
    split
    · exact h
    refine ⟨fun g hg => ?_, fun g hg => (h.connects g hg).trans (Nat.le_succ _),
      fun g hg => (h.reads g hg).trans (Nat.le_succ _)⟩
    rcases List.mem_append.mp hg with hg | hg
    · exact (h.resolves g hg).trans (Nat.le_succ _)
    · exact (List.mem_singleton.mp hg).le
  disconnect {c} h := by
    unfold NetworkClient.disconnect
    split
    · exact h
    · exact h.of_eq (Nat.le_succ _) (List.Subset.refl _) (List.Subset.refl _) (List.Subset.refl _)
  send {c} type payload h := by
    rcases send_cases c type payload with ⟨-, hsend⟩ | ⟨-, diagnostics, hsend⟩
    · rw [hsend]
      exact h.of_same rfl rfl rfl rfl
    · rw [hsend]
      exact h.of_same rfl rfl rfl rfl
  report _ h := h.of_same rfl rfl rfl rfl
  readClock _ h := h.of_same rfl rfl rfl rfl
  invocations _ h := h.of_same rfl rfl rfl rfl

theorem opened_handled (env : ClientEnvironment α) : Handled env Opened Opened where
  weaken h := h
  calls calls h := opened_survives.calls env.clock calls h
  reads reads hreads h := by
    refine ⟨h.resolves, h.connects, fun g hg => ?_⟩
    rcases hreads g hg with hold | hnow
    · exact h.reads g hold
    · exact hnow.le
  dispatch {c} message a _ h := by
    obtain ⟨identity, rtt, posted, clockReads, diagnostics, hafter, -⟩ :=
      dispatchOn_eq env message c a
    rw [hafter]
    exact h.of_same rfl rfl rfl rfl
  buffer _ h := h.of_same rfl rfl rfl rfl
  resolved _ h := by
    refine ⟨h.resolves, fun g hg => ?_, h.reads⟩
    rcases List.mem_append.mp hg with hg | hg
    · exact h.connects g hg
    · exact (List.mem_singleton.mp hg).le
  connected _ h := h.of_same rfl rfl rfl rfl
  failed _ _ h := h.of_same rfl rfl rfl rfl
  ended _ _ h := h.of_same rfl rfl rfl rfl

end NetworkClient

theorem ClientRun.opened_step (h : r.client.Opened) (hstep : r.step env input = some r') :
    r'.client.Opened := by
  refine ClientRun.step_keeps (NetworkClient.opened_handled env)
    (fun _ _ _ hresolves hconnects hreads h =>
      h.of_eq (Nat.le_refl _) hresolves hconnects hreads)
    (fun _ _ h => h.of_same rfl rfl rfl rfl) h ?_ ?_ hstep
  · intro i error write _ _ _
    exact (NetworkClient.opened_handled env).handleWrite
      (fun _ _ _ _ h => h.of_same rfl rfl rfl rfl) error _ _ _ (h.of_same rfl rfl rfl rfl)
  · intro i callback _ _
    have hretired : (r.client.retirePosted i).Opened := h.of_same rfl rfl rfl rfl
    unfold NetworkClient.handlePosted
    split
    · exact hretired
    · exact NetworkClient.opened_survives.invoke env _ _ r.application hretired

/-- **The counter of the source**, which has 64 bits, tells the generations of what is owed from the
current one as well as the numbers do, until it has counted to the end. -/
structure NetworkClient.Counts (c : NetworkClient) (generation : ℕ) : Prop where
  past : generation ≤ c.connectionGeneration
  bits : c.connectionGeneration < 2 ^ 64 →
    (UInt64.ofNat generation = UInt64.ofNat c.connectionGeneration ↔
      generation = c.connectionGeneration)

theorem NetworkClient.counts_of_le {generation : ℕ} (h : generation ≤ c.connectionGeneration) :
    c.Counts generation where
  past := h
  bits hbits := by
    rw [← UInt64.toNat_inj, UInt64.toNat_ofNat_of_lt' (h.trans_lt hbits),
      UInt64.toNat_ofNat_of_lt' hbits]

/-- What is owed was captured by now. -/
theorem NetworkClient.counts_captured {supplied : ℕ → SuppliedCallbacks} {out : ℕ → List UInt8}
    (hopened : c.Opened) (hsends : c.SendSide out) (hlifecycle : c.Lifecycle supplied)
    {generation : ℕ} (h : generation ∈ c.captured) : c.Counts generation := by
  apply NetworkClient.counts_of_le
  simp only [NetworkClient.captured, List.mem_append, List.mem_map] at h
  rcases h with (((hg | hg) | hg) | ⟨write, hwrite, rfl⟩) | ⟨callback, hcallback, rfl⟩
  · exact hopened.resolves generation hg
  · exact hopened.connects generation hg
  · exact hopened.reads generation hg
  · exact hsends.writesPast write hwrite
  · exact (hlifecycle.posted callback hcallback).1

end Captured

/-! ## The lifecycle of a connection -/

/-- What a completion of another generation does: nothing. -/
structure NetworkClient.IgnoresLate (env : ClientEnvironment α) (c : NetworkClient) (a : α)
    (generation : ℕ) : Prop where
  resolve : ∀ error, c.handleResolve env error generation a = (c, a)
  connect : ∀ error, c.handleConnect env error generation a = (c, a)
  read : ∀ error received, c.handleRead env error received generation a = (c, a)
  write : ∀ error bytesTransferred,
    c.handleWrite env error bytesTransferred generation a = (c, a)
  posted : ∀ attempt i, c.handlePosted env ⟨generation, attempt, i⟩ a = (c, a)

theorem NetworkClient.ignoresLate (env : ClientEnvironment α) (c : NetworkClient) (a : α)
    {generation : ℕ} (h : generation ≠ c.connectionGeneration) :
    c.IgnoresLate env a generation := by
  have hlate : ∀ state, (!c.isCurrentOperation generation state) = true := by
    intro state
    simp [isCurrentOperation, h]
  exact ⟨fun _ => if_pos (hlate _), fun _ => if_pos (hlate _), fun _ _ => if_pos (hlate _),
    fun _ _ => if_pos (hlate _), fun _ _ => if_pos (hlate _)⟩

/-- What `Connect` and `Disconnect` do to a client, by their result. -/
structure NetworkClient.Calls (clock : ℕ → UInt64) (c : NetworkClient) : Prop where
  connectRefused : ∀ host port callbacks, (c.connect host port callbacks).1 = false →
    (c.connect host port callbacks).2 = c
  connectStarts : ∀ host port callbacks, (c.connect host port callbacks).1 = true →
    Started c (c.connect host port callbacks).2 ∧ (c.connect host port callbacks).2.held = callbacks
  disconnectRefused : c.disconnect.1 = false → c.disconnect.2 = c
  /-- Nothing is called back by `Disconnect`, nor by what the caller calls next, and the attempt is
  in the past then. -/
  disconnects : c.disconnect.1 = true → ∀ calls : List ApiCall,
    (calls.foldl (ApiCall.run clock) c.disconnect.2).invocations = c.invocations ∧
      c.connectionGeneration <
        (calls.foldl (ApiCall.run clock) c.disconnect.2).connectionGeneration

theorem NetworkClient.calls (clock : ℕ → UInt64) (c : NetworkClient) : c.Calls clock where
  connectRefused host port callbacks h := by
    rcases connect_cases c host port callbacks with hrefused | ⟨htrue, -⟩
    · rw [hrefused]
    · rw [h] at htrue
      cases htrue
  connectStarts host port callbacks h := by
    rcases connect_cases c host port callbacks with hrefused | ⟨-, hstarted⟩
    · rw [hrefused] at h
      cases h
    · exact hstarted
  disconnectRefused h := by
    rcases disconnect_cases c with hrefused | ⟨htrue, -⟩
    · rw [hrefused]
    · rw [h] at htrue
      cases htrue
  disconnects h calls := by
    rcases disconnect_cases c with hrefused | ⟨-, hgivenUp⟩
    · rw [hrefused] at h
      cases h
    · obtain ⟨hlog, hgeneration⟩ := calls_quiet clock calls c.disconnect.2
      refine ⟨hlog.trans hgivenUp.invocations, ?_⟩
      have hnext := hgivenUp.generation
      omega

/-- **The lifecycle of a client's connections.** After every run, whatever the application calls
from inside its callbacks: the callbacks of each attempt have come in order; an event calls back at
most once, for the attempt that is current when it comes; and attempts of the past are never called
back again. `Disconnect` puts its attempt into the past. What captured another generation changes
nothing, and neither does a call that returns false. Whether a generation is the current one does
not depend on whether they are counted as here or in 64 bits, as long as `Connect` and `Disconnect`
have succeeded fewer than 2^64 times. -/
theorem client_lifecycle (env : ClientEnvironment α) (application : α)
    (inputs : List ClientInput) (r : ClientRun α)
    (h : runFrom (ClientRun.step env) { application } inputs = some r) :
    (∀ attempt, Lived (r.supplied attempt) (r.client.invocationsOf attempt)) ∧
      (r.client.connectionState = .resolving →
        r.supplied r.client.connectionGeneration = r.client.held) ∧
      (∀ input r', r.step env input = some r' →
        ∃ invoked : Option Invocation, r'.client.invocations =
          r.client.invocations ++ invoked.toList.map (r.client.connectionGeneration, ·)) ∧
      (∀ later r', runFrom (ClientRun.step env) r later = some r' →
        ∀ attempt < r.client.connectionGeneration,
          r'.client.invocationsOf attempt = r.client.invocationsOf attempt) ∧
      (∀ (c : NetworkClient) a generation, generation ≠ c.connectionGeneration →
        c.IgnoresLate env a generation) ∧
      (∀ c : NetworkClient, c.Calls env.clock) ∧
      ∀ generation ∈ r.client.captured, r.client.Counts generation := by
  have hlifecycle : r.client.Lifecycle r.supplied :=
    runFrom_induction (P := fun r : ClientRun α => r.client.Lifecycle r.supplied)
      (fun _ _ _ hr hstep => ClientRun.lifecycle_step hr hstep)
      (NetworkClient.lifecycle_initial _) h
  have hsends : r.client.SendSide r.out :=
    runFrom_induction (P := fun r : ClientRun α => r.client.SendSide r.out)
      (fun _ _ _ hr hstep => ClientRun.sendSide_step hr hstep) NetworkClient.sendSide_initial h
  have hopened : r.client.Opened :=
    runFrom_induction (P := fun r : ClientRun α => r.client.Opened)
      (fun _ _ _ hr hstep => ClientRun.opened_step hr hstep) NetworkClient.opened_initial h
  refine ⟨hlifecycle.lived, ?_, ?_, ?_,
    fun c a generation hlate => NetworkClient.ignoresLate env c a hlate,
    NetworkClient.calls env.clock,
    fun generation hcaptured => NetworkClient.counts_captured hopened hsends hlifecycle hcaptured⟩
  · intro hresolving
    exact (NetworkClient.held_of_gives (hlifecycle.opening (Or.inl hresolving)).holds).symm
  · intro input r' hstep
    exact (ClientRun.step_told hlifecycle hstep).log
  · intro later r' hrun
    exact (ClientRun.later_quiet hlifecycle hrun).2

/-- An application that tries again when an attempt fails, and that does not want the first
connection it gets: it gives it up for another one, of which it does not want to hear that it is
up. -/
def restless : ClientEnvironment Unit where
  clock n := UInt64.ofNat n
  invoke
    | .connectionFailed _, _, a => ([.connect "localhost" 9000 {}], a)
    | .connected, _, a =>
      ([.disconnect, .connect "localhost" 9000 { onConnected := false }], a)
    | _, _, a => ([], a)

/-- The first attempt is given up while connecting, and its connection comes up late; the second
fails to resolve. Of the fourth, the connection breaks. -/
def restlessInputs : List ClientInput :=
  [.call (.connect "localhost" 9000 {}), .resolved 1 none, .call .disconnect,
    .call (.connect "localhost" 9000 {}), .connected 1 none, .resolved 3 (some .operationAborted),
    .resolved 4 none, .connected 4 none, .resolved 6 none, .connected 6 none,
    .read 6 [] (some .eof)]

/-- The theorem on that run. -/
theorem client_lifecycle_restless : ∃ r,
    runFrom (ClientRun.step restless) { application := () } restlessInputs = some r ∧
      r.client.invocations = [(3, .connectionFailed .operationAborted), (4, .connected),
        (6, .disconnected .eof)] ∧
      Lived (r.supplied 6) (r.client.invocationsOf 6) := by
  have hrun : (runFrom (ClientRun.step restless) { application := () } restlessInputs).map
      (fun r => r.client.invocations) = some [(3, .connectionFailed .operationAborted),
        (4, .connected), (6, .disconnected .eof)] := by
    decide +kernel
  obtain ⟨r, hr, hinvocations⟩ := Option.map_eq_some_iff.mp hrun
  exact ⟨r, hr, hinvocations, (client_lifecycle restless () restlessInputs r hr).1 6⟩

end NetworkArena.Client
