/-
# NetworkArena.Client.NetworkClientReceiving -- the bytes a client has read, by generation

The receive side of a client: `inp g` are the bytes read from the connection of generation `g`. The
messages dispatched on a generation start these bytes, and while a read of the current generation is
outstanding the accumulated buffer is the rest of them. A generation that is not connected yet has
read nothing.
-/
import NetworkArena.Client.NetworkClientStreams

namespace NetworkArena.Client

open NetworkArena.Foundation
open NetworkArena.Shared

variable {α : Type}

namespace NetworkClient

structure ReceiveSide (c : NetworkClient) (inp : ℕ → List UInt8) : Prop where
  fits : ∀ p ∈ c.dispatched, p.2.Fits
  past : ∀ p ∈ c.dispatched, p.1 ≤ c.connectionGeneration
  readsPast : ∀ g ∈ c.readsOutstanding, g ≤ c.connectionGeneration
  read : ∀ g, (c.dispatchedIn g).flatMap Message.bytes <+: inp g
  unread : ∀ g, c.connectionGeneration < g → inp g = []
  opening : c.connectionState = .resolving ∨ c.connectionState = .connecting →
    c.accumulatedBuffer = [] ∧ c.connectionGeneration ∉ c.readsOutstanding ∧
      c.dispatchedIn c.connectionGeneration = [] ∧ inp c.connectionGeneration = []
  oneRead : c.readsOutstanding.count c.connectionGeneration ≤ 1
  inOrder : c.connectionState = .connected → c.connectionGeneration ∈ c.readsOutstanding →
    inp c.connectionGeneration =
      (c.dispatchedIn c.connectionGeneration).flatMap Message.bytes ++ c.accumulatedBuffer

theorem receiveSide_initial : ReceiveSide {} fun _ => [] where
  fits := nofun
  past := nofun
  readsPast := nofun
  read _ := List.nil_prefix
  unread _ _ := rfl
  opening h := by rcases h with h | h <;> cases h
  oneRead := Nat.zero_le 1
  inOrder := nofun

section ReceiveSide

variable {c c' : NetworkClient} {inp : ℕ → List UInt8}

/-- The receive side depends on five fields. -/
theorem ReceiveSide.of_eq (h : ReceiveSide c inp) (hstate : c'.connectionState = c.connectionState)
    (hgeneration : c'.connectionGeneration = c.connectionGeneration)
    (hreads : c'.readsOutstanding = c.readsOutstanding)
    (hdispatched : c'.dispatched = c.dispatched)
    (hbuffer : c'.accumulatedBuffer = c.accumulatedBuffer) : ReceiveSide c' inp := by
  have hin : ∀ g, c'.dispatchedIn g = c.dispatchedIn g := fun g => by
    rw [dispatchedIn, dispatchedIn, hdispatched]
  constructor
  · rw [hdispatched]; exact h.fits
  · rw [hdispatched, hgeneration]; exact h.past
  · rw [hreads, hgeneration]; exact h.readsPast
  · intro g; rw [hin]; exact h.read g
  · rw [hgeneration]; exact h.unread
  · rw [hstate, hbuffer, hgeneration, hreads, hin]; exact h.opening
  · rw [hgeneration, hreads]; exact h.oneRead
  · rw [hstate, hbuffer, hgeneration, hreads, hin]; exact h.inOrder

/-- Nothing has been dispatched and no read started on a connection that is still to come. -/
theorem ReceiveSide.future (h : ReceiveSide c inp) {g : ℕ} (hg : c.connectionGeneration < g) :
    g ∉ c.readsOutstanding ∧ c.dispatchedIn g = [] := by
  constructor
  · intro hmem
    have hpast := h.readsPast g hmem
    omega
  · rw [dispatchedIn, List.filter_eq_nil_iff.mpr, List.map_nil]
    intro p hp hpg
    have hpast := h.past p hp
    simp only [decide_eq_true_eq] at hpg
    omega

/-- Losing the connection: what was dispatched stays so, and nothing more follows. -/
theorem ReceiveSide.lost (h : ReceiveSide c inp) (hstate : c'.connectionState = .disconnected)
    (hreads : c'.readsOutstanding = c.readsOutstanding)
    (hdispatched : c'.dispatched = c.dispatched)
    (hgeneration : c.connectionGeneration ≤ c'.connectionGeneration) : ReceiveSide c' inp where
  fits := hdispatched ▸ h.fits
  past p hp := (h.past p (hdispatched ▸ hp)).trans hgeneration
  readsPast g hg := (h.readsPast g (hreads ▸ hg)).trans hgeneration
  read g := by rw [dispatchedIn, hdispatched]; exact h.read g
  unread g hg := h.unread g (Nat.lt_of_le_of_lt hgeneration hg)
  opening hopen := by rw [hstate] at hopen; rcases hopen with hopen | hopen <;> cases hopen
  oneRead := by
    rcases Nat.eq_or_lt_of_le hgeneration with hsame | hlater
    · rw [← hsame, hreads]
      exact h.oneRead
    · rw [hreads, List.count_eq_zero_of_not_mem (h.future hlater).1]
      exact Nat.zero_le 1
  inOrder hopen := by rw [hstate] at hopen; cases hopen

theorem ReceiveSide.connect (h : ReceiveSide c inp) (host : String) (port : UInt16)
    (callbacks : SuppliedCallbacks) : ReceiveSide (c.connect host port callbacks).2 inp := by
  unfold NetworkClient.connect
  split
  · exact h
  split
  · exact h
  have hnext := Nat.lt_succ_self c.connectionGeneration
  obtain ⟨hreads, hdispatched⟩ := h.future hnext
  exact {
    fits := h.fits
    past := fun p hp => (h.past p hp).trans (Nat.le_succ _)
    readsPast := fun g hg => (h.readsPast g hg).trans (Nat.le_succ _)
    read := h.read
    unread := fun g hg => h.unread g (hnext.trans hg)
    opening := fun _ => ⟨rfl, hreads, hdispatched, h.unread _ hnext⟩
    oneRead := (List.count_eq_zero_of_not_mem hreads).trans_le (Nat.zero_le 1)
    inOrder := nofun }

theorem ReceiveSide.disconnect (h : ReceiveSide c inp) : ReceiveSide c.disconnect.2 inp := by
  unfold NetworkClient.disconnect
  split
  · exact h
  · exact h.lost rfl rfl rfl (Nat.le_succ _)

/-- `Send` does not touch the receive side. -/
theorem send_receiving (c : NetworkClient) (type : MessageType) (payload : List UInt8) :
    (c.send type payload).2.connectionState = c.connectionState ∧
      (c.send type payload).2.connectionGeneration = c.connectionGeneration ∧
      (c.send type payload).2.readsOutstanding = c.readsOutstanding ∧
      (c.send type payload).2.dispatched = c.dispatched ∧
      (c.send type payload).2.accumulatedBuffer = c.accumulatedBuffer := by
  rcases send_cases c type payload with ⟨-, hsend⟩ | ⟨-, diagnostics, hsend⟩ <;> rw [hsend]
  · exact ⟨rfl, rfl, rfl, rfl, rfl⟩
  · exact ⟨rfl, rfl, rfl, rfl, rfl⟩

theorem receiveSide_survives (inp : ℕ → List UInt8) : Survives (fun c => ReceiveSide c inp) where
  connect host port callbacks h := h.connect host port callbacks
  disconnect h := h.disconnect
  send {c} type payload h := by
    obtain ⟨hstate, hgeneration, hreads, hdispatched, hbuffer⟩ := send_receiving c type payload
    exact h.of_eq hstate hgeneration hreads hdispatched hbuffer
  report _ h := h.of_eq rfl rfl rfl rfl rfl
  readClock _ h := h.of_eq rfl rfl rfl rfl rfl
  invocations _ h := h.of_eq rfl rfl rfl rfl rfl

theorem ReceiveSide.completeDisconnection (h : ReceiveSide c inp) (env : ClientEnvironment α)
    (error : ErrorCode) (generation : ℕ) (a : α) :
    ReceiveSide (c.completeDisconnection env error generation a).1 inp := by
  unfold NetworkClient.completeDisconnection
  split
  · exact h
  · exact (receiveSide_survives inp).invoke env _ _ a (h.lost rfl rfl rfl (Nat.le_refl _))

theorem ReceiveSide.completeConnectionFailure (h : ReceiveSide c inp) (env : ClientEnvironment α)
    (error : ErrorCode) (generation : ℕ) (a : α) :
    ReceiveSide (c.completeConnectionFailure env error generation a).1 inp := by
  unfold NetworkClient.completeConnectionFailure
  split
  · exact h
  · exact (receiveSide_survives inp).invoke env _ _ a (h.lost rfl rfl rfl (Nat.le_refl _))

theorem ReceiveSide.handleResolve (h : ReceiveSide c inp) (env : ClientEnvironment α)
    (error : Option ErrorCode) (generation : ℕ) (a : α) :
    ReceiveSide (c.handleResolve env error generation a).1 inp := by
  unfold NetworkClient.handleResolve
  split
  · exact h
  next hcurrent =>
  cases error with
  | some error => exact h.completeConnectionFailure env error generation a
  | none =>
      have hresolving : c.connectionState = .resolving := by
        simp only [isCurrentOperation, Bool.not_eq_true', Bool.not_eq_false, Bool.and_eq_true,
          beq_iff_eq] at hcurrent
        exact hcurrent.2
      refine ⟨h.fits, h.past, h.readsPast, h.read, h.unread, fun _ => h.opening (Or.inl hresolving),
        h.oneRead, ?_⟩
      intro hconnected
      cases hconnected

/-- The connection of generation `g` has not read anything, if it is still the current one. -/
structure Fresh (g : ℕ) (c : NetworkClient) : Prop where
  past : g ≤ c.connectionGeneration
  unread : c.connectionGeneration = g →
    c.accumulatedBuffer = [] ∧ g ∉ c.readsOutstanding ∧ c.dispatchedIn g = []

theorem fresh_survives (g : ℕ) : Survives (Fresh g) where
  connect {c} host port callbacks h := by
    unfold NetworkClient.connect
    split
    · exact h
    split
    · exact h
    · exact ⟨h.past.trans (Nat.le_succ _), fun heq => absurd (Nat.le_of_eq heq)
        (Nat.not_le.mpr (Nat.lt_succ_of_le h.past))⟩
  disconnect {c} h := by
    unfold NetworkClient.disconnect
    split
    · exact h
    · exact ⟨h.past.trans (Nat.le_succ _), fun heq => absurd (Nat.le_of_eq heq)
        (Nat.not_le.mpr (Nat.lt_succ_of_le h.past))⟩
  send {c} type payload h := by
    obtain ⟨-, hgeneration, hreads, hdispatched, hbuffer⟩ := send_receiving c type payload
    refine ⟨hgeneration ▸ h.past, fun heq => ?_⟩
    rw [hbuffer, hreads, dispatchedIn, hdispatched]
    exact h.unread (hgeneration ▸ heq)
  report _ h := ⟨h.past, h.unread⟩
  readClock _ h := ⟨h.past, h.unread⟩
  invocations _ h := ⟨h.past, h.unread⟩

/-- A read that is started when everything read so far is dispatched or in the buffer. -/
theorem ReceiveSide.readNext (h : ReceiveSide c inp) (generation : ℕ)
    (hnone : c.connectionGeneration = generation → generation ∉ c.readsOutstanding)
    (hall : c.connectionGeneration = generation → c.connectionState = .connected →
      inp generation = (c.dispatchedIn generation).flatMap Message.bytes ++ c.accumulatedBuffer) :
    ReceiveSide (c.readNext generation) inp := by
  unfold NetworkClient.readNext
  split
  · exact h
  split
  · exact h
  next hcurrent =>
  have hcurrent' : c.isCurrentOperation generation .connected = true := by simpa using hcurrent
  simp only [isCurrentOperation, Bool.and_eq_true, beq_iff_eq] at hcurrent'
  obtain ⟨rfl, hconnected⟩ := hcurrent'
  exact {
    fits := h.fits
    past := h.past
    readsPast := fun g hg => by
      rcases List.mem_append.mp hg with hg | hg
      · exact h.readsPast g hg
      · rw [List.mem_singleton.mp hg]
    read := h.read
    unread := h.unread
    opening := fun hopen => by
      have hopen' : c.connectionState = .resolving ∨ c.connectionState = .connecting := hopen
      rw [hconnected] at hopen'
      rcases hopen' with hopen' | hopen' <;> cases hopen'
    oneRead := by
      show (c.readsOutstanding ++ [c.connectionGeneration]).count c.connectionGeneration ≤ 1
      rw [List.count_append, List.count_eq_zero_of_not_mem (hnone rfl)]
      simp
    inOrder := fun _ _ => hall rfl hconnected }

theorem ReceiveSide.handleConnect (h : ReceiveSide c inp) (env : ClientEnvironment α)
    (error : Option ErrorCode) (generation : ℕ) (a : α) :
    ReceiveSide (c.handleConnect env error generation a).1 inp := by
  unfold NetworkClient.handleConnect
  split
  · exact h
  next hcurrent =>
  cases error with
  | some error => exact h.completeConnectionFailure env error generation a
  | none =>
      have hcurrent' : c.isCurrentOperation generation .connecting = true := by
        simpa using hcurrent
      simp only [isCurrentOperation, Bool.and_eq_true, beq_iff_eq] at hcurrent'
      obtain ⟨rfl, hconnecting⟩ := hcurrent'
      obtain ⟨hbuffer, hreads, hdispatched, hinp⟩ := h.opening (Or.inr hconnecting)
      have hestablished : ReceiveSide { c with
          connectionState := .connected, onConnected := none, onConnectionFailed := none } inp := {
        fits := h.fits
        past := h.past
        readsPast := h.readsPast
        read := h.read
        unread := h.unread
        opening := fun hopen => by rcases hopen with hopen | hopen <;> cases hopen
        oneRead := h.oneRead
        inOrder := fun _ hmem => absurd hmem hreads }
      have hfresh : Fresh c.connectionGeneration { c with
          connectionState := .connected, onConnected := none, onConnectionFailed := none } :=
        ⟨Nat.le_refl _, fun _ => ⟨hbuffer, hreads, hdispatched⟩⟩
      have hcalled := (receiveSide_survives inp).invoke env c.onConnected .connected a hestablished
      have hunread := (fresh_survives c.connectionGeneration).invoke env c.onConnected .connected a
        hfresh
      dsimp only
      split
      · apply hcalled.readNext _ (fun hsame => (hunread.unread hsame).2.1)
        intro hsame _
        obtain ⟨hbuffer', -, hdispatched'⟩ := hunread.unread hsame
        rw [hinp, hbuffer', hdispatched']
        rfl
      · exact hcalled

theorem ReceiveSide.handlePosted (h : ReceiveSide c inp) (env : ClientEnvironment α)
    (callback : PostedCallback) (a : α) :
    ReceiveSide (c.handlePosted env callback a).1 inp := by
  unfold NetworkClient.handlePosted
  split
  · exact h
  · exact (receiveSide_survives inp).invoke env _ _ a h

theorem ReceiveSide.writeNext (h : ReceiveSide c inp) (generation : ℕ) :
    ReceiveSide (c.writeNext generation) inp := by
  unfold NetworkClient.writeNext
  split
  · exact h
  · split
    · exact h
    · split
      · exact h
      · exact h.of_eq rfl rfl rfl rfl rfl

theorem ReceiveSide.handleWrite (h : ReceiveSide c inp) (env : ClientEnvironment α) (i : ℕ)
    (error : Option ErrorCode) (count generation : ℕ) (a : α) :
    ReceiveSide ((c.retireWrite i).handleWrite env error count generation a).1 inp := by
  have hretired : ReceiveSide (c.retireWrite i) inp := h.of_eq rfl rfl rfl rfl rfl
  have hreport : ∀ diagnostic, ReceiveSide ((c.retireWrite i).report diagnostic) inp :=
    fun _ => hretired.of_eq rfl rfl rfl rfl rfl
  unfold NetworkClient.handleWrite
  split
  · exact hretired
  cases error with
  | some error => exact (hreport _).completeDisconnection env error generation a
  | none =>
      dsimp only
      split
      · exact (hreport _).completeDisconnection env _ generation a
      next front rest _ =>
      split
      · exact (hreport _).completeDisconnection env _ generation a
      split
      · exact (hreport _).completeDisconnection env _ generation a
      have htaken : ReceiveSide { c.retireWrite i with
          pendingSendBytes := (c.retireWrite i).pendingSendBytes - front.length
          sendQueue := rest } inp := hretired.of_eq rfl rfl rfl rfl rfl
      split
      · exact htaken.writeNext generation
      split
      · refine ReceiveSide.completeDisconnection ?_ env _ generation a
        exact htaken.of_eq rfl rfl rfl rfl rfl
      · exact htaken

/-! ## A completed read -/

/-- Received bytes: the messages they complete are dispatched on the current generation, the others
stay in the buffer. -/
theorem drain_spec (env : ClientEnvironment α) (bytes : List UInt8) (c : NetworkClient) (a : α) :
    ∃ messages : List Message, (∀ m ∈ messages, m.Fits) ∧
      (messageReader.drain (dispatchOn env) bytes (c, a)).state.1.dispatched =
        c.dispatched ++ messages.map (c.connectionGeneration, ·) ∧
      messages.flatMap Message.bytes <+: bytes ∧
      ((messageReader.drain (dispatchOn env) bytes (c, a)).verdict = .waiting →
        bytes = messages.flatMap Message.bytes ++
          (messageReader.drain (dispatchOn env) bytes (c, a)).rest) := by
  have hlogs : ∀ (m : Message) (t : NetworkClient × α),
      (dispatchOn env m t).2.1.dispatched.map (·.2) = t.1.dispatched.map (·.2) ++ [m] := by
    intro m t
    rw [(dispatchOn_frame env m t).2, List.map_append]
    rfl
  obtain ⟨messages, hlog, hread, hstarts, hrest⟩ := FrameReader.drain_log (dispatchOn env)
    messageReader_encode (fun t : NetworkClient × α => t.1.dispatched.map (·.2)) hlogs
    bytes (c, a)
  -- all of them are logged under the generation the client started with
  obtain ⟨-, logged, hlogged⟩ := FrameReader.drain_preserves
    (R := messageReader) (dispatchOn env)
    (P := fun t : NetworkClient × α => SameConnection c t.1 ∧ ∃ logged : List Message,
      t.1.dispatched = c.dispatched ++ logged.map (c.connectionGeneration, ·))
    (fun m t ⟨hsame, logged, hlogged⟩ => by
      obtain ⟨hdispatch, hdispatched⟩ := dispatchOn_frame env m t
      refine ⟨hsame.trans hdispatch, logged ++ [m], ?_⟩
      rw [hdispatched, hlogged, hsame.generation, List.map_append, List.append_assoc]
      rfl) bytes ⟨SameConnection.refl c, [], (List.append_nil _).symm⟩ (t := (c, a))
  have hmessages : logged = messages := by
    simp only [hlogged, List.map_append, List.map_map, List.append_cancel_left_eq] at hlog
    rw [← hlog]
    exact (List.map_id' logged).symm
  subst hmessages
  refine ⟨logged, fun m hm => ?_, hlogged, hstarts, fun hwaiting => hrest (by rw [hwaiting]; nofun)⟩
  obtain ⟨front, n, hfront⟩ := hread m hm
  exact (messageFront_frame hfront).2.1

theorem dispatchedIn_append {c : NetworkClient} {messages : List Message} {g : ℕ}
    (h : c'.dispatched = c.dispatched ++ messages.map (c.connectionGeneration, ·)) :
    c'.dispatchedIn g = c.dispatchedIn g ++
      if g = c.connectionGeneration then messages else [] := by
  rw [dispatchedIn, dispatchedIn, h, List.filter_append, List.map_append]
  congr 1
  by_cases hg : g = c.connectionGeneration
  · rw [if_pos hg, List.filter_eq_self.mpr (by simp [hg]), List.map_map]
    exact List.map_id' messages
  · have hne : ¬ c.connectionGeneration = g := fun h => hg h.symm
    rw [if_neg hg, List.filter_eq_nil_iff.mpr (by simp [hne]), List.map_nil]

/-- A read of the current connection, once all the bytes it brought are accounted for. -/
theorem ReceiveSide.retireRead (h : ReceiveSide c inp) {g : ℕ} (hg : g ∈ c.readsOutstanding)
    (received : List UInt8)
    (hstale : ¬ (g = c.connectionGeneration ∧ c.connectionState = .connected)) :
    ReceiveSide (c.retireRead g) (Function.update inp g (inp g ++ received)) := by
  have hpast := h.readsPast g hg
  exact {
    fits := h.fits
    past := h.past
    readsPast := fun g' hg' => h.readsPast g' (List.mem_of_mem_erase hg')
    read := fun g' => by
      by_cases heq : g' = g
      · subst heq
        rw [Function.update_self]
        exact (h.read g').trans (List.prefix_append _ _)
      · rw [Function.update_of_ne heq]
        exact h.read g'
    unread := fun g' hg' => by
      rw [Function.update_of_ne (Nat.ne_of_gt (Nat.lt_of_le_of_lt hpast hg'))]
      exact h.unread g' hg'
    opening := fun hopen => by
      obtain ⟨hbuffer, hreads, hdispatched, hinp⟩ := h.opening hopen
      have hne : c.connectionGeneration ≠ g := fun heq => hreads (heq ▸ hg)
      exact ⟨hbuffer, fun hmem => hreads (List.mem_of_mem_erase hmem), hdispatched,
        (Function.update_of_ne hne _ _).trans hinp⟩
    oneRead := (List.Sublist.count_le _ List.erase_sublist).trans h.oneRead
    inOrder := fun hconnected hmem => by
      have hne : c.connectionGeneration ≠ g := fun heq => hstale ⟨heq.symm, hconnected⟩
      rw [show (c.retireRead g).connectionGeneration = c.connectionGeneration from rfl,
        Function.update_of_ne hne]
      exact h.inOrder hconnected (List.mem_of_mem_erase hmem) }

/-- The client after a read of its connection, before the next read is started. Whatever is in its
buffer, no read relies on it. -/
theorem ReceiveSide.dispatching (h : ReceiveSide c inp)
    (hconnected : c.connectionState = .connected)
    (hread : c.connectionGeneration ∈ c.readsOutstanding) {received : List UInt8}
    {messages : List Message} (hfits : ∀ m ∈ messages, m.Fits)
    (hstarts : messages.flatMap Message.bytes <+: c.accumulatedBuffer ++ received)
    (hstate : c'.connectionState = .connected)
    (hgeneration : c'.connectionGeneration = c.connectionGeneration)
    (hreads : c'.readsOutstanding = c.readsOutstanding.erase c.connectionGeneration)
    (hdispatched : c'.dispatched = c.dispatched ++ messages.map (c.connectionGeneration, ·)) :
    ReceiveSide c' (Function.update inp c.connectionGeneration
      (inp c.connectionGeneration ++ received)) ∧
      c.connectionGeneration ∉ c'.readsOutstanding := by
  have hin := fun g => dispatchedIn_append (g := g) hdispatched
  have hcount : c'.readsOutstanding.count c.connectionGeneration = 0 := by
    have hone := h.oneRead
    rw [hreads, List.count_erase_self]
    omega
  have hnone : c.connectionGeneration ∉ c'.readsOutstanding := List.count_eq_zero.mp hcount
  refine ⟨?_, hnone⟩
  exact {
    fits := fun p hp => by
      rw [hdispatched, List.mem_append, List.mem_map] at hp
      rcases hp with hp | ⟨m, hm, rfl⟩
      · exact h.fits p hp
      · exact hfits m hm
    past := fun p hp => by
      rw [hdispatched, List.mem_append, List.mem_map] at hp
      rw [hgeneration]
      rcases hp with hp | ⟨m, -, rfl⟩
      · exact h.past p hp
      · exact Nat.le_refl _
    readsPast := fun g hg => by
      rw [hgeneration]
      exact h.readsPast g (List.mem_of_mem_erase (hreads ▸ hg))
    read := fun g => by
      rw [hin]
      by_cases hg : g = c.connectionGeneration
      · rw [hg, if_pos rfl, Function.update_self, h.inOrder hconnected hread, List.flatMap_append,
          List.append_assoc]
        exact (List.prefix_append_right_inj _).mpr hstarts
      · rw [if_neg hg, List.append_nil, Function.update_of_ne hg]
        exact h.read g
    unread := fun g hg => by
      rw [hgeneration] at hg
      rw [Function.update_of_ne (Nat.ne_of_gt hg)]
      exact h.unread g hg
    opening := fun hopen => by
      rw [hstate] at hopen
      rcases hopen with hopen | hopen <;> cases hopen
    oneRead := by
      rw [hgeneration, hcount]
      exact Nat.zero_le 1
    inOrder := fun _ hmem => by
      rw [hgeneration] at hmem
      exact absurd hmem hnone }

/-- Completing a disconnection starts no read. -/
theorem completeDisconnection_reads {g : ℕ} (env : ClientEnvironment α) (error : ErrorCode)
    (generation : ℕ) (a : α) (h : g ∉ c.readsOutstanding) :
    g ∉ (c.completeDisconnection env error generation a).1.readsOutstanding := by
  have hsurvives : Survives fun c => g ∉ c.readsOutstanding := {
    connect := fun {c} host port callbacks h => by
      unfold NetworkClient.connect
      split
      · exact h
      · split <;> exact h
    disconnect := fun {c} h => by
      unfold NetworkClient.disconnect
      split <;> exact h
    send := fun {c} type payload h => by
      rw [(send_receiving c type payload).2.2.1]
      exact h
    report := fun _ h => h
    readClock := fun _ h => h
    invocations := fun _ h => h }
  unfold NetworkClient.completeDisconnection
  split
  · exact h
  · exact hsurvives.invoke env _ _ a h

/-- The bytes of a read have been processed, and no other read is under way. Unless processing
failed, what has not been dispatched is in the buffer. -/
structure Processed (generation : ℕ) (inp : ℕ → List UInt8) (p : Bool × NetworkClient × α) :
    Prop where
  receiving : ReceiveSide p.2.1 inp
  noRead : generation ∉ p.2.1.readsOutstanding
  inOrder : p.1 = true → inp generation =
    (p.2.1.dispatchedIn generation).flatMap Message.bytes ++ p.2.1.accumulatedBuffer

/-- **`ProcessReceivedData`**, for the bytes of a read of the connection. -/
theorem ReceiveSide.processReceivedData (h : ReceiveSide c inp) (env : ClientEnvironment α)
    (hconnected : c.connectionState = .connected)
    (hg : c.connectionGeneration ∈ c.readsOutstanding) (received : List UInt8) (a : α)
    (hin : ((c.retireRead c.connectionGeneration).processReceivedData env received
      c.connectionGeneration a).InBounds) :
    Processed c.connectionGeneration
      (Function.update inp c.connectionGeneration (inp c.connectionGeneration ++ received))
      (((c.retireRead c.connectionGeneration).processReceivedData env received
        c.connectionGeneration a).get hin) := by
  rw [processReceivedData_get]
  obtain ⟨messages, hfits, hdispatched, hstarts, hrest⟩ := drain_spec env
    ((c.retireRead c.connectionGeneration).accumulatedBuffer ++ received)
    { c.retireRead c.connectionGeneration with
      accumulatedBuffer := (c.retireRead c.connectionGeneration).accumulatedBuffer ++ received } a
  obtain ⟨hsame, -⟩ := drain_frame env
    ((c.retireRead c.connectionGeneration).accumulatedBuffer ++ received)
    { c.retireRead c.connectionGeneration with
      accumulatedBuffer := (c.retireRead c.connectionGeneration).accumulatedBuffer ++ received } a
  revert hdispatched hsame hrest
  rcases messageReader.drain (dispatchOn env)
    ((c.retireRead c.connectionGeneration).accumulatedBuffer ++ received)
    ({ c.retireRead c.connectionGeneration with
      accumulatedBuffer := (c.retireRead c.connectionGeneration).accumulatedBuffer ++ received }, a)
    with ⟨verdict, rest, c', a'⟩
  intro hdispatched hrest hsame
  have hkept : ({ c' with accumulatedBuffer := rest } : NetworkClient).dispatched =
      c.dispatched ++ messages.map (c.connectionGeneration, ·) := hdispatched
  obtain ⟨hquiet, hnone⟩ : ReceiveSide { c' with accumulatedBuffer := rest }
        (Function.update inp c.connectionGeneration (inp c.connectionGeneration ++ received)) ∧
      c.connectionGeneration ∉ c'.readsOutstanding :=
    h.dispatching hconnected hg hfits hstarts (hsame.state.trans hconnected) hsame.generation
      hsame.reads hkept
  cases verdict with
  | waiting =>
      refine ⟨hquiet, hnone, fun _ => ?_⟩
      have hin := dispatchedIn_append (g := c.connectionGeneration) hkept
      rw [if_pos rfl] at hin
      rw [Function.update_self, hin, h.inOrder hconnected hg, List.flatMap_append,
        List.append_assoc, List.append_assoc]
      exact congrArg _ (hrest rfl)
  | malformed =>
      exact ⟨hquiet.completeDisconnection env _ _ a',
        completeDisconnection_reads env _ _ a' hnone, nofun⟩
  | rejected =>
      exact ⟨hquiet.completeDisconnection env _ _ a',
        completeDisconnection_reads env _ _ a' hnone, nofun⟩

/-- A read that brings nothing leaves nothing to process. -/
theorem ReceiveSide.nothingReceived (h : ReceiveSide c inp)
    (hconnected : c.connectionState = .connected)
    (hg : c.connectionGeneration ∈ c.readsOutstanding) (a : α) :
    Processed c.connectionGeneration
      (Function.update inp c.connectionGeneration (inp c.connectionGeneration ++ []))
      (true, c.retireRead c.connectionGeneration, a) := by
  have hstate : (c.retireRead c.connectionGeneration).connectionState = .connected := hconnected
  have hkept : (c.retireRead c.connectionGeneration).dispatched =
      c.dispatched ++ ([] : List Message).map (c.connectionGeneration, ·) :=
    (List.append_nil _).symm
  have hnothing : ([] : List Message).flatMap Message.bytes <+:
      c.accumulatedBuffer ++ ([] : List UInt8) := List.nil_prefix
  obtain ⟨hquiet, hnone⟩ := h.dispatching hconnected hg
    (fun _ hm => absurd hm List.not_mem_nil) hnothing hstate rfl rfl hkept
  refine ⟨hquiet, hnone, fun _ => ?_⟩
  rw [Function.update_self, List.append_nil]
  exact h.inOrder hconnected hg

/-- **A completed read** moves its bytes from the connection of its generation into the client. -/
theorem ReceiveSide.handleRead (h : ReceiveSide c inp) (env : ClientEnvironment α) {g : ℕ}
    (hg : g ∈ c.readsOutstanding) (error : Option ErrorCode) (received : List UInt8) (a : α) :
    ReceiveSide ((c.retireRead g).handleRead env error received g a).1
      (Function.update inp g (inp g ++ received)) := by
  unfold NetworkClient.handleRead
  split
  · next hstale =>
      refine h.retireRead hg received ?_
      rintro ⟨heq, hstate⟩
      have hcurrent : (c.retireRead g).isCurrentOperation g .connected = true := by
        simp only [isCurrentOperation, Bool.and_eq_true, beq_iff_eq]
        exact ⟨heq, hstate⟩
      rw [hcurrent] at hstale
      cases hstale
  next hcurrent =>
  have hcurrent' : (c.retireRead g).isCurrentOperation g .connected = true := by
    simpa using hcurrent
  simp only [isCurrentOperation, Bool.and_eq_true, beq_iff_eq] at hcurrent'
  obtain ⟨heq, hstate⟩ := hcurrent'
  obtain rfl : g = c.connectionGeneration := heq
  have hconnected : c.connectionState = .connected := hstate
  -- what processing leaves, whether or not there was anything to process
  have hprocessed : Processed c.connectionGeneration
      (Function.update inp c.connectionGeneration (inp c.connectionGeneration ++ received))
      (if received.length > 0 then
        ((c.retireRead c.connectionGeneration).processReceivedData env received
          c.connectionGeneration a).get (processReceivedData_inBounds env received
            c.connectionGeneration (c.retireRead c.connectionGeneration) a)
        else (true, c.retireRead c.connectionGeneration, a)) := by
    split
    · exact h.processReceivedData env hconnected hg received a _
    · next hempty =>
        obtain rfl : received = [] := List.length_eq_zero_iff.mp (by omega)
        exact h.nothingReceived hconnected hg a
  revert hprocessed
  rcases (if received.length > 0 then
      ((c.retireRead c.connectionGeneration).processReceivedData env received
        c.connectionGeneration a).get (processReceivedData_inBounds env received
          c.connectionGeneration (c.retireRead c.connectionGeneration) a)
      else (true, c.retireRead c.connectionGeneration, a)) with ⟨processed, c', a'⟩
  rintro ⟨hquiet, hnone, hrest⟩
  dsimp only
  cases processed with
  | false => exact hquiet
  | true =>
      cases error with
      | none => exact hquiet.readNext _ (fun _ => hnone) fun _ _ => hrest rfl
      | some error => exact hquiet.completeDisconnection env error _ a'

end ReceiveSide

end NetworkClient

end NetworkArena.Client
