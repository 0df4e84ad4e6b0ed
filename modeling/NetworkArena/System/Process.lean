/-
# NetworkArena.System.Process -- the server process, from `Start` to the end of its event loop

`main.cpp` of the server, and `Start`, `AcceptNext`, `HandleAccept`, `ScheduleNextTick`,
`HandleTick` and `Stop` of `server.cpp` with the operations they start. In the system of `Arena`
connections are accepted and ticks happen at any time. Here they are completions of an
`async_accept` and of an `async_wait` that the server has started, with or without an error, and it
stops when the wait for a signal completes. Every run of the process is a run of that system
(`Process.refines`), so what holds there holds here.

`io_context::run` returns when nothing is owed any more. As long as the server runs it owes itself
an accept and a wait; once it was stopped, nothing new is started, and each completion brings the
loop nearer to its end.
-/
import NetworkArena.System.Enrolled

namespace NetworkArena.System

open NetworkArena.Foundation
open NetworkArena.Shared
open NetworkArena.Server
open NetworkArena.Client

/-! ## The process -/

/-- The server in its system, and what asio owes it; the sessions keep what they are owed
themselves. The last field is a history. -/
structure Process (K : Type) where
  arena : Arena K
  /-- `acceptor_.is_open()`. -/
  acceptorOpen : Bool := true
  acceptsOutstanding : ℕ := 0
  /-- The waits for `tickTimer_`, and whether they were cancelled. -/
  waitsOutstanding : List Bool := []
  /-- The wait of `signals`. -/
  signalOutstanding : Bool := true
  /-- The connections with a session, by client and generation. -/
  connections : List (ℕ × ℕ) := []

inductive ProcessEvent (K : Type) where
  /-- The accept of a connection completes. -/
  | accepted (n g : ℕ)
  | acceptFailed (error : ErrorCode)
  | waited (i : ℕ) (error : Option ErrorCode) (deltaSeconds : K)
  | signal (error : Option ErrorCode)
  /-- Anything that the server itself does not do. -/
  | other (event : ArenaEvent K)

/-- What the server does in the system. -/
def ArenaEvent.isServers {K : Type} : ArenaEvent K → Bool
  | .accept _ _ => true
  | .tick _ => true
  | .stop => true
  | _ => false

/-- A completion on the side of the server. -/
def ProcessEvent.isCompletion {K : Type} : ProcessEvent K → Bool
  | .other (.channel _ (.server _ (.read _ _))) => true
  | .other (.channel _ (.server _ (.written _ _))) => true
  | .other _ => false
  | _ => true

def ProcessEvent.isWait {K : Type} : ProcessEvent K → Bool
  | .waited _ _ _ => true
  | _ => false

/-- A wait completes with an error. -/
def ProcessEvent.isFailedWait {K : Type} : ProcessEvent K → Bool
  | .waited _ (some _) _ => true
  | _ => false

namespace Process

variable {K : Type}

def acceptNext (p : Process K) : Process K :=
  if p.arena.server.stopped || !p.acceptorOpen then p
  else { p with acceptsOutstanding := p.acceptsOutstanding + 1 }

/-- `HandleAccept`; without an error, `arena` is what entering the new session has made of the
system. -/
def handleAccept (accepted : Option (Arena K × ℕ × ℕ)) (p : Process K) : Process K :=
  if p.arena.server.stopped then p
  else
    let p :=
      match accepted with
      | some (arena, connection) =>
        { p with arena, connections := p.connections ++ [connection] }
      | none => p
    if p.acceptorOpen then p.acceptNext else p

/-- `expires_after` cancels the waits there are. -/
def scheduleNextTick (p : Process K) : Process K :=
  if p.arena.server.stopped then p
  else { p with waitsOutstanding := p.waitsOutstanding.map (fun _ => true) ++ [false] }

/-- `HandleTick`; without an error, `arena` is the system after the tick. -/
def handleTick (error : Option ErrorCode) (arena : Arena K) (p : Process K) : Process K :=
  if p.arena.server.stopped then p
  else
    match error with
    -- aborted or not, the loop of ticks ends here
    | some _ => p
    | none => { p with arena }.scheduleNextTick

/-- `Stop`; `arena` is the system once all sessions are closed. -/
def stop (arena : Arena K) (p : Process K) : Process K :=
  if p.arena.server.stopped then p
  else
    { p with
      arena
      waitsOutstanding := p.waitsOutstanding.map fun _ => true
      acceptorOpen := false }

/-- `Start`, behind `CreateDefaultRoom`. -/
def start (p : Process K) : Process K :=
  if p.arena.server.stopped then p else p.scheduleNextTick.acceptNext

/-- The process when `main` runs the event loop. -/
def main [Field K] : Process K := ({ arena := Arena.initial } : Process K).start

@[simp]
theorem acceptNext_arena (p : Process K) : p.acceptNext.arena = p.arena := by
  unfold acceptNext
  split <;> rfl

@[simp]
theorem scheduleNextTick_arena (p : Process K) : p.scheduleNextTick.arena = p.arena := by
  unfold scheduleNextTick
  split <;> rfl

theorem main_arena [Field K] : (main : Process K).arena = Arena.initial := by
  unfold main start
  split
  · rfl
  · rw [acceptNext_arena, scheduleNextTick_arena]

variable [Field K] [LinearOrder K] [IsStrictOrderedRing K] [FloorRing K] [HasSqrt K]

def step (clock : ℕ → ℕ → UInt64) (toFloat : K → FloatBits) (p : Process K) :
    ProcessEvent K → Option (Process K)
  | .accepted n g =>
    if p.acceptsOutstanding = 0 then none
    else (Arena.step clock toFloat p.arena (.accept n g)).map fun arena =>
      { p with acceptsOutstanding := p.acceptsOutstanding - 1 }.handleAccept (some (arena, n, g))
  | .acceptFailed _ =>
    if p.acceptsOutstanding = 0 then none
    else some ({ p with acceptsOutstanding := p.acceptsOutstanding - 1 }.handleAccept none)
  | .waited i error deltaSeconds =>
    match p.waitsOutstanding[i]? with
    | none => none
    | some cancelled =>
      -- asio aborts what was cancelled; what was about to complete then may still succeed
      if error = some .operationAborted ∧ cancelled = false then none
      else (Arena.step clock toFloat p.arena (.tick deltaSeconds)).map fun arena =>
        { p with waitsOutstanding := p.waitsOutstanding.eraseIdx i }.handleTick error arena
  | .signal error =>
    if p.signalOutstanding then
      let p := { p with signalOutstanding := false }
      match error with
      | some _ => some p
      | none => (Arena.step clock toFloat p.arena .stop).map fun arena => p.stop arena
    else none
  | .other event =>
    if event.isServers then none
    else (Arena.step clock toFloat p.arena event).map fun arena => { p with arena }

/-- What an event needs to happen to the process, and what it leaves. -/
inductive Step (clock : ℕ → ℕ → UInt64) (toFloat : K → FloatBits) (p : Process K) :
    ProcessEvent K → Process K → Prop
  | accepted (n g : ℕ) {arena : Arena K} (howed : p.acceptsOutstanding ≠ 0)
      (hrunning : p.arena.server.stopped = false)
      (hstep : Arena.step clock toFloat p.arena (.accept n g) = some arena) :
    Step clock toFloat p (.accepted n g) { p with
      acceptsOutstanding := p.acceptsOutstanding - 1 + if p.acceptorOpen then 1 else 0
      arena
      connections := p.connections ++ [(n, g)] }
  | acceptFailed (error : ErrorCode) (howed : p.acceptsOutstanding ≠ 0)
      (hrunning : p.arena.server.stopped = false) :
    Step clock toFloat p (.acceptFailed error) { p with
      acceptsOutstanding := p.acceptsOutstanding - 1 + if p.acceptorOpen then 1 else 0 }
  | ticked (i : ℕ) (deltaSeconds : K) {arena : Arena K} (howed : i < p.waitsOutstanding.length)
      (hrunning : p.arena.server.stopped = false)
      (hstep : Arena.step clock toFloat p.arena (.tick deltaSeconds) = some arena) :
    Step clock toFloat p (.waited i none deltaSeconds) { p with
      waitsOutstanding := (p.waitsOutstanding.eraseIdx i).map (fun _ => true) ++ [false]
      arena }
  | waitFailed (i : ℕ) (error : ErrorCode) (deltaSeconds : K)
      (howed : i < p.waitsOutstanding.length) (hrunning : p.arena.server.stopped = false) :
    Step clock toFloat p (.waited i (some error) deltaSeconds) { p with
      waitsOutstanding := p.waitsOutstanding.eraseIdx i }
  | stopped {arena : Arena K} (howed : p.signalOutstanding = true)
      (hrunning : p.arena.server.stopped = false)
      (hstep : Arena.step clock toFloat p.arena .stop = some arena) :
    Step clock toFloat p (.signal none) { p with
      signalOutstanding := false
      arena
      waitsOutstanding := p.waitsOutstanding.map fun _ => true
      acceptorOpen := false }
  | signalFailed (error : ErrorCode) (howed : p.signalOutstanding = true) :
    Step clock toFloat p (.signal (some error)) { p with signalOutstanding := false }
  /-- The server was stopped: it is owed one thing less. -/
  | lateAccept (event : ProcessEvent K)
      (hevent : (∃ n g, event = .accepted n g) ∨ ∃ error, event = .acceptFailed error)
      (howed : p.acceptsOutstanding ≠ 0) (hstopped : p.arena.server.stopped = true) :
    Step clock toFloat p event { p with acceptsOutstanding := p.acceptsOutstanding - 1 }
  | lateWait (i : ℕ) (error : Option ErrorCode) (deltaSeconds : K)
      (howed : i < p.waitsOutstanding.length) (hstopped : p.arena.server.stopped = true) :
    Step clock toFloat p (.waited i error deltaSeconds) { p with
      waitsOutstanding := p.waitsOutstanding.eraseIdx i }
  | lateSignal (howed : p.signalOutstanding = true) (hstopped : p.arena.server.stopped = true) :
    Step clock toFloat p (.signal none) { p with signalOutstanding := false }
  | other (event : ArenaEvent K) {arena : Arena K} (hevent : event.isServers = false)
      (hstep : Arena.step clock toFloat p.arena event = some arena) :
    Step clock toFloat p (.other event) { p with arena }

section Cases

variable {clock : ℕ → ℕ → UInt64} {toFloat : K → FloatBits} {p p' : Process K}
  {event : ProcessEvent K}

/-- A tick and a stop do not change whether the server was stopped before. -/
theorem stopped_tick {t t' : Arena K} {deltaSeconds : K}
    (hstep : Arena.step clock toFloat t (.tick deltaSeconds) = some t') :
    t'.server.stopped = t.server.stopped := by
  cases hstep
  exact stopped_handleTick ..

theorem stopped_of_stop {t t' : Arena K} (hstep : Arena.step clock toFloat t .stop = some t') :
    t'.server.stopped = true := by
  cases hstep
  exact stopped_stop ..

theorem stopped_accept {t t' : Arena K} {n g : ℕ}
    (hstep : Arena.step clock toFloat t (.accept n g) = some t') :
    t'.server.stopped = t.server.stopped := by
  cases Arena.step_cases hstep with
  | accept n g hlink hnew => exact stopped_handleAccept ..

theorem step_cases (hstep : step clock toFloat p event = some p') :
    Step clock toFloat p event p' := by
  cases event with
  | accepted n g =>
      simp only [step] at hstep
      split at hstep
      · cases hstep
      next howed =>
      obtain ⟨arena, harena, rfl⟩ := Option.map_eq_some_iff.mp hstep
      cases hstopped : p.arena.server.stopped with
      | true =>
          rw [handleAccept, if_pos hstopped]
          exact .lateAccept _ (Or.inl ⟨n, g, rfl⟩) howed hstopped
      | false =>
          have hstill : arena.server.stopped = false := (stopped_accept harena).trans hstopped
          rw [handleAccept, if_neg (by simp [hstopped])]
          have hafter := Step.accepted (p := p) n g howed hstopped harena
          cases hopen : p.acceptorOpen with
          | true => simpa [acceptNext, hstill, hopen] using hafter
          | false => simpa [hopen] using hafter
  | acceptFailed error =>
      simp only [step] at hstep
      split at hstep
      · cases hstep
      next howed =>
      cases hstep
      cases hstopped : p.arena.server.stopped with
      | true =>
          rw [handleAccept, if_pos hstopped]
          exact .lateAccept _ (Or.inr ⟨error, rfl⟩) howed hstopped
      | false =>
          rw [handleAccept, if_neg (by simp [hstopped])]
          have hafter : Step clock toFloat p (.acceptFailed error) _ :=
            .acceptFailed error howed hstopped
          cases hopen : p.acceptorOpen with
          | true => simpa [acceptNext, hstopped, hopen] using hafter
          | false => simpa [hopen] using hafter
  | waited i error deltaSeconds =>
      simp only [step] at hstep
      split at hstep
      · cases hstep
      next cancelled hwait =>
      have howed : i < p.waitsOutstanding.length := (List.getElem?_eq_some_iff.mp hwait).1
      split at hstep
      · cases hstep
      obtain ⟨arena, harena, rfl⟩ := Option.map_eq_some_iff.mp hstep
      cases hstopped : p.arena.server.stopped with
      | true =>
          unfold handleTick
          rw [if_pos hstopped]
          exact .lateWait i error deltaSeconds howed hstopped
      | false =>
          unfold handleTick
          rw [if_neg (by simp [hstopped])]
          cases error with
          | some error => exact .waitFailed i error deltaSeconds howed hstopped
          | none =>
              have hstill : arena.server.stopped = false := (stopped_tick harena).trans hstopped
              have hafter := Step.ticked (p := p) i deltaSeconds howed hstopped harena
              simpa [scheduleNextTick, hstill] using hafter
  | signal error =>
      simp only [step] at hstep
      split at hstep
      swap
      · cases hstep
      next howed =>
      cases error with
      | some error =>
          cases hstep
          exact .signalFailed error howed
      | none =>
          obtain ⟨arena, harena, rfl⟩ := Option.map_eq_some_iff.mp hstep
          cases hstopped : p.arena.server.stopped with
          | true =>
              rw [stop, if_pos hstopped]
              exact .lateSignal howed hstopped
          | false =>
              rw [stop, if_neg (by simp [hstopped])]
              exact .stopped howed hstopped harena
  | other event =>
      simp only [step] at hstep
      split at hstep
      · cases hstep
      next hevent =>
      obtain ⟨arena, harena, rfl⟩ := Option.map_eq_some_iff.mp hstep
      exact .other event (by simpa using hevent) harena

end Cases

/-! ## Refinement -/

section Refinement

variable {clock : ℕ → ℕ → UInt64} {toFloat : K → FloatBits} {p p' : Process K}
  {event : ProcessEvent K}

/-- **A completion is a step of the system**, or leaves it alone. Only a wait makes it tick. -/
theorem step_arena (hstep : step clock toFloat p event = some p') :
    p'.arena = p.arena ∨ ∃ event', Arena.step clock toFloat p.arena event' = some p'.arena ∧
      (event'.isTick = true → event.isWait = true) := by
  cases step_cases hstep with
  | accepted n g howed hrunning hone => exact Or.inr ⟨_, hone, nofun⟩
  | acceptFailed error howed hrunning => exact Or.inl rfl
  | ticked i deltaSeconds howed hrunning hone => exact Or.inr ⟨_, hone, fun _ => rfl⟩
  | waitFailed i error deltaSeconds howed hrunning => exact Or.inl rfl
  | stopped howed hrunning hone => exact Or.inr ⟨_, hone, nofun⟩
  | signalFailed error howed => exact Or.inl rfl
  | lateAccept event hevent howed hstopped => exact Or.inl rfl
  | lateWait i error deltaSeconds howed hstopped => exact Or.inl rfl
  | lateSignal howed hstopped => exact Or.inl rfl
  | other event hevent hone =>
      refine Or.inr ⟨event, hone, fun htick => ?_⟩
      cases event with
      | tick deltaSeconds => cases hevent
      | channel => cases htick
      | update => cases htick
      | shutdown => cases htick
      | accept => cases htick
      | stop => cases htick

/-- **The process refines the system**: whatever state it reaches, the system reaches. -/
theorem refines {events : List (ProcessEvent K)}
    (hrun : runFrom (step clock toFloat) main events = some p) :
    ∃ events', runFrom (Arena.step clock toFloat) Arena.initial events' = some p.arena ∧
      events'.countP ArenaEvent.isTick ≤ events.countP ProcessEvent.isWait := by
  refine runFrom_induction_events (P := fun events p => ∃ events',
    runFrom (Arena.step clock toFloat) Arena.initial events' = some p.arena ∧
      events'.countP ArenaEvent.isTick ≤ events.countP ProcessEvent.isWait)
    ⟨[], congrArg some main_arena.symm, Nat.le_refl 0⟩ ?_ hrun
  rintro events p event p' ⟨events', hrun', hcount⟩ hstep
  rw [List.countP_append]
  rcases step_arena hstep with hsame | ⟨event', hone, htick⟩
  · rw [hsame]
    exact ⟨events', hrun', Nat.le_add_right_of_le hcount⟩
  · refine ⟨events' ++ [event'], ?_, ?_⟩
    · rw [runFrom_concat, hrun']
      exact hone
    · rw [List.countP_append]
      refine Nat.add_le_add hcount ?_
      rw [List.countP_singleton, List.countP_singleton]
      by_cases hticks : event'.isTick = true
      · rw [if_pos hticks, if_pos (htick hticks)]
      · rw [if_neg hticks]
        exact Nat.zero_le _

end Refinement

/-! ## The sessions there are -/

section Sessions

/-- The process knows the connections that have a session. -/
structure Knows (p : Process K) : Prop where
  sessions : ∀ n g, (n, g) ∈ p.connections ↔ (p.arena.channels.sessionAt n g).isSome = true
  once : p.connections.Nodup

theorem isSome_modifySession (channels : Channels) (n g : ℕ) (f : ServerEnd → ServerEnd)
    (n' g' : ℕ) :
    ((channels.modifySession n g f).sessionAt n' g').isSome =
      (channels.sessionAt n' g').isSome := by
  rw [Channels.sessionAt_modifySession]
  split
  · next hsame => rw [hsame.1, hsame.2, Option.isSome_map]
  · rfl

theorem isSome_stays {server server' : Option ServerEnd} (h : EndStays server server') :
    server'.isSome = server.isSome := by
  cases h with
  | same => rfl
  | changed => rfl

omit [FloorRing K] [HasSqrt K] in
/-- **Accepting a connection** makes its session, and no other. -/
theorem isSome_handleAccept {s : Server K SessionRef} (hseated : s.Seated)
    (hrunning : s.stopped = false) {channels : Channels} {n g : ℕ} {link : Link}
    (hlink : (channels n).links g = some link) (n' g' : ℕ) :
    ((s.handleAccept (sessionObjects n g) channels).2.sessionAt n' g').isSome = true ↔
      (n', g') = (n, g) ∨ (channels.sessionAt n' g').isSome = true := by
  have hat := Channels.sessionAt_setSession hlink { session := { id := s.nextSessionId } }
  have hcreated : ((channels.setSession n g
      { session := { id := s.nextSessionId } }).sessionAt n' g').isSome = true ↔
        (n', g') = (n, g) ∨ (channels.sessionAt n' g').isSome = true := by
    rw [hat, Prod.mk.injEq]
    split
    · next hsame => exact iff_of_true rfl (Or.inl hsame)
    · next hother => rw [or_iff_right hother]
  rcases handleAccept_cases s channels n g with
    ⟨hstopped, -⟩ | ⟨-, ⟨-, hdropped⟩ | ⟨-, hentering⟩⟩
  · rw [hstopped] at hrunning
    cases hrunning
  · rw [hdropped]
    exact (isSome_modifySession ..).symm ▸ hcreated
  · have hserver : (channels.setSession n g
        { session := { id := s.nextSessionId } }).sessionAt n g =
          some { session := { id := s.nextSessionId } } := by
      rw [hat, if_pos ⟨rfl, rfl⟩]
    rcases enterDefaultRoom_cases (s := { s with
        nextSessionId := s.nextSessionId + 1
        sessions := s.sessions ++ [(s.nextSessionId, (⟨n, g, s.nextSessionId⟩ : SessionRef))] })
      (hseated.of_eq rfl rfl) hserver with
      ⟨playerId, -, hrefused⟩ | ⟨r', -, -, hsuccess⟩
    · rw [hentering _ hrefused.symm]
      exact (isSome_modifySession ..).symm ▸ hcreated
    · rw [hentering _ hsuccess.symm]
      show ((Channels.modifySession (Channels.modifySession _ n g _) n g _).sessionAt
        n' g').isSome = true ↔ _
      rw [isSome_modifySession, isSome_modifySession]
      exact hcreated

variable {clock : ℕ → ℕ → UInt64} {toFloat : K → FloatBits} {t t' : Arena K}

/-- What is no accept makes no session. -/
theorem isSome_step (h : t.Reachable clock) {event : ArenaEvent K}
    (hevent : ∀ n g, event ≠ .accept n g)
    (hstep : Arena.step clock toFloat t event = some t') (n g : ℕ) :
    (t'.channels.sessionAt n g).isSome = (t.channels.sessionAt n g).isSome := by
  cases Arena.step_cases hstep with
  | client m event hhonest hmoved =>
      rw [Arena.sessionAt_setChannel (Channel.clientStep_serverEnd hmoved)]
  | established m g' hnew =>
      rw [Arena.sessionAt_setChannel (Channel.established_serverEnd hnew)]
  | server m g' event hhonest hserver =>
      obtain ⟨server, server', hhandled⟩ := h.serverStep hhonest hserver
        (P := fun _ _ s => s.assigned = t.server.assigned)
        (fun _ => assigned_keeps t.server)
        (fun _ _ session s₁ _ hm _ hsame => (dispatchOn_assigned hm session s₁).trans hsame)
        fun _ _ => rfl
      rw [hhandled.after]
      split
      · next hsame => rw [hsame.1, hsame.2, hhandled.before]; rfl
      · rfl
  | update m keys =>
      refine congrArg Option.isSome (Arena.sessionAt_setChannel ?_ n g)
      exact fun _ => rfl
  | shutdown m =>
      refine congrArg Option.isSome (Arena.sessionAt_setChannel ?_ n g)
      exact fun _ => rfl
  | accept m g' => exact absurd rfl (hevent m g')
  | tick deltaSeconds =>
      exact isSome_stays ((h.lively.handleTick 0 0 toFloat deltaSeconds).2.ends n g)
  | stop => exact isSome_stays ((h.lively.stop 0 0).2.ends n g)

variable {p p' : Process K} {event : ProcessEvent K}

omit [LinearOrder K] [IsStrictOrderedRing K] [FloorRing K] [HasSqrt K] in
theorem knows_main : (main : Process K).Knows := by
  have hconnections : (main : Process K).connections = [] := by
    unfold main start acceptNext scheduleNextTick
    rfl
  constructor
  · intro n g
    rw [hconnections, main_arena]
    exact iff_of_false List.not_mem_nil Bool.false_ne_true
  · rw [hconnections]
    exact List.nodup_nil

omit [Field K] [LinearOrder K] [IsStrictOrderedRing K] [FloorRing K] [HasSqrt K] in
theorem Knows.of_eq (h : p.Knows) (hconnections : p'.connections = p.connections)
    (hsessions : ∀ n g, (p'.arena.channels.sessionAt n g).isSome =
      (p.arena.channels.sessionAt n g).isSome) : p'.Knows := by
  refine ⟨fun n g => ?_, hconnections ▸ h.once⟩
  rw [hconnections, hsessions]
  exact h.sessions n g

theorem Knows.step (h : p.Knows) (hreachable : p.arena.Reachable clock)
    (hstep : Process.step clock toFloat p event = some p') : p'.Knows := by
  cases step_cases hstep with
  | accepted n g howed hrunning hone =>
      cases Arena.step_cases hone with
      | accept n g hlink hnew =>
          have hnone : (n, g) ∉ p.connections := by
            rw [h.sessions, Channels.sessionAt, hlink, Option.bind_some, hnew]
            decide
          constructor
          · intro n' g'
            rw [isSome_handleAccept hreachable.sound.world.seated hrunning hlink, List.mem_append,
              List.mem_singleton, ← h.sessions, or_comm]
          · exact List.Nodup.append h.once (List.nodup_singleton _)
              (List.disjoint_singleton.mpr hnone)
  | acceptFailed error howed hrunning => exact h.of_eq rfl fun _ _ => rfl
  | ticked i deltaSeconds howed hrunning hone =>
      exact h.of_eq rfl (isSome_step hreachable (by simp) hone)
  | waitFailed i error deltaSeconds howed hrunning => exact h.of_eq rfl fun _ _ => rfl
  | stopped howed hrunning hone => exact h.of_eq rfl (isSome_step hreachable (by simp) hone)
  | signalFailed error howed => exact h.of_eq rfl fun _ _ => rfl
  | lateAccept event hevent howed hstopped => exact h.of_eq rfl fun _ _ => rfl
  | lateWait i error deltaSeconds howed hstopped => exact h.of_eq rfl fun _ _ => rfl
  | lateSignal howed hstopped => exact h.of_eq rfl fun _ _ => rfl
  | other event hevent hone =>
      refine h.of_eq rfl (isSome_step hreachable ?_ hone)
      rintro n g rfl
      cases hevent

end Sessions

/-! ## While the server runs -/

section Running

/-- While the server runs, it is owed exactly one accept, and exactly one wait unless a wait has
failed. -/
structure Serving (p : Process K) : Prop where
  acceptorOpen : p.acceptorOpen = true
  oneAccept : p.acceptsOutstanding = 1
  oneWait : p.waitsOutstanding = [false] ∨ p.waitsOutstanding = []

variable {clock : ℕ → ℕ → UInt64} {toFloat : K → FloatBits} {p p' : Process K}
  {event : ProcessEvent K}

omit [LinearOrder K] [IsStrictOrderedRing K] [FloorRing K] [HasSqrt K] in
theorem serving_main :
    (main : Process K).Serving ∧ (main : Process K).waitsOutstanding = [false] := by
  unfold main start acceptNext scheduleNextTick
  exact ⟨⟨rfl, rfl, Or.inl rfl⟩, rfl⟩

/-- **A running server** starts an accept for each that completes, and a wait for each that
succeeds; only a signal stops it. -/
theorem Serving.step (h : p.arena.server.stopped = false → p.Serving)
    (hstep : Process.step clock toFloat p event = some p')
    (hstopped : p.arena.server.stopped = true → p'.arena.server.stopped = true)
    (hrunning : p'.arena.server.stopped = false) :
    p'.Serving ∧ (event.isFailedWait = false → p.waitsOutstanding = [false] →
      p'.waitsOutstanding = [false]) := by
  have hbefore : p.arena.server.stopped = false := by
    by_contra hno
    rw [hstopped (by simpa using hno)] at hrunning
    cases hrunning
  obtain ⟨hopen, hone, hwait⟩ := h hbefore
  cases step_cases hstep with
  | accepted n g howed _ _ =>
      exact ⟨⟨hopen, by rw [hone, hopen]; rfl, hwait⟩, fun _ hwaits => hwaits⟩
  | acceptFailed error howed _ =>
      exact ⟨⟨hopen, by rw [hone, hopen]; rfl, hwait⟩, fun _ hwaits => hwaits⟩
  | ticked i deltaSeconds howed _ _ =>
      rcases hwait with hwait | hwait
      · rw [hwait, List.length_singleton, Nat.lt_one_iff] at howed
        subst howed
        rw [hwait]
        exact ⟨⟨hopen, hone, Or.inl rfl⟩, fun _ _ => rfl⟩
      · rw [hwait] at howed
        cases howed
  | waitFailed i error deltaSeconds howed _ =>
      rcases hwait with hwait | hwait
      · rw [hwait, List.length_singleton, Nat.lt_one_iff] at howed
        subst howed
        rw [hwait]
        exact ⟨⟨hopen, hone, Or.inr rfl⟩, fun hfine => by cases hfine⟩
      · rw [hwait] at howed
        cases howed
  | stopped howed _ harena =>
      rw [stopped_of_stop harena] at hrunning
      cases hrunning
  | signalFailed error howed => exact ⟨⟨hopen, hone, hwait⟩, fun _ hwaits => hwaits⟩
  | lateAccept event hevent howed hlate =>
      rw [hbefore] at hlate
      cases hlate
  | lateWait i error deltaSeconds howed hlate =>
      rw [hbefore] at hlate
      cases hlate
  | lateSignal howed hlate =>
      rw [hbefore] at hlate
      cases hlate
  | other event hevent _ => exact ⟨⟨hopen, hone, hwait⟩, fun _ hwaits => hwaits⟩

end Running

/-! ## Once it was stopped -/

section Stopping

/-- What a session is owed. -/
def sessionWork (channels : Channels) (connection : ℕ × ℕ) : ℕ :=
  match channels.sessionAt connection.1 connection.2 with
  | none => 0
  | some server => server.session.readsOutstanding + server.session.writesOutstanding.length

/-- What `io_context` still has to run on the side of the server. -/
def work (p : Process K) : ℕ :=
  p.acceptsOutstanding + p.waitsOutstanding.length + (if p.signalOutstanding then 1 else 0) +
    (p.connections.map (sessionWork p.arena.channels)).sum

/-- A stopped server, all of whose sessions are closed. -/
structure Stopped (p : Process K) : Prop where
  stopped : p.arena.server.stopped = true
  closed : ∀ n g server, p.arena.channels.sessionAt n g = some server →
    server.session.closed = true
  knows : p.Knows

variable {clock : ℕ → ℕ → UInt64} {toFloat : K → FloatBits} {p p' : Process K}
  {event : ProcessEvent K}

/-- Of a sum, one term becomes smaller. -/
theorem sum_map_add {α : Type*} {f g : α → ℕ} {a : α} {k : ℕ} {l : List α} (ha : a ∈ l)
    (hl : l.Nodup) (hone : g a + k = f a) (hother : ∀ x, x ≠ a → g x = f x) :
    (l.map g).sum + k = (l.map f).sum := by
  induction l with
  | nil => cases ha
  | cons x l ih =>
      obtain ⟨hnew, hrest⟩ := List.nodup_cons.mp hl
      rw [List.map_cons, List.map_cons, List.sum_cons, List.sum_cons]
      rcases List.mem_cons.mp ha with rfl | hmem
      · rw [List.map_congr_left fun y hy => hother y fun hsame => hnew (hsame ▸ hy)]
        omega
      · have hx := hother x fun hsame => hnew (hsame ▸ hmem)
        have hsum := ih hmem hrest
        omega

omit [Field K] [LinearOrder K] [IsStrictOrderedRing K] [FloorRing K] [HasSqrt K] in
/-- Only the sessions count. -/
theorem Stopped.of_sessions (h : p.Stopped) {arena : Arena K}
    (hserver : arena.server.stopped = true)
    (hat : ∀ n g, arena.channels.sessionAt n g = p.arena.channels.sessionAt n g) :
    ({ p with arena } : Process K).Stopped ∧ ({ p with arena } : Process K).work = p.work := by
  refine ⟨⟨hserver, fun n g server hsession => ?_, ?_⟩, ?_⟩
  · exact h.closed n g server ((hat n g).symm.trans hsession)
  · exact h.knows.of_eq rfl fun n g => by rw [hat]
  · have hwork : sessionWork arena.channels = sessionWork p.arena.channels := by
      funext connection
      unfold sessionWork
      rw [hat]
    unfold work
    rw [hwork]

omit [Field K] [LinearOrder K] [IsStrictOrderedRing K] [FloorRing K] [HasSqrt K] in
/-- **A completion of a closed session** is one thing less that it is owed. -/
theorem sessionWork_serverStep {σ : Type} {callbacks : SessionCallbacks σ} {link link' : Link}
    {server : ServerEnd} {w w' : σ} {n g : ℕ} {event : ServerEvent}
    (hevent : isHonest (.server g event) = true) (hclosed : server.session.closed = true)
    (hstep : link.serverStep callbacks server w event = some (link', w')) :
    w' = w ∧ ∃ server', link'.serverEnd = some server' ∧ server'.session.closed = true ∧
      server'.session.readsOutstanding + server'.session.writesOutstanding.length +
          (if ProcessEvent.isCompletion (K := K) (.other (.channel n (.server g event))) then 1
            else 0) =
        server.session.readsOutstanding + server.session.writesOutstanding.length := by
  cases event with
  | start => cases hevent
  | send message => cases hevent
  | stop => cases hevent
  | read count error =>
      simp only [Link.serverStep] at hstep
      split at hstep
      swap
      · cases hstep
      next hguard =>
      have hread :
          server.session.retireRead.handleRead callbacks error (link.upstream.next count) w =
            (server.session.retireRead, w) := by
        unfold Session.handleRead
        exact if_pos hclosed
      rw [hread] at hstep
      cases hstep
      refine ⟨rfl, _, rfl, hclosed, ?_⟩
      have hsome := hguard.1
      simp only [Session.retireRead, ProcessEvent.isCompletion, if_true]
      omega
  | transfer i count =>
      simp only [Link.serverStep] at hstep
      split at hstep
      · cases hstep
      split at hstep
      · cases hstep
        refine ⟨rfl, _, rfl, hclosed, ?_⟩
        simp [Session.transfer, ProcessEvent.isCompletion]
      · cases hstep
  | written i error =>
      simp only [Link.serverStep] at hstep
      split at hstep
      · cases hstep
      next op hop =>
      split at hstep
      · have hwritten : (server.session.retireWrite i).handleWrite callbacks error op.sent w =
            (server.session.retireWrite i, w) := by
          unfold Session.handleWrite
          exact if_pos hclosed
        rw [hwritten] at hstep
        cases hstep
        refine ⟨rfl, _, rfl, hclosed, ?_⟩
        have hlength : i < server.session.writesOutstanding.length :=
          (List.getElem?_eq_some_iff.mp hop).1
        simp only [Session.retireWrite, ProcessEvent.isCompletion, if_true,
          List.length_eraseIdx_of_lt hlength]
        omega
      · cases hstep

omit [IsStrictOrderedRing K] [FloorRing K] in
/-- **A session of a stopped server moves.** -/
theorem Stopped.serverStep (h : p.Stopped) {n g : ℕ} {event : ServerEvent}
    (hevent : isHonest (.server g event) = true) {channel : Channel ClientApplication}
    {server : Server K SessionRef}
    (hstep : Channel.step (ClientApplication.environment (clock n)) Server.callbacks
      (p.arena.channels n, p.arena.server) (.server g event) = some (channel, server)) :
    ({ p with arena := { p.arena with server }.setChannel n channel } : Process K).Stopped ∧
      ({ p with arena := { p.arena with server }.setChannel n channel } : Process K).work +
        (if ProcessEvent.isCompletion (K := K) (.other (.channel n (.server g event)))
          then 1 else 0) = p.work := by
  obtain ⟨link, old, link', hlink, hold, hone, rfl⟩ := Channel.step_server hstep
  have hbefore : p.arena.channels.sessionAt n g = some old :=
    Channels.sessionAt_eq_some.mpr ⟨link, hlink, hold⟩
  obtain ⟨rfl, new, hnew, hclosed, hwork⟩ := sessionWork_serverStep (K := K) (n := n) hevent
    (h.closed n g old hbefore) hone
  have hat := Arena.sessionAt_setLink p.arena n g link'
  refine ⟨⟨h.stopped, fun n' g' server' hserver' => ?_, h.knows.of_eq rfl fun n' g' => ?_⟩, ?_⟩
  · rw [hat] at hserver'
    split at hserver'
    · rw [hnew] at hserver'
      cases hserver'
      exact hclosed
    · exact h.closed n' g' server' hserver'
  · rw [hat]
    split
    · next hsame => rw [hsame.1, hsame.2, hbefore, hnew]; rfl
    · rfl
  · have hmem : (n, g) ∈ p.connections := (h.knows.sessions n g).mpr (by rw [hbefore]; rfl)
    have hsum := sum_map_add (f := sessionWork p.arena.channels)
      (g := sessionWork (p.arena.setChannel n { p.arena.channels n with
        links := Function.update (p.arena.channels n).links g (some link') }).channels)
      (k := if ProcessEvent.isCompletion (K := K) (.other (.channel n (.server g event))) then 1
        else 0) hmem h.knows.once
      (by
        unfold sessionWork
        rw [hat, if_pos ⟨rfl, rfl⟩, hnew, hbefore]
        exact hwork)
      (fun other hother => by
        unfold sessionWork
        rw [hat, if_neg fun hsame => hother (Prod.ext hsame.1 hsame.2)])
    unfold work
    rw [← hsum, ← Nat.add_assoc]

/-- **Nothing new is started** once the server was stopped, and every completion is one thing
less. -/
theorem Stopped.step (h : p.Stopped) (hstep : Process.step clock toFloat p event = some p') :
    p'.Stopped ∧ p'.work + (if event.isCompletion then 1 else 0) = p.work := by
  have hrunning : p.arena.server.stopped ≠ false := by
    rw [h.stopped]
    decide
  cases step_cases hstep with
  | accepted n g howed hno => exact absurd hno hrunning
  | acceptFailed error howed hno => exact absurd hno hrunning
  | ticked i deltaSeconds howed hno => exact absurd hno hrunning
  | waitFailed i error deltaSeconds howed hno => exact absurd hno hrunning
  | stopped howed hno => exact absurd hno hrunning
  | signalFailed error howed =>
      refine ⟨⟨h.stopped, h.closed, h.knows.of_eq rfl fun _ _ => rfl⟩, ?_⟩
      unfold work
      simp only [howed, ProcessEvent.isCompletion, if_true, Bool.false_eq_true, if_false]
      omega
  | lateAccept event hevent howed hstopped =>
      refine ⟨⟨h.stopped, h.closed, h.knows.of_eq rfl fun _ _ => rfl⟩, ?_⟩
      have hcompletion : event.isCompletion = true := by
        rcases hevent with ⟨n, g, rfl⟩ | ⟨error, rfl⟩ <;> rfl
      unfold work
      rw [hcompletion, if_pos rfl]
      dsimp only
      omega
  | lateWait i error deltaSeconds howed hstopped =>
      refine ⟨⟨h.stopped, h.closed, h.knows.of_eq rfl fun _ _ => rfl⟩, ?_⟩
      unfold work
      simp only [ProcessEvent.isCompletion, if_true, List.length_eraseIdx_of_lt howed]
      omega
  | lateSignal howed hstopped =>
      refine ⟨⟨h.stopped, h.closed, h.knows.of_eq rfl fun _ _ => rfl⟩, ?_⟩
      unfold work
      simp only [howed, ProcessEvent.isCompletion, if_true, Bool.false_eq_true, if_false]
      omega
  | other event hevent hone =>
      cases Arena.step_cases hone with
      | client n event hhonest hmoved =>
          refine h.of_sessions h.stopped (Arena.sessionAt_setChannel ?_)
          exact Channel.clientStep_serverEnd hmoved
      | established n g hnew =>
          refine h.of_sessions h.stopped (Arena.sessionAt_setChannel ?_)
          exact Channel.established_serverEnd hnew
      | server n g event hhonest hserver => exact h.serverStep hhonest hserver
      | update n keys =>
          refine h.of_sessions h.stopped (Arena.sessionAt_setChannel ?_)
          exact fun _ => rfl
      | shutdown n =>
          refine h.of_sessions h.stopped (Arena.sessionAt_setChannel ?_)
          exact fun _ => rfl
      | accept n g => cases hevent
      | tick deltaSeconds => cases hevent
      | stop => cases hevent

omit [Field K] [LinearOrder K] [IsStrictOrderedRing K] [FloorRing K] [HasSqrt K] in
/-- A session that is owed something can be told that it was aborted. -/
theorem aborted_serverStep {σ : Type} (callbacks : SessionCallbacks σ) {link : Link}
    (hlink : link.InOrder) {server : ServerEnd} (w : σ)
    (howed : server.session.readsOutstanding + server.session.writesOutstanding.length ≠ 0) :
    ∃ event, (∀ g, isHonest (.server g event) = true) ∧
      (∀ n g, ProcessEvent.isCompletion (K := K) (.other (.channel n (.server g event))) = true) ∧
        (link.serverStep callbacks server w event).isSome = true := by
  by_cases hread : server.session.readsOutstanding ≠ 0
  · refine ⟨.read 0 (some .operationAborted), fun _ => rfl, fun _ _ => rfl, ?_⟩
    simp only [Link.serverStep]
    rw [if_pos ⟨hread, Nat.zero_le _, hlink.upstream, by intro hnone; cases hnone⟩]
    rfl
  · refine ⟨.written 0 (some .operationAborted), fun _ => rfl, fun _ _ => rfl, ?_⟩
    obtain ⟨op, hop⟩ : ∃ op, server.session.writesOutstanding[0]? = some op := by
      have hlength : 0 < server.session.writesOutstanding.length := by omega
      exact ⟨_, List.getElem?_eq_getElem hlength⟩
    simp only [Link.serverStep]
    rw [hop]
    dsimp only
    rw [if_pos (by intro hnone; cases hnone)]
    rfl

/-- **What a stopped server is owed can complete.** -/
theorem Stopped.progress (h : p.Stopped) (hinOrder : ∀ n, (p.arena.channels n).InOrder)
    (hwork : p.work ≠ 0) :
    ∃ event, event.isCompletion = true ∧ (Process.step clock toFloat p event).isSome = true := by
  by_cases haccepts : p.acceptsOutstanding = 0
  swap
  · refine ⟨.acceptFailed .operationAborted, rfl, ?_⟩
    simp only [Process.step, if_neg haccepts, Option.isSome_some]
  by_cases hsignal : p.signalOutstanding = true
  · refine ⟨.signal (some .operationAborted), rfl, ?_⟩
    simp only [Process.step, if_pos hsignal, Option.isSome_some]
  by_cases hwaits : p.waitsOutstanding = []
  swap
  · obtain ⟨cancelled, waits, hcons⟩ := List.exists_cons_of_ne_nil hwaits
    refine ⟨.waited 0 none 0, rfl, ?_⟩
    simp only [Process.step, hcons, List.getElem?_cons_zero]
    rw [if_neg (by rintro ⟨hnone, -⟩; cases hnone)]
    rfl
  obtain ⟨⟨n, g⟩, hmem, hsome⟩ : ∃ connection ∈ p.connections,
      sessionWork p.arena.channels connection ≠ 0 := by
    by_contra hnone
    refine hwork ?_
    have hzero : (p.connections.map (sessionWork p.arena.channels)).sum = 0 := by
      apply List.sum_eq_zero
      intro k hk
      obtain ⟨connection, hconnection, rfl⟩ := List.mem_map.mp hk
      by_contra hne
      exact hnone ⟨connection, hconnection, hne⟩
    unfold work
    rw [haccepts, hwaits, hzero, if_neg hsignal]
    rfl
  obtain ⟨server, hserver⟩ := Option.isSome_iff_exists.mp ((h.knows.sessions n g).mp hmem)
  obtain ⟨link, hlink, hend⟩ := Channels.sessionAt_eq_some.mp hserver
  have howed : server.session.readsOutstanding + server.session.writesOutstanding.length ≠ 0 := by
    unfold sessionWork at hsome
    rw [hserver] at hsome
    exact hsome
  obtain ⟨event, hhonest, hcompletion, hdone⟩ := aborted_serverStep (K := K) Server.callbacks
    ((hinOrder n).links g link hlink) p.arena.server howed
  refine ⟨.other (.channel n (.server g event)), hcompletion n g, ?_⟩
  simp only [Process.step, ArenaEvent.isServers, Bool.false_eq_true, if_false, Option.isSome_map,
    Arena.step, if_pos (hhonest g), Channel.step, hlink, hend]
  exact hdone

end Stopping

/-! ## The whole process -/

section Whole

variable {clock : ℕ → ℕ → UInt64} {toFloat : K → FloatBits} {p p' : Process K}
  {event : ProcessEvent K} {events : List (ProcessEvent K)}

/-- What holds of the process after some events. -/
structure Arrives (clock : ℕ → ℕ → UInt64) (events : List (ProcessEvent K)) (p : Process K) :
    Prop where
  reachable : p.arena.Reachable clock
  ticks : p.arena.server.serverTick.toNat ≤ events.countP ProcessEvent.isWait
  enrolled : Enrolled p.arena.server p.arena.channels
  knows : p.Knows
  serving : p.arena.server.stopped = false → p.Serving
  waits : p.arena.server.stopped = false → events.countP ProcessEvent.isFailedWait = 0 →
    p.waitsOutstanding = [false]

omit [IsStrictOrderedRing K] [FloorRing K] [HasSqrt K] in
theorem arrives_main : Arrives clock [] (main : Process K) where
  reachable := by
    rw [main_arena]
    exact Arena.reachable_initial
  ticks := by
    rw [main_arena]
    exact Nat.le_refl 0
  enrolled := by
    rw [main_arena]
    exact enrolled_initial
  knows := knows_main
  serving _ := serving_main.1
  waits _ _ := serving_main.2

theorem Arrives.step (h : Arrives clock events p)
    (hclock : ∀ n i j, i ≤ j → clock n i ≤ clock n j)
    (hwaits : (events ++ [event]).countP ProcessEvent.isWait < 2 ^ 64)
    (hstep : Process.step clock toFloat p event = some p') :
    Arrives clock (events ++ [event]) p' := by
  rw [List.countP_append, List.countP_singleton] at hwaits
  have hmoved : p'.arena.Reachable clock ∧
      p'.arena.server.serverTick.toNat ≤ (events ++ [event]).countP ProcessEvent.isWait ∧
      Enrolled p'.arena.server p'.arena.channels ∧
      (p.arena.server.stopped = true → p'.arena.server.stopped = true) := by
    rw [List.countP_append, List.countP_singleton]
    rcases step_arena hstep with hsame | ⟨event', hone, htick⟩
    · rw [hsame]
      exact ⟨h.reachable, Nat.le_add_right_of_le h.ticks, h.enrolled, id⟩
    · have hnext : event'.isTick = true → p.arena.server.serverTick.toNat + 1 < 2 ^ 64 := by
        intro hticks
        rw [if_pos (htick hticks)] at hwaits
        have hbefore := h.ticks
        omega
      obtain ⟨hreachable, hcounted⟩ := h.reachable.step hclock hnext hone
      refine ⟨hreachable, hcounted.trans (Nat.add_le_add h.ticks ?_),
        h.reachable.enrolled hclock hnext hone h.enrolled, h.reachable.stopped hone⟩
      by_cases hticks : event'.isTick = true
      · rw [if_pos hticks, if_pos (htick hticks)]
      · rw [if_neg hticks]
        exact Nat.zero_le _
  obtain ⟨hreachable, hticked, henrolled, hstopped⟩ := hmoved
  refine ⟨hreachable, hticked, henrolled, h.knows.step h.reachable hstep, fun hrunning =>
    (Serving.step h.serving hstep hstopped hrunning).1, fun hrunning hfine => ?_⟩
  rw [List.countP_append, List.countP_singleton] at hfine
  have hbefore : p.arena.server.stopped = false := by
    by_contra hno
    rw [hstopped (by simpa using hno)] at hrunning
    cases hrunning
  refine (Serving.step h.serving hstep hstopped hrunning).2 ?_ (h.waits hbefore (by omega))
  by_contra hfailed
  rw [if_pos (by simpa using hfailed)] at hfine
  omega

theorem arrives (hclock : ∀ n i j, i ≤ j → clock n i ≤ clock n j)
    (hwaits : events.countP ProcessEvent.isWait < 2 ^ 64)
    (hrun : runFrom (Process.step clock toFloat) main events = some p) :
    Arrives clock events p := by
  refine runFrom_induction_events (P := fun events p =>
    events.countP ProcessEvent.isWait < 2 ^ 64 → Arrives clock events p) (fun _ => arrives_main) ?_
    hrun hwaits
  intro events p event p' h hstep hwaits
  refine (h ?_).step hclock hwaits hstep
  rw [List.countP_append] at hwaits
  omega

/-- **The server serves until it is stopped, and then winds down.** Every state of the process is a
state of the system. Until the signal the server is owed exactly one accept, and exactly one wait
unless a wait has failed. After it all sessions are closed and nothing new is started: in whatever
order things go on, every completion on the side of the server lowers what it is owed by one, and as
long as it is owed anything, some completion can happen. (There are fewer than 2^64 waits and, on
every client, successful calls of `Connect` and `Disconnect`, see `NetworkClient.Counts`; clocks are
monotone.) -/
theorem serves_and_winds_down (clock : ℕ → ℕ → UInt64) (toFloat : K → FloatBits)
    (hclock : ∀ n i j, i ≤ j → clock n i ≤ clock n j) (events events' : List (ProcessEvent K))
    (hwaits : events.countP ProcessEvent.isWait < 2 ^ 64) (p p' : Process K)
    (hrun : runFrom (step clock toFloat) main events = some p)
    (hrun' : runFrom (step clock toFloat) p events' = some p') :
    (∃ before, runFrom (Arena.step clock toFloat) Arena.initial before = some p.arena ∧
      before.countP ArenaEvent.isTick ≤ events.countP ProcessEvent.isWait) ∧
    (p.arena.server.stopped = false → p.Serving ∧
      (events.countP ProcessEvent.isFailedWait = 0 → p.waitsOutstanding = [false])) ∧
    (p.arena.server.stopped = true →
      p'.arena.server.stopped = true ∧
      (∀ n g server, p'.arena.channels.sessionAt n g = some server →
        server.session.closed = true) ∧
      p'.work + events'.countP ProcessEvent.isCompletion = p.work ∧
      (p.work ≠ 0 → ∃ event, event.isCompletion = true ∧
        (step clock toFloat p event).isSome = true)) := by
  have harrives := arrives hclock hwaits hrun
  refine ⟨refines hrun, fun hrunning => ⟨harrives.serving hrunning, harrives.waits hrunning⟩,
    fun hstopped => ?_⟩
  have hclosed : p.Stopped := by
    refine ⟨hstopped, fun n g server hserver => ?_, harrives.knows⟩
    by_contra hopen
    exact harrives.enrolled.stopped hstopped ⟨n, g, server.session.id⟩
      ⟨server, hserver, rfl, by simpa using hopen⟩
  obtain ⟨hstays, hwork⟩ := runFrom_countP (I := Stopped) work
    (fun _ _ _ h hstep => h.step hstep) hclosed hrun'
  exact ⟨hstays.stopped, hstays.closed, hwork,
    hclosed.progress harrives.reachable.sound.world.inOrder⟩

/-- A client connects and is accepted, the server ticks, and is stopped. -/
def firstStop : List (ProcessEvent ℚ) := [
  .other (.channel 0 (.client (.call (.connect "localhost" 7777 {})))),
  .other (.channel 0 (.client (.resolved 1 none))), .other (.channel 0 (.established 1)),
  .other (.channel 0 (.client (.connected 1 none))), .accepted 0 1, .waited 0 none (1 / 60),
  .signal none]

/-- What is still owed then. -/
def firstAborts : List (ProcessEvent ℚ) := [
  .other (.channel 0 (.server 1 (.read 0 (some .operationAborted)))),
  .waited 0 (some .operationAborted) 0, .acceptFailed .operationAborted,
  .other (.channel 0 (.server 1 (.written 0 (some .operationAborted))))]

/-- The theorem on a run that comes to its end. -/
theorem serves_and_winds_down_firstStop : ∃ p p',
    runFrom (step (fun _ _ => 0) nearestFloat) main firstStop = some p ∧
      runFrom (step (fun _ _ => 0) nearestFloat) p firstAborts = some p' ∧
      p.work = 4 ∧ p'.work + 4 = p.work := by
  have hboth : (runFrom (step (fun _ _ => 0) nearestFloat) main firstStop).map (fun p =>
      ((p.arena.server.stopped, p.work),
        (runFrom (step (fun _ _ => 0) nearestFloat) p firstAborts).isSome)) =
          some ((true, 4), true) := by
    decide +kernel
  obtain ⟨p, hrun, hpair⟩ := Option.map_eq_some_iff.mp hboth
  obtain ⟨hfirst, hlater⟩ := Prod.mk.inj hpair
  obtain ⟨hstopped, hwork⟩ := Prod.mk.inj hfirst
  obtain ⟨p', hrun'⟩ := Option.isSome_iff_exists.mp hlater
  obtain ⟨-, -, hwinds⟩ := serves_and_winds_down (fun _ _ => 0) nearestFloat
    (fun _ _ _ _ => UInt64.le_refl 0) firstStop firstAborts (by decide) p p' hrun hrun'
  exact ⟨p, p', hrun, hrun', hwork, (hwinds hstopped).2.2.1⟩

end Whole

end Process

end NetworkArena.System
