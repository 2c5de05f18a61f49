import SieveTube.Library.Run
import SieveTube.Library.Tasks

/-!
# The pool of mesh connections

Calls that want a connection to a peer and calls that report a failure of one
interleave at every operation on the maps of the pool.  The model follows the
entries of one peer; operations on other keys do not touch them.
-/

namespace SieveTube

namespace Mesh

/-- What was done to the cooldown of the peer: removed by the attempt that
established a connection, or started by a failure report or by a failed
attempt. -/
inductive PoolAction where
  | cleared (connection : Nat)
  | benched (time : Nat)
  | gaveUp (time : Nat)
deriving DecidableEq

/-- Connections are named by their `stable_id`.  `holder` is the call that
holds the connect lock.  The log, newest action first, only serves to state
properties. -/
structure PeerPool where
  allowed : Bool
  cooldownPeriod : Nat
  now : Nat
  pooled : Option Nat
  closed : Nat → Bool
  cooldown : Option Nat
  holder : Option Nat
  nextConnection : Nat
  log : List PoolAction

/-- Where a call is.  The first phases are those of `connection`, the others
those of `connection_unresponsive` and `connection_failed`. -/
inductive PoolPhase where
  | lookup
  | gate
  | queue
  | recheck
  | regate
  | attempt
  | clear (connection : Nat)
  | store (connection : Nat)
  | giveUp
  | close (connection : Nat)
  | check (connection : Nat)
  | evict (connection : Nat)
  | probe
  | bench
  | finished (connection : Option Nat)
deriving DecidableEq

namespace PeerPool

def new (allowed : Bool) (cooldownPeriod : Nat) : PeerPool :=
  { allowed
    cooldownPeriod
    now := 0
    pooled := none
    closed := fun _ => false
    cooldown := none
    holder := none
    nextConnection := 0
    log := [] }

variable (pool : PeerPool)

def coolingDown : Bool := pool.cooldown.any fun deadline => pool.now < deadline

def startCooldown (action : Nat → PoolAction) : PeerPool :=
  { pool with
    cooldown := some (pool.now + pool.cooldownPeriod)
    log := action pool.now :: pool.log }

/-- The pooled connection if it is open. -/
def usable : Option Nat :=
  pool.pooled.filter fun connection => !pool.closed connection

def unlock : PeerPool := { pool with holder := none }

/-- The next operation of a call.  `connects` tells how a connection attempt
ends. -/
def advance (index : Nat) (connects : Bool) : PoolPhase → PoolPhase × PeerPool
  | .lookup =>
    if pool.allowed then
      match pool.usable with
      | some connection => (.finished (some connection), pool)
      | none => (.gate, pool)
    else (.finished none, pool)
  | .gate => if pool.coolingDown then (.finished none, pool) else (.queue, pool)
  | .queue =>
    match pool.holder with
    | some _ => (.queue, pool)
    | none => (.recheck, { pool with holder := some index })
  | .recheck =>
    match pool.usable with
    | some connection => (.finished (some connection), pool.unlock)
    | none => (.regate, pool)
  | .regate =>
    if pool.coolingDown then (.finished none, pool.unlock)
    else (.attempt, pool)
  | .attempt =>
    if connects then
      (.clear pool.nextConnection,
        { pool with nextConnection := pool.nextConnection + 1 })
    else (.giveUp, pool)
  | .clear connection =>
    (.store connection,
      { pool with
        cooldown := none
        log := .cleared connection :: pool.log })
  | .store connection =>
    (.finished (some connection),
      { pool.unlock with pooled := some connection })
  | .giveUp => (.finished none, (pool.startCooldown .gaveUp).unlock)
  | .close connection =>
    (.check connection,
      { pool with closed := Function.update pool.closed connection true })
  | .check connection =>
    (if pool.closed connection then .evict connection else .finished none, pool)
  | .evict connection =>
    if pool.pooled = some connection then
      (.bench, { pool with pooled := none })
    else (.probe, pool)
  | .probe => (if pool.pooled.isSome then .finished none else .bench, pool)
  | .bench => (.finished none, pool.startCooldown .benched)
  | .finished connection => (.finished connection, pool)

end PeerPool

/-- A call on the pool. -/
inductive PoolCall where
  | connection
  | connectionFailed (reported : Nat)
  | connectionUnresponsive (reported : Nat)

def PoolCall.entry : PoolCall → PoolPhase
  | .connection => .lookup
  | .connectionFailed reported => .check reported
  | .connectionUnresponsive reported => .close reported

structure PoolState where
  pool : PeerPool
  calls : List PoolPhase

inductive PoolEvent where
  | start (call : PoolCall)
  | step (index : Nat) (connects : Bool)
  | cancel (index : Nat)
  | closed (connection : Nat)
  | tick

namespace PoolState

def new (allowed : Bool) (cooldownPeriod : Nat) : PoolState :=
  { pool := .new allowed cooldownPeriod, calls := [] }

/-- A call can be cancelled where it awaits something. -/
def cancelled (pool : PeerPool) : PoolPhase → PoolPhase × PeerPool
  | .queue => (.finished none, pool)
  | .attempt => (.finished none, pool.unlock)
  | phase => (phase, pool)

def step (state : PoolState) : PoolEvent → PoolState
  | .start call => { state with calls := state.calls ++ [call.entry] }
  | .step index connects =>
    match state.calls[index]? with
    | none => state
    | some phase =>
      let (phase, pool) := state.pool.advance index connects phase
      { pool, calls := state.calls.set index phase }
  | .cancel index =>
    match state.calls[index]? with
    | none => state
    | some phase =>
      let (phase, pool) := cancelled state.pool phase
      { pool, calls := state.calls.set index phase }
  | .closed connection =>
    { state with
      pool :=
        { state.pool with
          closed := Function.update state.pool.closed connection true } }
  | .tick =>
    { state with pool := { state.pool with now := state.pool.now + 1 } }

def run (allowed : Bool) (cooldownPeriod : Nat) (events : List PoolEvent) :
    PoolState :=
  Run.after step (new allowed cooldownPeriod) events

end PoolState

/-- Phases in which a call holds the connect lock and has found no usable
connection. -/
def PoolPhase.attempting : PoolPhase → Bool
  | .regate | .attempt | .clear _ | .store _ | .giveUp => true
  | _ => false

/-- Phases in which a call holds the connect lock. -/
def PoolPhase.critical : PoolPhase → Bool
  | .recheck => true
  | phase => phase.attempting

theorem PoolPhase.critical_of_attempting {phase : PoolPhase}
    (attempting : phase.attempting) : phase.critical := by
  cases phase <;> first | rfl | cases attempting

namespace PeerPool

/-- The entry the last action has left. -/
def lastEntry (period : Nat) : List PoolAction → Option Nat
  | [] => none
  | .cleared _ :: _ => none
  | .benched time :: _ => some (time + period)
  | .gaveUp time :: _ => some (time + period)

/-- Since the attempt for a connection removed the cooldown, it was started
by failure reports only. -/
def Since (log : List PoolAction) (now connection : Nat) : Prop :=
  ∃ (times : List Nat) (earlier : List PoolAction),
    log = times.map .benched ++ .cleared connection :: earlier ∧
      times.Pairwise (· ≥ ·) ∧ ∀ time ∈ times, time ≤ now

variable {log : List PoolAction} {now connection : Nat}

theorem since_cleared : Since (.cleared connection :: log) now connection :=
  ⟨[], log, rfl, .nil, fun _ member => (by cases member)⟩

variable (since : Since log now connection)
include since

theorem Since.benched : Since (.benched now :: log) now connection := by
  obtain ⟨times, earlier, rfl, ordered, past⟩ := since
  refine ⟨now :: times, earlier, rfl, ?_, ?_⟩
  · exact List.pairwise_cons.mpr ⟨past, ordered⟩
  · simpa using past

theorem Since.later : Since log (now + 1) connection := by
  obtain ⟨times, earlier, same, ordered, past⟩ := since
  exact ⟨times, earlier, same, ordered,
    fun time member => (past time member).trans (Nat.le_succ now)⟩

/-- The cooldown runs exactly if one of the reports started it recently. -/
theorem Since.runs_iff (period : Nat) :
    ((lastEntry period log).any fun deadline => now < deadline) ↔ ∃ time,
      .benched time ∈ log.takeWhile (· ≠ .cleared connection) ∧
        now < time + period := by
  obtain ⟨times, earlier, rfl, ordered, past⟩ := since
  have recent : (times.map PoolAction.benched ++
      .cleared connection :: earlier).takeWhile
        (· ≠ .cleared connection) = times.map .benched := by
    simp
  rw [recent]
  cases times with
  | nil => simp [lastEntry]
  | cons time times =>
    have latest := (List.pairwise_cons.mp ordered).1
    simp only [List.map_cons, List.cons_append, lastEntry,
      Option.any_some, decide_eq_true_eq]
    constructor
    · intro running
      exact ⟨time, List.mem_cons_self, running⟩
    · rintro ⟨other, member, running⟩
      have bound : other ≤ time := by
        simp only [List.mem_cons, PoolAction.benched.injEq, List.mem_map,
          exists_eq_right] at member
        rcases member with rfl | older
        · exact Nat.le_refl other
        · exact latest other older
      omega

end PeerPool

namespace PoolState

open PeerPool

/-- What every run preserves.  While the pooled connection is open no call
tries to establish another one. -/
structure Sound (state : PoolState) : Prop where
  locked : ∀ {index : Nat} {phase : PoolPhase},
    state.calls[index]? = some phase →
    phase.critical → state.pool.holder = some index
  entry : state.pool.cooldown =
    lastEntry state.pool.cooldownPeriod state.pool.log
  storing : ∀ {index connection : Nat},
    state.calls[index]? = some (PoolPhase.store connection) →
      Since state.pool.log state.pool.now connection
  settled : ∀ {connection}, state.pool.usable = some connection →
    Since state.pool.log state.pool.now connection
  idle : ∀ {connection}, state.pool.usable = some connection →
    ∀ {index : Nat} {phase : PoolPhase}, state.calls[index]? = some phase →
      phase.attempting = false

theorem sound_new {allowed : Bool} {cooldownPeriod : Nat} :
    Sound (new allowed cooldownPeriod) where
  locked := fun there => (by simp [new] at there)
  entry := rfl
  storing := fun there => (by simp [new] at there)
  settled := fun usable => by
    simp [new, PeerPool.new, PeerPool.usable] at usable
  idle := fun _ _ _ there => (by simp [new] at there)

variable {state : PoolState} {pool : PeerPool} {index : Nat}
variable {old phase : PoolPhase}

section

variable (sound : Sound state)
include sound

section

variable (found : state.calls[index]? = some old)
include found

/-- Only one call holds the connect lock. -/
theorem Sound.alone (critical : old.critical)
    {other : Nat} (different : other ≠ index)
    (there : state.calls[other]? = some phase) :
    phase.critical = false := by
  cases holds : phase.critical with
  | false => rfl
  | true =>
    have own := sound.locked found critical
    have second := sound.locked there holds
    rw [own] at second
    exact absurd (Option.some.inj second).symm different

/-- A call moves on, and what the other calls need is kept. -/
theorem sound_set
    (lock : phase.critical → pool.holder = some index)
    (others : ∀ other, other ≠ index → state.pool.holder = some other →
      pool.holder = some other)
    (entry : pool.cooldown = lastEntry pool.cooldownPeriod pool.log)
    (store : ∀ connection, phase = .store connection →
      Since pool.log pool.now connection)
    (kept : ∀ connection, Since state.pool.log state.pool.now connection →
      old.critical = false ∨ state.pool.usable = some connection →
        Since pool.log pool.now connection)
    (usable : ∀ connection, pool.usable = some connection →
      phase.attempting = false ∧ (state.pool.usable = some connection ∨
        old = .store connection ∧ Since pool.log pool.now connection)) :
    Sound { pool, calls := state.calls.set index phase } where
  locked := by
    intro other there found holds
    rcases Tasks.getElem?_set_cases found with ⟨rfl, rfl⟩ | ⟨different, before⟩
    · exact lock holds
    · exact others other different (sound.locked before holds)
  entry := entry
  storing := by
    intro other connection there
    rcases Tasks.getElem?_set_cases there with ⟨_, same⟩ | ⟨different, before⟩
    · exact store connection same.symm
    · refine kept connection (sound.storing before) (.inl ?_)
      cases critical : old.critical with
      | false => rfl
      | true => cases sound.alone found critical different before
  settled := by
    intro connection pooled
    rcases (usable connection pooled).2 with before | ⟨_, since⟩
    · exact kept connection (sound.settled before) (.inr before)
    · exact since
  idle := by
    intro connection pooled other there found'
    rcases Tasks.getElem?_set_cases found' with ⟨_, rfl⟩ | ⟨different, before⟩
    · exact (usable connection pooled).1
    · rcases (usable connection pooled).2 with earlier | ⟨rfl, _⟩
      · exact sound.idle earlier before
      · have calm := sound.alone found rfl different before
        cases attempting : there.attempting with
        | false => rfl
        | true =>
          rw [PoolPhase.critical_of_attempting attempting] at calm
          cases calm

theorem sound_quiet
    (same : pool.cooldown = state.pool.cooldown ∧
      pool.cooldownPeriod = state.pool.cooldownPeriod ∧
      pool.log = state.pool.log ∧ pool.now = state.pool.now)
    (lock : phase.critical → pool.holder = some index)
    (others : ∀ other, other ≠ index → state.pool.holder = some other →
      pool.holder = some other)
    (store : ∀ connection, phase ≠ .store connection)
    (usable : ∀ connection, pool.usable = some connection →
      state.pool.usable = some connection)
    (calm : ∀ connection, pool.usable = some connection → phase.attempting →
      old.attempting) :
    Sound { pool, calls := state.calls.set index phase } := by
  obtain ⟨cooldown, period, log, now⟩ := same
  refine sound_set sound found lock others ?_
    (fun connection stored => absurd stored (store connection)) ?_ ?_
  · rw [cooldown, period, log]
    exact sound.entry
  · intro connection since _
    rw [log, now]
    exact since
  · intro connection pooled
    have before := usable connection pooled
    refine ⟨?_, .inl before⟩
    cases attempting : phase.attempting with
    | false => rfl
    | true =>
      have busy := calm connection pooled attempting
      rw [sound.idle before found] at busy
      cases busy

theorem unlock_others (critical : old.critical)
    {other : Nat} (different : other ≠ index) :
    state.pool.holder ≠ some other := by
  rw [sound.locked found critical]
  intro same
  exact different (Option.some.inj same).symm

theorem sound_finish (critical : old.critical)
    (result : Option Nat) :
    Sound { pool := state.pool.unlock
            calls := state.calls.set index (.finished result) } := by
  refine sound_quiet sound found ⟨rfl, rfl, rfl, rfl⟩
    (fun holds => (by cases holds)) ?_ (fun _ same => (by cases same))
    (fun _ pooled => pooled) (fun _ _ attempting => (by cases attempting))
  intro other different held
  exact absurd held (unlock_others sound found critical different)

theorem sound_move (lock : phase.critical → old.critical)
    (store : ∀ connection, phase ≠ .store connection)
    (calm : ∀ connection, state.pool.usable = some connection →
      phase.attempting → old.attempting) :
    Sound { state with calls := state.calls.set index phase } :=
  sound_quiet sound found ⟨rfl, rfl, rfl, rfl⟩
    (fun holds => sound.locked found (lock holds)) (fun _ _ held => held)
    store (fun _ pooled => pooled) calm

theorem sound_leave (calm : phase.critical = false) :
    Sound { state with calls := state.calls.set index phase } := by
  refine sound_move sound found ?_ ?_ ?_
  · rw [calm]
    intro holds
    cases holds
  · rintro connection rfl
    cases calm
  · intro _ _ attempting
    rw [PoolPhase.critical_of_attempting attempting] at calm
    cases calm

end

theorem sound_clear {connection : Nat}
    (found : state.calls[index]? = some (.clear connection)) :
    Sound
      { pool :=
          { state.pool with
            cooldown := none
            log := .cleared connection :: state.pool.log }
        calls := state.calls.set index (.store connection) } := by
  have busy : ∀ other, state.pool.usable ≠ some other := by
    intro other pooled
    cases sound.idle pooled found
  refine sound_set sound found (fun _ => sound.locked found rfl)
    (fun _ _ held => held) rfl ?_ ?_ ?_
  · intro stored same
    cases same
    exact since_cleared
  · rintro other - (calm | pooled)
    · cases calm
    · exact absurd pooled (busy other)
  · intro other pooled
    exact absurd pooled (busy other)

theorem sound_store {connection : Nat}
    (found : state.calls[index]? = some (.store connection)) :
    Sound
      { pool := { state.pool.unlock with pooled := some connection }
        calls := state.calls.set index (.finished (some connection)) } := by
  refine sound_set sound found (fun holds => (by cases holds)) ?_
    sound.entry (fun _ same => (by cases same)) (fun _ since _ => since) ?_
  · intro other different held
    exact absurd held (unlock_others sound found rfl different)
  · intro other pooled
    refine ⟨rfl, .inr ?_⟩
    obtain ⟨same, _⟩ := Option.filter_eq_some_iff.mp pooled
    cases same
    exact ⟨rfl, sound.storing found⟩

theorem sound_giveUp (found : state.calls[index]? = some .giveUp) : Sound
      { pool := (state.pool.startCooldown .gaveUp).unlock
        calls := state.calls.set index (.finished none) } := by
  have busy : ∀ other, state.pool.usable ≠ some other := by
    intro other pooled
    cases sound.idle pooled found
  refine sound_set sound found (fun holds => (by cases holds)) ?_ rfl
    (fun _ same => (by cases same)) ?_ ?_
  · intro other different held
    exact absurd held (unlock_others sound found rfl different)
  · rintro other - (calm | pooled)
    · cases calm
    · exact absurd pooled (busy other)
  · intro other pooled
    exact absurd pooled (busy other)

theorem sound_bench (found : state.calls[index]? = some .bench) : Sound
      { pool := state.pool.startCooldown .benched
        calls := state.calls.set index (.finished none) } := by
  refine sound_set sound found (fun holds => (by cases holds))
    (fun _ _ held => held) rfl (fun _ same => (by cases same)) ?_ ?_
  · intro connection since _
    exact since.benched
  · intro connection pooled
    exact ⟨rfl, .inl pooled⟩

end

theorem usable_of_closed {closing connection : Nat}
    (usable : PeerPool.usable
      { pool with closed := Function.update pool.closed closing true } =
        some connection) :
    pool.usable = some connection := by
  obtain ⟨pooled, isOpen⟩ := Option.filter_eq_some_iff.mp usable
  refine Option.filter_eq_some_iff.mpr ⟨pooled, ?_⟩
  by_cases same : connection = closing
  · subst same
    simp at isOpen
  · simpa [Function.update_of_ne same] using isOpen

theorem sound_evict (sound : Sound state) {connection : Nat}
    (found : state.calls[index]? = some (.evict connection)) :
    Sound
      { pool := { state.pool with pooled := none }
        calls := state.calls.set index .bench } := by
  refine sound_quiet sound found ⟨rfl, rfl, rfl, rfl⟩
    (fun holds => (by cases holds)) (fun _ _ held => held)
    (fun _ same => (by cases same)) ?_
    (fun _ _ attempting => (by cases attempting))
  intro other pooled
  cases pooled

/-- Each operation of a call keeps the invariant. -/
theorem sound_advance (sound : Sound state)
    (found : state.calls[index]? = some old) (connects : Bool) :
    Sound
      { pool := (state.pool.advance index connects old).2
        calls := state.calls.set index
          (state.pool.advance index connects old).1 } := by
  cases old with
  | lookup =>
    simp only [advance]
    split
    · split <;> exact sound_leave sound found rfl
    · exact sound_leave sound found rfl
  | gate | check connection | probe =>
    simp only [advance]
    split <;> exact sound_leave sound found rfl
  | queue =>
    simp only [advance]
    split
    · exact sound_leave sound found rfl
    · next free =>
      refine sound_quiet sound found ⟨rfl, rfl, rfl, rfl⟩
        (fun _ => rfl) ?_ (fun _ same => (by cases same))
        (fun _ pooled => pooled) (fun _ _ busy => (by cases busy))
      intro other _ held
      rw [free] at held
      cases held
  | recheck =>
    simp only [advance]
    split
    · exact sound_finish sound found rfl _
    · next unusable =>
      refine sound_move sound found (fun _ => rfl)
        (fun _ same => (by cases same)) ?_
      intro connection pooled
      rw [unusable] at pooled
      cases pooled
  | regate =>
    simp only [advance]
    split
    · exact sound_finish sound found rfl _
    · exact sound_move sound found (fun _ => rfl)
        (fun _ same => (by cases same)) (fun _ _ _ => rfl)
  | attempt =>
    simp only [advance]
    split
    · exact sound_quiet sound found ⟨rfl, rfl, rfl, rfl⟩
        (fun _ => sound.locked found rfl) (fun _ _ held => held)
        (fun _ same => (by cases same)) (fun _ pooled => pooled)
        (fun _ _ _ => rfl)
    · exact sound_move sound found (fun _ => rfl)
        (fun _ same => (by cases same)) (fun _ _ _ => rfl)
  | clear connection => exact sound_clear sound found
  | store connection => exact sound_store sound found
  | giveUp => exact sound_giveUp sound found
  | close connection =>
    exact sound_quiet sound found ⟨rfl, rfl, rfl, rfl⟩
      (fun holds => (by cases holds)) (fun _ _ held => held)
      (fun _ same => (by cases same))
      (fun _ pooled => usable_of_closed pooled)
      (fun _ _ busy => (by cases busy))
  | evict connection =>
    simp only [advance]
    split
    · exact sound_evict sound found
    · exact sound_leave sound found rfl
  | bench => exact sound_bench sound found
  | finished connection => exact sound_leave sound found rfl

theorem PoolCall.critical_entry (call : PoolCall) :
    call.entry.critical = false := by
  cases call <;> rfl

theorem sound_start (sound : Sound state) (call : PoolCall) :
    Sound { state with calls := state.calls ++ [call.entry] } where
  locked := by
    intro index phase there holds
    rcases Tasks.getElem?_concat_cases there with ⟨_, rfl⟩ | before
    · rw [PoolCall.critical_entry] at holds
      cases holds
    · exact sound.locked before holds
  entry := sound.entry
  storing := by
    intro index connection there
    rcases Tasks.getElem?_concat_cases there with ⟨_, same⟩ | before
    · have calm := PoolCall.critical_entry call
      rw [← same] at calm
      cases calm
    · exact sound.storing before
  settled := sound.settled
  idle := by
    intro connection pooled index phase there
    rcases Tasks.getElem?_concat_cases there with ⟨_, rfl⟩ | before
    · cases call <;> rfl
    · exact sound.idle pooled before

theorem sound_cancel (sound : Sound state)
    (found : state.calls[index]? = some old) : Sound
      { pool := (cancelled state.pool old).2
        calls := state.calls.set index (cancelled state.pool old).1 } := by
  by_cases queued : old = .queue
  · subst queued
    exact sound_leave sound found rfl
  · by_cases attempting : old = .attempt
    · subst attempting
      exact sound_finish sound found rfl none
    · have same : cancelled state.pool old = (old, state.pool) := by
        unfold cancelled
        split <;> first | rfl | contradiction
      have unchanged : state.calls.set index old = state.calls := by
        obtain ⟨inside, there⟩ := List.getElem?_eq_some_iff.mp found
        rw [← there]
        exact List.set_getElem_self inside
      rw [same, unchanged]
      exact sound

theorem sound_step (sound : Sound state) (event : PoolEvent) :
    Sound (state.step event) := by
  cases event with
  | start call => exact sound_start sound call
  | step index connects =>
    simp only [step]
    split
    · exact sound
    · next found => exact sound_advance sound found connects
  | cancel index =>
    simp only [step]
    split
    · exact sound
    · next found => exact sound_cancel sound found
  | closed connection =>
    exact
      { locked := sound.locked
        entry := sound.entry
        storing := sound.storing
        settled := fun pooled => sound.settled (usable_of_closed pooled)
        idle := fun pooled => sound.idle (usable_of_closed pooled) }
  | tick =>
    exact
      { locked := sound.locked
        entry := sound.entry
        storing := fun there => (sound.storing there).later
        settled := fun pooled => (sound.settled pooled).later
        idle := sound.idle }

theorem sound_run (allowed : Bool) (cooldownPeriod : Nat)
    (events : List PoolEvent) :
    Sound (run allowed cooldownPeriod events) :=
  Run.invariant sound_new (fun _ event sound => sound_step sound event) events

/-- While the pooled connection is open its peer cools down exactly if a
failure report started the cooldown after the attempt for that connection had
removed it. -/
theorem healthy_peer_benched_iff (allowed : Bool) (cooldownPeriod : Nat)
    (events : List PoolEvent) (connection : Nat)
    (pooled : (run allowed cooldownPeriod events).pool.pooled = some connection)
    (isOpen : (run allowed cooldownPeriod events).pool.closed connection =
      false) :
    let pool := (run allowed cooldownPeriod events).pool
    pool.coolingDown ↔ ∃ time,
      .benched time ∈ pool.log.takeWhile (· ≠ .cleared connection) ∧
        pool.now < time + pool.cooldownPeriod := by
  intro pool
  have sound := sound_run allowed cooldownPeriod events
  have usable : pool.usable = some connection :=
    Option.filter_eq_some_iff.mpr ⟨pooled, by rw [isOpen]; rfl⟩
  rw [coolingDown, sound.entry]
  exact (sound.settled usable).runs_iff _

/-- At most one call at a time holds the connect lock, and none tries to
connect while the pooled connection is open. -/
theorem connects_one_at_a_time (allowed : Bool) (cooldownPeriod : Nat)
    (events : List PoolEvent) :
    let state := run allowed cooldownPeriod events
    (∀ first second : Nat, ∀ old ∈ state.calls[first]?,
      ∀ phase ∈ state.calls[second]?,
      old.critical → phase.critical → first = second) ∧
    (state.pool.usable.isSome → ∀ phase ∈ state.calls,
      phase.attempting = false) := by
  have sound := sound_run allowed cooldownPeriod events
  constructor
  · intro first second old found phase there critical holds
    have own := sound.locked found critical
    rw [sound.locked there holds] at own
    exact (Option.some.inj own).symm
  · intro usable phase member
    obtain ⟨connection, pooled⟩ := Option.isSome_iff_exists.mp usable
    obtain ⟨index, found⟩ := List.getElem?_of_mem member
    exact sound.idle pooled found

section Runs

/-- A connection is established, closed by its peer and reported; another one
is established when the cooldown has run out. -/
def replacedLater : List PoolEvent :=
  [.start .connection] ++ List.replicate 8 (.step 0 true) ++
    [.closed 0, .start (.connectionFailed 0)] ++
    List.replicate 3 (.step 1 true) ++ [.tick, .tick, .start .connection] ++
    List.replicate 8 (.step 2 true)

theorem healthy_peer_benched_replacedLater :
    (run true 2 replacedLater).pool.coolingDown = false := by
  have recent : (run true 2 replacedLater).pool.log.takeWhile (· ≠ .cleared 1) =
      [] := by
    decide
  rw [← Bool.not_eq_true]
  intro cooling
  obtain ⟨time, benched, _⟩ := (healthy_peer_benched_iff true 2
    replacedLater 1 (by decide) (by decide)).mp cooling
  cases benched

/-- The report has evicted the closed connection and is about to start the
cooldown when another call establishes a new connection. -/
def replacedMeanwhile : List PoolEvent :=
  [.start .connection] ++ List.replicate 8 (.step 0 true) ++
    [.closed 0, .start (.connectionFailed 0), .step 1 true, .step 1 true,
      .start .connection] ++
    List.replicate 8 (.step 2 true) ++ [.step 1 true]

/-- All calls have finished and every attempt has succeeded, but the peer of
the new, open connection cools down. -/
theorem healthy_peer_benched : (run true 2 replacedMeanwhile).calls =
        [.finished (some 0), .finished none, .finished (some 1)] ∧
      (∀ time, .gaveUp time ∉ (run true 2 replacedMeanwhile).pool.log) ∧
      (run true 2 replacedMeanwhile).pool.closed 0 = true ∧
      (run true 2 replacedMeanwhile).pool.pooled = some 1 ∧
      (run true 2 replacedMeanwhile).pool.closed 1 = false ∧
      (run true 2 replacedMeanwhile).pool.coolingDown = true := by
  have log : (run true 2 replacedMeanwhile).pool.log =
      [.benched 0, .cleared 1, .cleared 0] := by
    decide
  refine ⟨by decide, ?_, by decide, by decide, by decide, by decide⟩
  intro time
  rw [log]
  simp

end Runs

end PoolState

end Mesh

end SieveTube
