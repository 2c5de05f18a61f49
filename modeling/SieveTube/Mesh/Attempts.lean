import SieveTube.Mesh.DatagramMove

/-!
# The attempts of forwarding tasks

A task makes one attempt after another and stops with the first datagram that
is handed over.  Request ids tell all attempts apart.
-/

namespace SieveTube

namespace Mesh

/-- The outcome of an attempt shows in the phase of its task. -/
def Attempt.At (attempt : Attempt) (requestId : Nat)
    (phase : DatagramPhase) : Prop :=
  match attempt.outcome with
  | .underway => ∃ rest, phase = .pending attempt.target rest requestId
  | .handed => phase = .finished
  | .failed => True

/-- A phase in which every attempt so far has failed. -/
def DatagramPhase.Open : DatagramPhase → Prop
  | .deliver _ | .forward _ | .numbered .. | .failed .. => True
  | .pending .. | .finished => False

theorem Attempt.At.failed_of_open {attempt : Attempt} {requestId : Nat}
    {phase : DatagramPhase} (placed : attempt.At requestId phase)
    (isOpen : phase.Open) : attempt.outcome = .failed := by
  unfold Attempt.At at placed
  split at placed
  · obtain ⟨_, rfl⟩ := placed
    exact isOpen.elim
  · subst placed
    exact isOpen.elim
  · assumption

theorem Attempt.at_of_failed {attempt : Attempt} {requestId : Nat}
    {phase : DatagramPhase} (failed : attempt.outcome = .failed) :
    attempt.At requestId phase := by
  unfold Attempt.At
  rw [failed]
  trivial

theorem DatagramTarget.Known.mono {loops later : Nat → Option Nat}
    {target : DatagramTarget} (known : target.Known loops)
    (kept : ∀ {name connection}, loops name = some connection →
      later name = some connection) : target.Known later := by
  cases target with
  | connector handle => exact kept known
  | peer => trivial

namespace DatagramPhase

variable {phase new : DatagramPhase} {target : DatagramTarget}
variable {rest : List RemoteRoute}

theorem Offers.cases (offers : phase.Offers target rest) :
    (∃ connector, phase = .deliver connector ∧ target = .connector connector) ∨
    ∃ route connection,
      phase = .forward (route :: rest) ∧ target = .peer route connection := by
  cases offers with
  | deliver connector => exact .inl ⟨connector, rfl, rfl⟩
  | forward route rest connection => exact .inr ⟨route, connection, rfl, rfl⟩

theorem Offers.isOpen (offers : phase.Offers target rest) : phase.Open := by
  cases offers <;> trivial

theorem Advance.isOpen (advances : phase.Advance new) :
    phase.Open ∧ (new = .finished ∨ ∃ routes, new = .forward routes) := by
  cases advances with
  | exhaust => exact ⟨trivial, .inl rfl⟩
  | skip route rest => exact ⟨trivial, .inr ⟨rest, rfl⟩⟩
  | refuse target rest | remove target rest =>
    refine ⟨trivial, ?_⟩
    cases target with
    | connector handle => exact .inl rfl
    | peer route connection => exact .inr ⟨rest, rfl⟩

end DatagramPhase

/-- The request id a task has taken and not used yet. -/
def DatagramTask.number (task : DatagramTask) : Option Nat :=
  match task.phase with
  | .numbered _ _ requestId => some requestId
  | _ => none

namespace DatagramState

/-- What the account says about a task in a phase. -/
def Fits (state : DatagramState) (index : Nat) (task : DatagramTask) :
    Prop :=
  match task.phase with
  | .deliver connector => (DatagramTarget.connector connector).Known state.loops
  | .numbered target _ requestId =>
    target.Known state.loops ∧ requestId < state.edge.nextRequestId ∧
      state.attempts requestId = none
  | .pending target _ requestId =>
    state.attempts requestId =
      some { task := index, origin := task.origin, target
             outcome := .underway }
  | .forward _ | .failed .. | .finished => True

/-- What a task shows of an attempt of its own. -/
structure Placed (state : DatagramState) (requestId : Nat)
    (attempt : Attempt) : Prop where
  counted : requestId < state.edge.nextRequestId
  known : attempt.target.Known state.loops
  shown : ∃ task, state.tasks[attempt.task]? = some task ∧
    task.origin = attempt.origin ∧ attempt.At requestId task.phase

structure Accounted (state : DatagramState) : Prop where
  fits : ∀ {index task}, state.tasks[index]? = some task → state.Fits index task
  distinct : ∀ {index other : Nat} {task later : DatagramTask}
    {requestId : Nat}, state.tasks[index]? = some task →
      state.tasks[other]? = some later → task.number = some requestId →
        later.number = some requestId → index = other
  placed : ∀ {requestId attempt}, state.attempts requestId = some attempt →
      state.Placed requestId attempt
  alone : ∀ {requestId other attempt later},
    state.attempts requestId = some attempt →
      state.attempts other = some later → attempt.task = later.task →
        attempt.outcome ≠ .failed → later.outcome ≠ .failed → requestId = other

variable {state later : DatagramState} {index : Nat} {task : DatagramTask}
variable {phase : DatagramPhase}

theorem accounted_start (settings : DatagramSettings) :
    (start settings).Accounted where
  fits found := by cases found
  distinct found := by cases found
  placed made := by cases made
  alone made := by cases made

/-- The request ids of a task: one it has taken, and those of its
attempts. -/
def Owns (state : DatagramState) (index : Nat) (task : DatagramTask)
    (requestId : Nat) : Prop :=
  task.number = some requestId ∨ ∃ attempt,
    state.attempts requestId = some attempt ∧ attempt.task = index

theorem Fits.number (fits : state.Fits index task) {requestId : Nat}
    (taken : task.number = some requestId) :
    requestId < state.edge.nextRequestId ∧ state.attempts requestId = none := by
  unfold Fits DatagramTask.number at *
  split at taken
  · next phase =>
    cases taken
    simp only [phase] at fits
    exact fits.2
  · cases taken

/-- Facts about a task survive what other tasks do. -/
theorem Fits.mono (fits : state.Fits index task)
    (counted : state.edge.nextRequestId ≤ later.edge.nextRequestId)
    (loops : ∀ {name connection}, state.loops name = some connection →
      later.loops name = some connection)
    (attempts : ∀ requestId, state.Owns index task requestId →
      later.attempts requestId = state.attempts requestId) :
    later.Fits index task := by
  unfold Fits Owns DatagramTask.number at *
  split at fits <;> try trivial
  · exact fits.mono loops
  · next target rest requestId phase =>
    obtain ⟨known, below, free⟩ := fits
    have same := attempts requestId (.inl (by simp [phase]))
    exact ⟨known.mono loops, below.trans_le counted, same.trans free⟩
  · next target rest requestId phase =>
    have same := attempts requestId (.inr ⟨_, fits, rfl⟩)
    exact same.trans fits

theorem Placed.mono {requestId : Nat} {attempt : Attempt}
    (placed : state.Placed requestId attempt)
    (counted : state.edge.nextRequestId ≤ later.edge.nextRequestId)
    (loops : ∀ {name connection}, state.loops name = some connection →
      later.loops name = some connection)
    (tasks : later.tasks[attempt.task]? = state.tasks[attempt.task]?) :
    later.Placed requestId attempt where
  counted := placed.counted.trans_le counted
  known := placed.known.mono loops
  shown := by
    rw [tasks]
    exact placed.shown

namespace Accounted

variable (accounted : state.Accounted)
include accounted

variable {requestId : Nat}

section

variable (found : state.tasks[index]? = some task)
include found

theorem failed_of_open (isOpen : task.phase.Open) {attempt : Attempt}
    (made : state.attempts requestId = some attempt)
    (own : attempt.task = index) : attempt.outcome = .failed := by
  obtain ⟨placed, there, _, stage⟩ := (accounted.placed made).shown
  rw [own, found] at there
  cases there
  exact stage.failed_of_open isOpen

theorem owner_unique {other : Nat} {task' : DatagramTask}
    (there : state.tasks[other]? = some task')
    (first : state.Owns index task requestId)
    (second : state.Owns other task' requestId) : index = other := by
  rcases first with taken | ⟨attempt, made, own⟩ <;>
    rcases second with taken' | ⟨attempt', made', own'⟩
  · exact accounted.distinct found there taken taken'
  · have free := ((accounted.fits found).number taken).2
    cases free.symm.trans made'
  · have free := ((accounted.fits there).number taken').2
    cases free.symm.trans made
  · cases made.symm.trans made'
    exact own.symm.trans own'

theorem of_owns {attempt : Attempt} (owned : state.Owns index task requestId)
    (made : state.attempts requestId = some attempt) :
    attempt.task = index ∧ attempt.origin = task.origin := by
  have own : attempt.task = index := by
    rcases owned with taken | ⟨attempt', made', own⟩
    · cases ((accounted.fits found).number taken).2.symm.trans made
    · cases made'.symm.trans made
      exact own
  obtain ⟨_, _, shown, there, same, _⟩ := accounted.placed made
  rw [own, found] at there
  cases there
  exact ⟨own, same.symm⟩

end

/-- Steps that concern no task. -/
theorem mono (tasks : later.tasks = state.tasks)
    (attempts : later.attempts = state.attempts)
    (counted : state.edge.nextRequestId ≤ later.edge.nextRequestId)
    (loops : ∀ {name connection}, state.loops name = some connection →
      later.loops name = some connection) : later.Accounted where
  fits found := by
    rw [tasks] at found
    exact (accounted.fits found).mono counted loops fun requestId _ =>
      congrFun attempts requestId
  distinct first second := by
    rw [tasks] at first second
    exact accounted.distinct first second
  placed {requestId attempt} made := by
    rw [attempts] at made
    exact (accounted.placed made).mono counted loops (by rw [tasks])
  alone first second := by
    rw [attempts] at first second
    exact accounted.alone first second

/-- A step of one task, which concerns its own request ids only. -/
theorem replace (later : DatagramState)
    (found : state.tasks[index]? = some task) {new : DatagramTask}
    (tasks : later.tasks = state.tasks.set index new)
    (counted : state.edge.nextRequestId ≤ later.edge.nextRequestId)
    (loops : later.loops = state.loops)
    (origin : new.origin = task.origin)
    (attempts : ∀ requestId, ¬ state.Owns index task requestId →
      later.attempts requestId = state.attempts requestId)
    (own : ∀ {requestId attempt}, state.Owns index task requestId →
      later.attempts requestId = some attempt →
        attempt.task = index ∧ attempt.origin = task.origin ∧
          requestId < later.edge.nextRequestId ∧
          attempt.target.Known later.loops ∧
          attempt.At requestId new.phase)
    (single : ∀ {requestId other attempt attempt'},
      later.attempts requestId = some attempt →
        later.attempts other = some attempt' → attempt.task = index →
          attempt'.task = index → attempt.outcome ≠ .failed →
            attempt'.outcome ≠ .failed → requestId = other)
    (fits : later.Fits index new)
    (fresh : ∀ {requestId}, new.number = some requestId →
      ∀ {other task'}, state.tasks[other]? = some task' →
        other ≠ index → task'.number ≠ some requestId) :
    later.Accounted where
  fits {other task'} there := by
    rw [tasks] at there
    rcases Tasks.getElem?_set_cases there with ⟨rfl, rfl⟩ | ⟨different, before⟩
    · exact fits
    · apply (accounted.fits before).mono counted
      · rw [loops]
        exact id
      · intro requestId owned
        apply attempts
        intro mine
        exact different (accounted.owner_unique before found owned mine)
  distinct {first second task' task'' requestId} there there' taken taken' := by
    rw [tasks] at there there'
    rcases Tasks.getElem?_set_cases there with ⟨rfl, rfl⟩ | ⟨other, before⟩ <;>
      rcases Tasks.getElem?_set_cases there' with
        ⟨rfl, rfl⟩ | ⟨other', before'⟩
    · rfl
    · exact absurd taken' (fresh taken before' other')
    · exact absurd taken (fresh taken' before other)
    · exact accounted.distinct before before' taken taken'
  placed {requestId attempt} made := by
    by_cases mine : state.Owns index task requestId
    · obtain ⟨rfl, same, below, known, stage⟩ := own mine made
      refine ⟨below, known, new, ?_, origin.trans same.symm, stage⟩
      rw [tasks, Tasks.getElem?_set_found found]
    · rw [attempts requestId mine] at made
      have different : attempt.task ≠ index :=
        fun own => mine (.inr ⟨attempt, made, own⟩)
      apply (accounted.placed made).mono counted
      · rw [loops]
        exact id
      · rw [tasks, List.getElem?_set_ne different.symm]
  alone {requestId other attempt attempt'} made made' same kept kept' := by
    have before : ∀ {requestId attempt}, attempt.task ≠ index →
        later.attempts requestId = some attempt →
          state.attempts requestId = some attempt := by
      intro requestId attempt different made
      rw [← attempts requestId, made]
      intro mine
      exact different (own mine made).1
    by_cases here : attempt.task = index
    · exact single made made' here (same ▸ here) kept kept'
    · exact accounted.alone (before here made)
        (before (same ▸ here) made') same kept kept'

theorem setPhase (found : state.tasks[index]? = some task)
    (isOpen : task.phase.Open)
    (fits : (state.setPhase index task phase).Fits index { task with phase })
    (fresh : ∀ {requestId},
      DatagramTask.number { task with phase } = some requestId →
        ∀ {other task'}, state.tasks[other]? = some task' →
          other ≠ index → task'.number ≠ some requestId) :
    (state.setPhase index task phase).Accounted := by
  have failed : ∀ {requestId attempt},
      state.attempts requestId = some attempt → attempt.task = index →
        attempt.outcome = .failed := fun made own =>
    accounted.failed_of_open found isOpen made own
  apply accounted.replace (state.setPhase index task phase) found rfl
    (Nat.le_refl _) rfl rfl (fun _ _ => rfl) ?_ ?_ fits fresh
  · intro requestId attempt mine made
    obtain ⟨own, same⟩ := accounted.of_owns found mine made
    have placed := accounted.placed made
    exact ⟨own, same, placed.counted, placed.known,
      Attempt.at_of_failed (failed made own)⟩
  · intro requestId other attempt attempt' made _ own _ kept
    exact absurd (failed made own) kept

variable {target : DatagramTarget}

/-- A step that records the outcome of an attempt. -/
theorem settle (found : state.tasks[index]? = some task)
    {outcome : AttemptOutcome} (mine : state.Owns index task requestId)
    (below : requestId < state.edge.nextRequestId)
    (known : target.Known state.loops)
    (others : ∀ {other attempt}, other ≠ requestId →
      state.attempts other = some attempt → attempt.task = index →
      attempt.outcome = .failed)
    (stage : Attempt.At
      { task := index, origin := task.origin, target, outcome } requestId phase)
    (fits : (state.settle index task target requestId outcome phase).Fits
      index { task with phase })
    (unnumbered : DatagramTask.number { task with phase } = none) :
    (state.settle index task target requestId outcome phase).Accounted := by
  let settled := state.settle index task target requestId outcome phase
  have elsewhere : ∀ {other}, other ≠ requestId →
      settled.attempts other = state.attempts other :=
    fun different => Function.update_of_ne different _ _
  have here : settled.attempts requestId =
      some { task := index, origin := task.origin, target, outcome } :=
    Function.update_self ..
  apply accounted.replace settled found rfl
    (Nat.le_refl _) rfl rfl ?_ ?_ ?_ fits ?_
  · intro other foreign
    apply elsewhere
    rintro rfl
    exact foreign mine
  · intro other attempt owned made
    rcases eq_or_ne other requestId with rfl | different
    · cases here.symm.trans made
      exact ⟨rfl, rfl, below, known, stage⟩
    · have before := (elsewhere different).symm.trans made
      obtain ⟨own, same⟩ := accounted.of_owns found owned before
      have placed := accounted.placed before
      exact ⟨own, same, placed.counted, placed.known,
        Attempt.at_of_failed (others different before own)⟩
  · intro first second attempt attempt' made made' own own' kept kept'
    have only : ∀ {other attempt}, settled.attempts other = some attempt →
        attempt.task = index → attempt.outcome ≠ .failed →
          other = requestId := by
      intro other attempt made own kept
      by_contra different
      rw [elsewhere different] at made
      exact kept (others different made own)
    exact (only made own kept).trans (only made' own' kept').symm
  · intro other taken
    rw [unnumbered] at taken
    cases taken

theorem spawn
    (fresh : (∃ connector, task.phase = .deliver connector ∧
      state.loops connector.udpReplyMap = some connector.connection) ∨
      ∃ routes, task.phase = .forward routes) :
    (state.spawn task).Accounted := by
  have unnumbered : task.number = none := by
    unfold DatagramTask.number
    rcases fresh with ⟨connector, phase, _⟩ | ⟨routes, phase⟩ <;> rw [phase]
  have fits : (state.spawn task).Fits state.tasks.length task := by
    unfold Fits
    rcases fresh with ⟨connector, phase, known⟩ | ⟨routes, phase⟩ <;>
      rw [phase]
    · exact known
    · trivial
  constructor
  · intro index task' there
    rcases Tasks.getElem?_concat_cases there with ⟨rfl, rfl⟩ | before
    · exact fits
    · exact (accounted.fits before).mono (Nat.le_refl _) id fun _ _ => rfl
  · intro index other task' task'' requestId there there' taken taken'
    rcases Tasks.getElem?_concat_cases there with ⟨rfl, rfl⟩ | before
    · cases unnumbered.symm.trans taken
    · rcases Tasks.getElem?_concat_cases there' with ⟨rfl, rfl⟩ | before'
      · cases unnumbered.symm.trans taken'
      · exact accounted.distinct before before' taken taken'
  · intro requestId attempt made
    obtain ⟨below, known, task', there, origin, stage⟩ := accounted.placed made
    have inside := (List.getElem?_eq_some_iff.mp there).1
    refine ⟨below, known, task', ?_, origin, stage⟩
    exact (List.getElem?_append_left inside).trans there
  · exact accounted.alone

section

variable (found : state.tasks[index]? = some task)
include found

theorem number {rest : List RemoteRoute}
    (offers : task.phase.Offers target rest) :
    (state.number index task target rest).Accounted := by
  have counted : DatagramState.Accounted
      { state with edge := state.edge.countRequest } :=
    accounted.mono rfl rfl (Nat.le_succ _) id
  have known : target.Known state.loops := by
    have fits := accounted.fits found
    unfold Fits at fits
    rcases offers.cases with
      ⟨connector, phase, rfl⟩ | ⟨route, connection, phase, rfl⟩
    · rwa [phase] at fits
    · trivial
  have free : state.attempts state.edge.nextRequestId = none := by
    by_contra taken
    obtain ⟨attempt, made⟩ := Option.ne_none_iff_exists'.mp taken
    exact Nat.lt_irrefl _ (accounted.placed made).counted
  apply counted.setPhase found offers.isOpen
  · exact ⟨known, Nat.lt_succ_self _, free⟩
  · intro requestId taken other task' there _ same
    obtain rfl : state.edge.nextRequestId = requestId := Option.some.inj taken
    exact Nat.lt_irrefl _ ((accounted.fits there).number same).1

theorem advance {middle : DatagramState} (quiet : Quiet state middle)
    (advances : task.phase.Advance phase) :
    (middle.setPhase index task phase).Accounted := by
  have accounted :=
    accounted.mono quiet.tasks quiet.attempts quiet.counted quiet.loops
  rw [← quiet.tasks] at found
  obtain ⟨before, after⟩ := advances.isOpen
  apply accounted.setPhase found before
  · rcases after with rfl | ⟨routes, rfl⟩ <;> trivial
  · intro requestId taken
    rcases after with rfl | ⟨routes, rfl⟩ <;> cases taken

theorem insert {rest : List RemoteRoute}
    (numbered : task.phase = .numbered target rest requestId)
    (table : UdpReplyTable) :
    ((state.setTable target.table table).settle index task target requestId
      .underway (.pending target rest requestId)).Accounted := by
  have stored : (state.setTable target.table table).Accounted :=
    accounted.mono rfl rfl (by simp [setTable]) id
  have fits := accounted.fits found
  have taken : task.number = some requestId := by
    simp [DatagramTask.number, numbered]
  unfold Fits at fits
  rw [numbered] at fits
  apply stored.settle found (.inl taken)
    (by simpa [setTable] using fits.2.1) fits.1
  · intro other attempt _ made own
    exact accounted.failed_of_open found (by rw [numbered]; trivial) made own
  · exact ⟨rest, rfl⟩
  · exact Function.update_self ..
  · rfl

end

section Pending

variable {target : DatagramTarget} {rest : List RemoteRoute}
variable {requestId : Nat} (found : state.tasks[index]? = some task)
variable (pending : task.phase = .pending target rest requestId)
include found pending

/-- The attempt of a task that is about to send. -/
theorem underway : state.attempts requestId =
      some { task := index, origin := task.origin, target
             outcome := .underway } := by
  have fits := accounted.fits found
  unfold Fits at fits
  rwa [pending] at fits

theorem conclude {outcome : AttemptOutcome}
    (stage : Attempt.At
      { task := index, origin := task.origin, target, outcome } requestId phase)
    (fits : (state.settle index task target requestId outcome phase).Fits
      index { task with phase })
    (unnumbered : DatagramTask.number { task with phase } = none) :
    (state.settle index task target requestId outcome phase).Accounted := by
  have made := accounted.underway found pending
  have placed := accounted.placed made
  apply accounted.settle found (.inr ⟨_, made, rfl⟩) placed.counted
    placed.known ?_ stage fits unnumbered
  intro other attempt different made' own
  by_contra kept
  exact different (accounted.alone made' made own kept (by simp))

end Pending

theorem move (move : Move state later) : later.Accounted := by
  cases move with
  | quiet quiet =>
    exact accounted.mono quiet.tasks quiet.attempts quiet.counted quiet.loops
  | spawn fresh => exact accounted.spawn fresh
  | advance found quiet advances => exact accounted.advance found quiet advances
  | number found offers => exact accounted.number found offers
  | insert found numbered inserted => exact accounted.insert found numbered _
  | hand found pending => exact accounted.conclude found pending rfl trivial rfl
  | fail found pending =>
    exact accounted.conclude found pending trivial trivial rfl
  | reply found client claims =>
    exact accounted.mono rfl rfl (by simp [setTable]) id

end Accounted

end DatagramState

end Mesh

end SieveTube
