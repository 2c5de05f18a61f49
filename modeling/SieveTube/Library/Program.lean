import Mathlib.Logic.Function.Basic
import Mathlib.Logic.Relation
import SieveTube.Library.Run

/-!
# Programs that share a world

A program is a tree of calls whose answers come from a world it shares with
its environment and with other programs.  `Sat` is the judgement of one
program under interference: whatever the others do between two of its calls,
as long as they keep to what it relies on, each call keeps the invariant and
what the program guarantees, and the program ends in the given condition.
`Discipline.sound` composes the judgements of all threads of a machine over
every schedule, with threads that may be stopped between any two calls.
-/

inductive Program (Op : Type) (Answer : Op → Type) (Value : Type) where
  | done (value : Value)
  | call (op : Op) (next : Answer op → Program Op Answer Value)

namespace Program

variable {Op : Type} {Answer : Op → Type} {Value Other : Type}

def bind :
    Program Op Answer Value → (Value → Program Op Answer Other) →
      Program Op Answer Other
  | .done value, next => next value
  | .call op rest, next => .call op fun answer => (rest answer).bind next

instance : Monad (Program Op Answer) where
  pure := .done
  bind := bind

instance : LawfulMonad (Program Op Answer) := by
  refine LawfulMonad.mk' _ ?_ (fun _ _ => rfl) ?_
  · intro Value program
    induction program with
    | done value => rfl
    | call op next ih => exact congrArg (Program.call op) (funext ih)
  · intro Value Other Last program first second
    induction program with
    | done value => rfl
    | call op next ih => exact congrArg (Program.call op) (funext ih)

/-- The program of a single call. -/
def ask (op : Op) : Program Op Answer (Answer op) := .call op .done

/-- The same program among more operations. -/
def embed {Wider : Type} {Reply : Wider → Type} (inject : Op → Wider)
    (read : ∀ op, Reply (inject op) → Answer op) :
    Program Op Answer Value → Program Wider Reply Value
  | .done value => .done value
  | .call op next => .call (inject op) fun reply =>
    (next (read op reply)).embed inject read

@[simp]
theorem pure_eq_done (value : Value) :
    (pure value : Program Op Answer Value) = .done value := rfl

@[simp]
theorem done_bind (value : Value) (next : Value → Program Op Answer Other) :
    ((Program.done value : Program Op Answer Value) >>= next) = next value :=
  rfl

@[simp]
theorem ask_bind (op : Op) (next : Answer op → Program Op Answer Other) :
    ((ask op : Program Op Answer (Answer op)) >>= next) = .call op next :=
  rfl

end Program

/-- How a thread sees the world: what its calls do under each fate, which
fates can occur, and what it relies on and guarantees. -/
structure View (Op : Type) (Answer : Op → Type) (Fate World : Type) where
  perform : (op : Op) → Fate → World → Answer op × World
  Allowed : Fate → Prop
  Invariant : World → Prop
  Rely : World → World → Prop
  Guarantee : World → World → Prop
  rely_refl : ∀ world, Rely world world
  rely_trans : ∀ {first second third}, Rely first second → Rely second third →
    Rely first third

namespace View

variable {Op : Type} {Answer : Op → Type} {Fate World : Type}

/-- An assertion that the others cannot break. -/
def Stable (view : View Op Answer Fate World) (Holds : World → Prop) : Prop :=
  ∀ world later, Holds world → view.Rely world later → view.Invariant later →
    Holds later

theorem stable_of_steps {view : View Op Answer Fate World}
    {Step : World → World → Prop} {Holds : World → Prop}
    (rely : ∀ world later, view.Rely world later →
      Relation.ReflTransGen Step world later)
    (kept : ∀ world later, Step world later → Holds world → Holds later) :
    view.Stable Holds := by
  intro world later holds relied _
  have general : ∀ final, Relation.ReflTransGen Step world final →
      Holds final := by
    intro final steps
    induction steps with
    | refl => exact holds
    | tail _ step ih => exact kept _ _ step ih
  exact general later (rely world later relied)

/-- The view of a program that nothing interferes with. -/
def alone (perform : (op : Op) → Fate → World → Answer op × World) :
    View Op Answer Fate World :=
  { perform
    Allowed := fun _ => True
    Invariant := fun _ => True
    Rely := Eq
    Guarantee := fun _ _ => True
    rely_refl := fun _ => rfl
    rely_trans := Eq.trans }

/-- What one call does when it is made where `Before` holds. -/
def Triple (view : View Op Answer Fate World) (Before : World → Prop)
    (op : Op) (After : Answer op → World → Prop) : Prop :=
  ∀ world fate, view.Allowed fate → view.Invariant world → Before world →
    view.Invariant (view.perform op fate world).2 ∧
      view.Guarantee world (view.perform op fate world).2 ∧
      After (view.perform op fate world).1 (view.perform op fate world).2

/-- A view of a part of the world, with the operations on it found among
those of the whole. -/
structure PartOf {Wider Choice Whole : Type} {Reply : Wider → Type}
    (view : View Op Answer Fate World) (whole : View Wider Reply Choice Whole)
    (inject : Op → Wider) (read : ∀ op, Reply (inject op) → Answer op) where
  project : Whole → World
  choose : Choice → Fate
  allowed : ∀ {choice}, whole.Allowed choice → view.Allowed (choose choice)
  answered : ∀ op choice total,
    read op (whole.perform (inject op) choice total).1 =
      (view.perform op (choose choice) (project total)).1
  changed : ∀ op choice total,
    project (whole.perform (inject op) choice total).2 =
      (view.perform op (choose choice) (project total)).2
  rely : ∀ {total later}, whole.Rely total later →
    view.Rely (project total) (project later)
  invariant : ∀ {total}, whole.Invariant total → view.Invariant (project total)
  kept : ∀ op choice {total}, whole.Invariant total →
    view.Invariant (project (whole.perform (inject op) choice total).2) →
    view.Guarantee (project total)
      (project (whole.perform (inject op) choice total).2) →
    whole.Invariant (whole.perform (inject op) choice total).2 ∧
      whole.Guarantee total (whole.perform (inject op) choice total).2

end View

namespace Program

variable {Op : Type} {Answer : Op → Type} {Fate World : Type}
variable {Value Other : Type}

/-- The judgement of a program in a world. -/
def Sat (view : View Op Answer Fate World) (After : Value → World → Prop) :
    Program Op Answer Value → World → Prop
  | .done value, world =>
    ∀ later, view.Rely world later → view.Invariant later → After value later
  | .call op next, world => ∀ later, view.Rely world later →
      view.Invariant later → ∀ fate, view.Allowed fate →
        view.Invariant (view.perform op fate later).2 ∧
        view.Guarantee later (view.perform op fate later).2 ∧
        Sat view After (next (view.perform op fate later).1)
          (view.perform op fate later).2

/-- The result of a program that nothing interferes with. -/
def run (perform : (op : Op) → Fate → World → Answer op × World) :
    Program Op Answer Value → (Nat → Fate) → World → Value × World
  | .done value, _, world => (value, world)
  | .call op next, fates, world =>
    run perform (next (perform op (fates 0) world).1)
      (fun index => fates (index + 1)) (perform op (fates 0) world).2

/-- The world after a program was cut off after a number of calls. -/
def cutOff (perform : (op : Op) → Fate → World → Answer op × World) :
    Program Op Answer Value → (Nat → Fate) → Nat → World → World
  | .done _, _, _, world => world
  | .call _ _, _, 0, world => world
  | .call op next, fates, calls + 1, world =>
    cutOff perform (next (perform op (fates 0) world).1)
      (fun index => fates (index + 1)) calls (perform op (fates 0) world).2

/-- A program that runs to its end, with events of the environment between
its calls. -/
inductive Completes {Event : Type} (view : View Op Answer Fate World)
    (disturb : Event → World → World) :
    Program Op Answer Value → World → Value → World → Prop where
  | done (value : Value) (world : World) : Completes view disturb
      (.done value) world value world
  | disturbed {program : Program Op Answer Value} {world final : World}
      {value : Value} (event : Event)
      (rest : Completes view disturb program
        (disturb event world) value final) :
      Completes view disturb program world value final
  | call {world final : World} {value : Value} (op : Op)
      (next : Answer op → Program Op Answer Value)
      (fate : Fate) (allowed : view.Allowed fate)
      (rest : Completes view disturb (next (view.perform op fate world).1)
        (view.perform op fate world).2 value final) :
      Completes view disturb (.call op next) world value final

variable {view : View Op Answer Fate World} {After : Value → World → Prop}

/-- Every program can run to its end. -/
theorem exists_completes {Event : Type} (disturb : Event → World → World)
    {fate : Fate} (allowed : view.Allowed fate)
    (program : Program Op Answer Value) (world : World) :
    ∃ value final, Completes view disturb program world value final := by
  induction program generalizing world with
  | done value => exact ⟨value, world, .done value world⟩
  | call op next ih =>
    obtain ⟨value, final, rest⟩ := ih (view.perform op fate world).1
        (view.perform op fate world).2
    exact ⟨value, final, .call op next fate allowed rest⟩

variable {program : Program Op Answer Value} {world : World}

/-- It is enough to judge a program where the others have left the world. -/
theorem sat_of_rely
    (judged : ∀ later, view.Rely world later → view.Invariant later →
      program.Sat view After later) :
    program.Sat view After world := by
  cases program with
  | done value | call op next =>
    intro later relied holds
    exact judged later relied holds later (view.rely_refl later) holds

theorem Sat.stable (sat : program.Sat view After world) {later : World}
    (relied : view.Rely world later) : program.Sat view After later := by
  cases program with
  | done value | call op next =>
    intro final reliedLater holds
    exact sat final (view.rely_trans relied reliedLater) holds

theorem Sat.mono {Weaker : Value → World → Prop}
    (weaker : ∀ value world, view.Invariant world → After value world →
      Weaker value world)
    (sat : program.Sat view After world) :
    program.Sat view Weaker world := by
  induction program generalizing world with
  | done value =>
    intro later relied holds
    exact weaker value later holds (sat later relied holds)
  | call op next ih =>
    intro later relied holds fate allowed
    obtain ⟨kept, guaranteed, rest⟩ := sat later relied holds fate allowed
    exact ⟨kept, guaranteed, ih _ rest⟩

/-- What neither the others nor the program can break is kept. -/
theorem Sat.frame {Holds : World → Prop} (stable : view.Stable Holds)
    (guaranteed : ∀ world later, Holds world → view.Guarantee world later →
      Holds later)
    (holds : Holds world) (sat : program.Sat view After world) :
    program.Sat view (fun value world => After value world ∧ Holds world)
      world := by
  induction program generalizing world with
  | done value =>
    intro later relied kept
    exact ⟨sat later relied kept, stable world later holds relied kept⟩
  | call op next ih =>
    intro later relied kept fate allowed
    obtain ⟨keptLater, guarantee, rest⟩ := sat later relied kept fate allowed
    exact ⟨keptLater, guarantee, ih _
      (guaranteed _ _ (stable world later holds relied kept) guarantee)
      rest⟩

theorem sat_bind {next : Value → Program Op Answer Other}
    {Final : Other → World → Prop}
    (first : program.Sat view
      (fun value world => (next value).Sat view Final world) world) :
    (program >>= next).Sat view Final world := by
  induction program generalizing world with
  | done value => exact sat_of_rely first
  | call op rest ih =>
    intro later relied holds fate allowed
    obtain ⟨kept, guaranteed, remaining⟩ :=
      first later relied holds fate allowed
    exact ⟨kept, guaranteed, ih _ remaining⟩

/-- A program is judged in the part of the world it works on. -/
theorem Sat.embed {Wider Choice Whole : Type} {Reply : Wider → Type}
    {whole : View Wider Reply Choice Whole} {inject : Op → Wider}
    {read : ∀ op, Reply (inject op) → Answer op}
    (part : view.PartOf whole inject read) {total : Whole}
    (sat : program.Sat view After (part.project total)) :
    (program.embed inject read).Sat whole
      (fun value later => After value (part.project later)) total := by
  induction program generalizing total with
  | done value =>
    intro later relied holds
    exact sat (part.project later) (part.rely relied) (part.invariant holds)
  | call op next ih =>
    intro later relied holds choice allowed
    obtain ⟨kept, guaranteed, rest⟩ := sat (part.project later)
      (part.rely relied) (part.invariant holds) (part.choose choice)
      (part.allowed allowed)
    rw [← part.changed] at kept guaranteed rest
    rw [← part.answered] at rest
    obtain ⟨wholeKept, wholeGuaranteed⟩ :=
      part.kept op choice holds kept guaranteed
    exact ⟨wholeKept, wholeGuaranteed, ih _ rest⟩

theorem sat_done {value : Value} {Before : World → Prop}
    (stable : view.Stable Before) (before : Before world)
    (after : ∀ later, Before later → After value later) :
    (Program.done value : Program Op Answer Value).Sat view After world := by
  intro later relied holds
  exact after later (stable world later before relied holds)

/-- The rule for a program that starts with a single call. -/
theorem sat_ask {op : Op} {next : Answer op → Program Op Answer Value}
    {Before : World → Prop} {Between : Answer op → World → Prop}
    (stable : view.Stable Before) (triple : view.Triple Before op Between)
    (before : Before world)
    (rest : ∀ answer later, Between answer later →
      (next answer).Sat view After later) :
    ((ask op : Program Op Answer (Answer op)) >>= next).Sat view After
      world := by
  intro later relied holds fate allowed
  obtain ⟨kept, guaranteed, between⟩ := triple later fate allowed holds
    (stable world later before relied holds)
  exact ⟨kept, guaranteed, rest _ _ between⟩

/-- The rule for a step that may fail. -/
theorem sat_bind_except {Error : Type}
    {first : ExceptT Error (Program Op Answer) Value}
    {next : Value → ExceptT Error (Program Op Answer) Other}
    {Final : Except Error Other → World → Prop}
    (judged : Program.Sat view (fun result world =>
      match result with
      | .ok value => Program.Sat view Final (next value) world
      | .error error => Program.Sat view Final (.done (.error error)) world)
      first world) :
    Program.Sat view Final (first >>=
      next : ExceptT Error (Program Op Answer) Other) world := by
  refine sat_bind (Sat.mono ?_ judged)
  intro result later _ kept
  cases result <;> exact kept

theorem liftM_bind {Error : Type} (first : Program Op Answer Value)
    (next : Value → ExceptT Error (Program Op Answer) Other) :
    (liftM first >>= next : ExceptT Error (Program Op Answer) Other) =
      (first >>= next : Program Op Answer (Except Error Other)) := by
  show ((Except.ok <$> first) >>= ExceptT.bindCont next :
    Program Op Answer (Except Error Other)) = _
  rw [bind_map_left]
  rfl

/-- The rule for a step that cannot fail among steps that may. -/
theorem sat_bind_lift {Error : Type} {first : Program Op Answer Value}
    {next : Value → ExceptT Error (Program Op Answer) Other}
    {Final : Except Error Other → World → Prop}
    (judged : first.Sat view (fun value world =>
      Program.Sat view Final (next value) world) world) :
    Program.Sat view Final (liftM first >>=
      next : ExceptT Error (Program Op Answer) Other)
      world := by
  rw [liftM_bind]
  exact sat_bind judged

section Alone

variable {perform : (op : Op) → Fate → World → Answer op × World}

theorem sat_alone_done {value : Value} (after : After value world) :
    (Program.done value : Program Op Answer Value).Sat (.alone perform) After
      world := by
  intro later relied _
  exact (show world = later from relied) ▸ after

theorem sat_alone_ask {op : Op} {next : Answer op → Program Op Answer Value}
    (rest : ∀ fate, (next (perform op fate world).1).Sat (.alone perform)
      After (perform op fate world).2) :
    ((ask op : Program Op Answer (Answer op)) >>= next).Sat (.alone perform)
      After world := by
  intro later relied _ fate _
  obtain rfl : world = later := relied
  exact ⟨trivial, trivial, rest fate⟩

end Alone

variable {fates : Nat → Fate}

section

variable (allowed : ∀ index, view.Allowed (fates index))
include allowed

theorem Sat.run (holds : view.Invariant world)
    (sat : program.Sat view After world) :
    view.Invariant (program.run view.perform fates world).2 ∧
      After (program.run view.perform fates world).1
        (program.run view.perform fates world).2 := by
  induction program generalizing world fates with
  | done value => exact ⟨holds, sat world (view.rely_refl world) holds⟩
  | call op next ih =>
    obtain ⟨kept, _, rest⟩ :=
      sat world (view.rely_refl world) holds (fates 0) (allowed 0)
    exact ih _ (fun index => allowed (index + 1)) kept rest

/-- The invariant holds wherever a judged program is cut off. -/
theorem Sat.cutOff (holds : view.Invariant world)
    (sat : program.Sat view After world) (calls : Nat) :
    view.Invariant (program.cutOff view.perform fates calls world) := by
  induction program generalizing world fates calls with
  | done value => exact holds
  | call op next ih =>
    cases calls with
    | zero => exact holds
    | succ calls =>
      obtain ⟨kept, _, rest⟩ :=
        sat world (view.rely_refl world) holds (fates 0) (allowed 0)
      exact ih _ (fun index => allowed (index + 1)) kept rest calls

end

@[simp]
theorem cutOff_zero (perform : (op : Op) → Fate → World → Answer op × World)
    (program : Program Op Answer Value) (fates : Nat → Fate)
    (world : World) :
    program.cutOff perform fates 0 world = world := by
  cases program <;> rfl

/-- A program can be cut off anywhere after its first part. -/
theorem exists_cutOff_bind
    (perform : (op : Op) → Fate → World → Answer op × World) (fate : Fate)
    (program : Program Op Answer Value)
    (next : Value → Program Op Answer Other) (world : World) :
    ∃ count, ∀ calls,
      (program >>= next).cutOff perform (fun _ => fate) (count + calls) world =
        (next (program.run perform (fun _ => fate) world).1).cutOff perform
          (fun _ => fate) calls
          (program.run perform (fun _ => fate) world).2 := by
  induction program generalizing world with
  | done value => exact ⟨0, fun calls => by rw [Nat.zero_add]; rfl⟩
  | call op rest ih =>
    obtain ⟨count, reached⟩ :=
      ih (perform op fate world).1 (perform op fate world).2
    refine ⟨count + 1, fun calls => ?_⟩
    rw [Nat.add_right_comm]
    exact reached calls

/-- A judged program that runs to its end meets its condition. -/
theorem Completes.after {Event : Type} {disturb : Event → World → World}
    {value : Value} {final : World}
    (disturbed : ∀ event world, view.Invariant world →
      view.Invariant (disturb event world) ∧
        view.Rely world (disturb event world))
    (completes : Completes view disturb program world value final)
    (holds : view.Invariant world) (sat : program.Sat view After world) :
    view.Invariant final ∧ After value final := by
  induction completes with
  | done value world => exact ⟨holds, sat world (view.rely_refl world) holds⟩
  | disturbed event rest ih =>
    obtain ⟨kept, relied⟩ := disturbed event _ holds
    exact ih kept (sat.stable relied)
  | call op next fate allowed rest ih =>
    obtain ⟨kept, _, remaining⟩ := sat _ (view.rely_refl _) holds fate allowed
    exact ih kept remaining

end Program

/-- Threads over one world.  Each thread that does not run can be started on
a task, and one that runs can be stopped before any of its calls. -/
structure Machine (Thread Task Event Op : Type) (Answer : Op → Type)
    (Fate Value World : Type) where
  perform : Thread → (op : Op) → Fate → World → Answer op × World
  disturb : Event → World → World
  program : Thread → Task → Program Op Answer Value
  finish : Thread → World → World
  crash : Thread → World → World

namespace Machine

variable {Thread Task Event Op : Type} {Answer : Op → Type}
variable {Fate Value World : Type}

structure Config (Thread Op : Type) (Answer : Op → Type)
    (Value World : Type) where
  world : World
  running : Thread → Option (Program Op Answer Value)

inductive Label (Thread Task Event Fate : Type) where
  | disturb (event : Event)
  | start (thread : Thread) (task : Task)
  | call (thread : Thread) (fate : Fate)
  | crash (thread : Thread)

/-- Whatever a thread runs is judged. -/
def Judged (view : View Op Answer Fate World) (After : Value → World → Prop)
    (thread : Thread) (config : Config Thread Op Answer Value World) : Prop :=
  ∀ program, config.running thread = some program →
    program.Sat view After config.world

variable {view : View Op Answer Fate World} {thread : Thread}

theorem Judged.of_rely {After : Value → World → Prop}
    {config later : Config Thread Op Answer Value World}
    (judged : Judged view After thread config)
    (same : later.running thread = config.running thread)
    (relied : view.Rely config.world later.world) :
    Judged view After thread later := by
  intro program running
  rw [same] at running
  exact (judged program running).stable relied

variable [DecidableEq Thread]

/-- One step of the machine.  A label whose thread is not in the state it
needs changes nothing. -/
def step (machine : Machine Thread Task Event Op Answer Fate Value World)
    (config : Config Thread Op Answer Value World) :
    Label Thread Task Event Fate → Config Thread Op Answer Value World
  | .disturb event =>
    { config with world := machine.disturb event config.world }
  | .start thread task =>
    match config.running thread with
    | some _ => config
    | none =>
      { config with
        running := Function.update config.running thread
          (some (machine.program thread task)) }
  | .call thread fate =>
    match config.running thread with
    | none => config
    | some (.done _) =>
      { world := machine.finish thread config.world
        running := Function.update config.running thread none }
    | some (.call op next) =>
      let answered := machine.perform thread op fate config.world
      { world := answered.2
        running := Function.update config.running thread
          (some (next answered.1)) }
  | .crash thread =>
    match config.running thread with
    | none => config
    | some _ =>
      { world := machine.crash thread config.world
        running := Function.update config.running thread none }

/-- A program that completes is a run of its thread. -/
theorem exists_run_of_completes {Other : Type}
    {machine : Machine Thread Task Event Op Answer Fate Value World}
    {disturb : Other → World → World} {program : Program Op Answer Value}
    {world final : World} {value : Value}
    (perform : view.perform = machine.perform thread)
    (events : ∀ event, ∃ label, machine.disturb label = disturb event)
    (last : Fate)
    (completes : Program.Completes view disturb program world value final)
    (running : Thread → Option (Program Op Answer Value)) :
    ∃ labels, Run.after machine.step
        { world, running := Function.update running thread (some program) }
        labels =
      { world := machine.finish thread final
        running := Function.update running thread none } := by
  induction completes with
  | done value world => exact ⟨[.call thread last], by simp [Run.after, step]⟩
  | disturbed event rest ih =>
    obtain ⟨label, same⟩ := events event
    obtain ⟨labels, reached⟩ := ih
    refine ⟨.disturb label :: labels, ?_⟩
    simpa [Run.after, step, same] using reached
  | call op next fate allowed rest ih =>
    obtain ⟨labels, reached⟩ := ih
    refine ⟨.call thread fate :: labels, ?_⟩
    simpa [Run.after, step, perform] using reached

/-- A step of one thread leaves what the others run. -/
theorem running_step
    {machine : Machine Thread Task Event Op Answer Fate Value World}
    {config : Config Thread Op Answer Value World}
    {label : Label Thread Task Event Fate}
    (start : ∀ task, label ≠ .start thread task)
    (call : ∀ fate, label ≠ .call thread fate) (crash : label ≠ .crash thread) :
    (machine.step config label).running thread = config.running thread := by
  cases label with
  | disturb event => rfl
  | start other task =>
    have different : thread ≠ other := fun same => start task (same ▸ rfl)
    simp only [step]
    split
    · rfl
    · exact Function.update_of_ne different _ _
  | call other fate =>
    have different : thread ≠ other := fun same => call fate (same ▸ rfl)
    simp only [step]
    split
    · rfl
    · exact Function.update_of_ne different _ _
    · exact Function.update_of_ne different _ _
  | crash other =>
    have different : thread ≠ other := fun same => crash (same ▸ rfl)
    simp only [step]
    split
    · rfl
    · exact Function.update_of_ne different _ _

/-- A thread stays judged along steps of others that it can rely on. -/
theorem judged_step
    {machine : Machine Thread Task Event Op Answer Fate Value World}
    {After : Value → World → Prop}
    (perform : view.perform = machine.perform thread)
    (allowed : ∀ fate, view.Allowed fate)
    (started : ∀ task world, (machine.program thread task).Sat view After world)
    {config : Config Thread Op Answer Value World}
    (holds : view.Invariant config.world)
    (judged : Judged view After thread config)
    (label : Label Thread Task Event Fate)
    (relied : (∀ fate, label ≠ .call thread fate) →
      view.Rely config.world (machine.step config label).world) :
    Judged view After thread (machine.step config label) := by
  by_cases own : ∃ fate, label = .call thread fate
  · obtain ⟨fate, rfl⟩ := own
    simp only [step]
    cases running : config.running thread with
    | none => exact judged
    | some program =>
      have sat := judged program running
      intro later found
      cases program with
      | done value => simp at found
      | call op next =>
        obtain ⟨_, _, rest⟩ :=
          sat config.world (view.rely_refl _) holds fate (allowed fate)
        rw [perform] at rest
        obtain rfl : next (machine.perform thread op fate
            config.world).1 = later := by simpa using found
        exact rest
  · have relied := relied fun fate same => own ⟨fate, same⟩
    by_cases start : ∃ task, label = .start thread task
    · obtain ⟨task, rfl⟩ := start
      simp only [step]
      split
      · exact judged
      · intro later found
        obtain rfl : machine.program thread task = later := by simpa using found
        exact started task config.world
    · by_cases crash : label = .crash thread
      · subst crash
        simp only [step]
        split
        · exact judged
        · intro later found
          simp at found
      · exact judged.of_rely (running_step (fun task same => start ⟨task, same⟩)
          (fun fate same => own ⟨fate, same⟩) crash) relied

end Machine

/-- What each thread of a machine relies on and guarantees, with the proof
that the threads, the environment and every start and stop respect it. -/
structure Discipline {Thread Task Event Op : Type} {Answer : Op → Type}
    {Fate Value World : Type}
    (machine : Machine Thread Task Event Op Answer Fate Value World) where
  Invariant : World → Prop
  Rely : Thread → World → World → Prop
  Guarantee : Thread → World → World → Prop
  Idle : Thread → World → Prop
  After : Thread → Value → World → Prop
  rely_refl : ∀ thread world, Rely thread world world
  rely_trans : ∀ thread {first second third}, Rely thread first second →
    Rely thread second third → Rely thread first third
  idle_stable : ∀ thread {world later}, Idle thread world →
    Rely thread world later → Idle thread later
  guaranteed : ∀ {thread other world later}, thread ≠ other →
    Guarantee other world later → Rely thread world later
  disturbed : ∀ event world, Invariant world →
    Invariant (machine.disturb event world) ∧
      ∀ thread, Rely thread world (machine.disturb event world)
  started : ∀ thread task world, Invariant world → Idle thread world →
    (machine.program thread task).Sat
      { perform := machine.perform thread, Allowed := fun _ => True,
        Invariant, Rely := Rely thread, Guarantee := Guarantee thread,
        rely_refl := rely_refl thread, rely_trans := rely_trans thread }
      (After thread) world
  finished : ∀ thread value world, Invariant world → After thread value world →
    Invariant (machine.finish thread world) ∧
      Idle thread (machine.finish thread world) ∧
      ∀ other, other ≠ thread → Rely other world (machine.finish thread world)
  crashed : ∀ thread world, Invariant world →
    Invariant (machine.crash thread world) ∧
      Idle thread (machine.crash thread world) ∧
      ∀ other, other ≠ thread → Rely other world (machine.crash thread world)

namespace Discipline

variable {Thread Task Event Op : Type} {Answer : Op → Type}
variable {Fate Value World : Type}
variable {machine : Machine Thread Task Event Op Answer Fate Value World}

/-- The view of one thread. -/
def view (discipline : Discipline machine) (thread : Thread) :
    View Op Answer Fate World where
  perform := machine.perform thread
  Allowed := fun _ => True
  Invariant := discipline.Invariant
  Rely := discipline.Rely thread
  Guarantee := discipline.Guarantee thread
  rely_refl := discipline.rely_refl thread
  rely_trans := discipline.rely_trans thread

/-- A thread is idle, or what is left of its program is judged. -/
def Respected (discipline : Discipline machine) (thread : Thread)
    (world : World) : Option (Program Op Answer Value) → Prop
  | none => discipline.Idle thread world
  | some program =>
    program.Sat (discipline.view thread) (discipline.After thread) world

/-- The invariant of a configuration. -/
def Holds (discipline : Discipline machine)
    (config : Machine.Config Thread Op Answer Value World) : Prop :=
  discipline.Invariant config.world ∧ ∀ thread,
    discipline.Respected thread config.world (config.running thread)

variable {discipline : Discipline machine}

theorem respected_of_rely {thread : Thread} {world later : World}
    {program : Option (Program Op Answer Value)}
    (respected : discipline.Respected thread world program)
    (relied : discipline.Rely thread world later) :
    discipline.Respected thread later program := by
  cases program with
  | none => exact discipline.idle_stable thread respected relied
  | some program => exact Program.Sat.stable respected relied

variable [DecidableEq Thread]

variable {config : Machine.Config Thread Op Answer Value World}

/-- A step of one thread is enough for all of them when the others can rely
on it. -/
theorem holds_update (holds : discipline.Holds config) {thread : Thread}
    {world : World} {program : Option (Program Op Answer Value)}
    (kept : discipline.Invariant world)
    (own : discipline.Respected thread world program)
    (others : ∀ other, other ≠ thread →
      discipline.Rely other config.world world) :
    discipline.Holds
      { world, running := Function.update config.running thread program } := by
  refine ⟨kept, ?_⟩
  intro other
  by_cases same : other = thread
  · subst other
    simpa using own
  · simp only [Function.update_of_ne same]
    exact respected_of_rely (holds.2 other) (others other same)

theorem holds_step (holds : discipline.Holds config)
    {label : Machine.Label Thread Task Event Fate} :
    discipline.Holds (machine.step config label) := by
  cases label with
  | disturb event =>
    obtain ⟨kept, relied⟩ := discipline.disturbed event config.world holds.1
    exact ⟨kept, fun thread =>
      respected_of_rely (holds.2 thread) (relied thread)⟩
  | start thread task =>
    have own := holds.2 thread
    simp only [Machine.step]
    cases running : config.running thread with
    | some program => exact holds
    | none =>
      rw [running] at own
      exact holds_update holds holds.1
        (discipline.started thread task config.world holds.1 own)
        (fun other _ => discipline.rely_refl other config.world)
  | call thread fate =>
    have own := holds.2 thread
    simp only [Machine.step]
    cases running : config.running thread with
    | none => exact holds
    | some program =>
      rw [running] at own
      cases program with
      | done value =>
        obtain ⟨kept, idle, relied⟩ :=
          discipline.finished thread value config.world holds.1
            (own config.world
              (discipline.rely_refl thread config.world) holds.1)
        exact holds_update holds kept idle relied
      | call op next =>
        obtain ⟨kept, guaranteed, rest⟩ :=
          own config.world (discipline.rely_refl thread config.world) holds.1
            fate trivial
        exact holds_update holds kept rest
          (fun other different => discipline.guaranteed different guaranteed)
  | crash thread =>
    simp only [Machine.step]
    cases running : config.running thread with
    | none => exact holds
    | some program =>
      obtain ⟨kept, idle, relied⟩ :=
        discipline.crashed thread config.world holds.1
      exact holds_update holds kept idle relied

/-- Under every schedule the invariant holds and every thread stays
judged. -/
theorem sound (holds : discipline.Holds config)
    (labels : List (Machine.Label Thread Task Event Fate)) :
    discipline.Holds (Run.after machine.step config labels) := by
  apply Run.invariant holds
  intro state label kept
  exact holds_step kept

end Discipline
