import SieveTube.Library.Program

/-!
# The operations a program issues

`Issues` is the judgement of a program in no particular world: whatever
answers of the given kind it gets, every operation it issues is permitted.
It says nothing of what an operation does, so a program that is cut off
anywhere is covered as well.
-/

namespace Program

variable {Op : Type} {Answer : Op → Type} {Value Other : Type}

/-- Whatever lawful answers it gets, a program issues only permitted
operations, and it ends with a value that satisfies `After`. -/
def Issues (Lawful : ∀ op, Answer op → Prop) (Permitted : Op → Prop)
    (After : Value → Prop) : Program Op Answer Value → Prop
  | .done value => After value
  | .call op next => Permitted op ∧ ∀ answer, Lawful op answer →
      Issues Lawful Permitted After (next answer)

/-- Some lawful answers make a program issue the operation. -/
inductive CanIssue (Lawful : ∀ op, Answer op → Prop) (issued : Op) :
    Program Op Answer Value → Prop where
  | now (next : Answer issued → Program Op Answer Value) :
      CanIssue Lawful issued (.call issued next)
  | later (op : Op) (next : Answer op → Program Op Answer Value)
      (answer : Answer op) (lawful : Lawful op answer)
      (rest : CanIssue Lawful issued (next answer)) :
      CanIssue Lawful issued (.call op next)

variable {Lawful : ∀ op, Answer op → Prop} {Permitted : Op → Prop}
variable {After : Value → Prop} {program : Program Op Answer Value}

/-- What a program can issue is permitted. -/
theorem Issues.permitted (issues : program.Issues Lawful Permitted After)
    {op : Op} (issued : program.CanIssue Lawful op) : Permitted op := by
  induction issued with
  | now next => exact issues.1
  | later other next answer lawful _ ih => exact ih (issues.2 answer lawful)

theorem Issues.mono {Weaker : Value → Prop}
    (weaker : ∀ value, After value → Weaker value)
    (issues : program.Issues Lawful Permitted After) :
    program.Issues Lawful Permitted Weaker := by
  induction program with
  | done value => exact weaker value issues
  | call op next ih =>
    exact ⟨issues.1, fun answer lawful => ih answer (issues.2 answer lawful)⟩

theorem Issues.permits {Wider : Op → Prop}
    (wider : ∀ op, Permitted op → Wider op)
    (issues : program.Issues Lawful Permitted After) :
    program.Issues Lawful Wider After := by
  induction program with
  | done value => exact issues
  | call op next ih =>
    exact ⟨wider op issues.1,
      fun answer lawful => ih answer (issues.2 answer lawful)⟩

theorem issues_bind {next : Value → Program Op Answer Other}
    {Final : Other → Prop} (first : program.Issues Lawful Permitted fun value =>
      (next value).Issues Lawful Permitted Final) :
    (program >>= next).Issues Lawful Permitted Final := by
  induction program with
  | done value => exact first
  | call op rest ih =>
    exact ⟨first.1, fun answer lawful => ih answer (first.2 answer lawful)⟩

/-- The rule for a program that starts with a single call. -/
theorem issues_ask {op : Op} {next : Answer op → Program Op Answer Value}
    (permitted : Permitted op)
    (rest : ∀ answer, Lawful op answer →
      (next answer).Issues Lawful Permitted After) :
    ((ask op : Program Op Answer (Answer op)) >>= next).Issues Lawful
      Permitted After :=
  ⟨permitted, rest⟩

/-- The rule for a step that may fail. -/
theorem issues_bind_except {Error : Type}
    {first : ExceptT Error (Program Op Answer) Value}
    {next : Value → ExceptT Error (Program Op Answer) Other}
    {Final : Except Error Other → Prop}
    (judged : Program.Issues Lawful Permitted (fun result =>
      match result with
      | .ok value => Program.Issues Lawful Permitted Final (next value)
      | .error error => Final (.error error)) first) :
    Program.Issues Lawful Permitted Final
      (first >>= next : ExceptT Error (Program Op Answer) Other) := by
  refine issues_bind (Issues.mono ?_ judged)
  intro result kept
  cases result <;> exact kept

/-- The rule for a step that cannot fail among steps that may. -/
theorem issues_bind_lift {Error : Type} {first : Program Op Answer Value}
    {next : Value → ExceptT Error (Program Op Answer) Other}
    {Final : Except Error Other → Prop}
    (judged : first.Issues Lawful Permitted fun value =>
      Program.Issues Lawful Permitted Final (next value)) :
    Program.Issues Lawful Permitted Final
      (liftM first >>= next : ExceptT Error (Program Op Answer) Other) := by
  rw [liftM_bind]
  exact issues_bind judged

/-- A program among more operations issues the same ones. -/
theorem Issues.embed {Wider : Type} {Reply : Wider → Type}
    {inject : Op → Wider} {read : ∀ op, Reply (inject op) → Answer op}
    {LawfulReply : ∀ op, Reply op → Prop} {Allowed : Wider → Prop}
    (lawful : ∀ op reply, LawfulReply (inject op) reply →
      Lawful op (read op reply))
    (allowed : ∀ op, Permitted op → Allowed (inject op))
    (issues : program.Issues Lawful Permitted After) :
    (program.embed inject read).Issues LawfulReply Allowed After := by
  induction program with
  | done value => exact issues
  | call op next ih =>
    exact ⟨allowed op issues.1, fun reply lawfulReply =>
      ih _ (issues.2 _ (lawful op reply lawfulReply))⟩

section Running

variable {Fate World : Type} {Invariant : World → Prop}
variable {perform : (op : Op) → Fate → World → Answer op × World}

variable (kept : ∀ op fate world, Permitted op → Invariant world →
  Lawful op (perform op fate world).1 ∧ Invariant (perform op fate world).2)
include kept

/-- Where permitted operations are answered lawfully and keep an invariant,
every run keeps it. -/
theorem Issues.run (issues : program.Issues Lawful Permitted After)
    (fates : Nat → Fate) {world : World} (holds : Invariant world) :
    Invariant (program.run perform fates world).2 := by
  induction program generalizing fates world with
  | done value => exact holds
  | call op next ih =>
    obtain ⟨lawful, later⟩ := kept op (fates 0) world issues.1 holds
    exact ih _ (issues.2 _ lawful) _ later

theorem Issues.cutOff (issues : program.Issues Lawful Permitted After)
    (fates : Nat → Fate)
    (calls : Nat) {world : World} (holds : Invariant world) :
    Invariant (program.cutOff perform fates calls world) := by
  induction program generalizing fates calls world with
  | done value => exact holds
  | call op next ih =>
    cases calls with
    | zero => exact holds
    | succ calls =>
      obtain ⟨lawful, later⟩ := kept op (fates 0) world issues.1 holds
      exact ih _ (issues.2 _ lawful) _ calls later

end Running

end Program
