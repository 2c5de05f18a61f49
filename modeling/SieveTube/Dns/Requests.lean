import SieveTube.Dns.Reconciler
import SieveTube.Library.Issued

/-!
# The changes a pass asks for

Whatever its calls answer, a pass asks only for changes of its own records,
each one from what the provider reported to what the configuration makes of
that.
-/

namespace SieveTube.Dns

open Program

/-- The change of a record from what was observed. -/
def DesiredRecord.request (desired : DesiredRecord)
    (observed : Option Observed) : Request where
  name := desired.set.name
  recordType := desired.set.recordType
  expected := observed.map (·.set)
  desired := desired.target (observed.map (·.set))

/-- A change that is asked for satisfies `Holds`. -/
def Op.Sends (Holds : Request → Prop) : Op → Prop
  | .replace request => Holds request
  | _ => True

/-- With lawful answers the pass asks only for changes that satisfy
`Holds`. -/
def Pass.Sends {Value : Type} (Lawful : ∀ op, Answer op → Prop)
    (Holds : Request → Prop) (pass : Pass Value) : Prop :=
  pass.Issues Lawful (Op.Sends Holds) fun _ => True

section Rules

variable {Lawful : ∀ op, Answer op → Prop} {Holds : Request → Prop}
variable {Value Other : Type}

theorem sends_bind {first : Pass Value} {next : Value → Pass Other}
    (before : Pass.Sends Lawful Holds first)
    (after : ∀ value, Pass.Sends Lawful Holds (next value)) :
    Pass.Sends Lawful Holds (first >>= next) :=
  issues_bind (Issues.mono (fun value _ => after value) before)

theorem sends_ask {op : Op} {next : Answer op → Pass Value}
    (sends : op.Sends Holds)
    (after : ∀ answer, Lawful op answer →
      Pass.Sends Lawful Holds (next answer)) :
    Pass.Sends Lawful Holds (Pass.ask op >>= next) :=
  issues_ask sends after

theorem sends_done {value : Value} : Pass.Sends Lawful Holds (pure value) :=
  trivial

end Rules

section Pass

variable {Lawful : ∀ op, Answer op → Prop} {Holds : Request → Prop}
variable {reconciler : Reconciler} {generation : Nat} {now : Int}
variable {state : ProviderState} {desired : DesiredRecord}

theorem sends_renewWriter :
    Pass.Sends Lawful Holds (reconciler.renewWriter generation) := by
  unfold Reconciler.renewWriter
  split
  · exact sends_done
  · refine sends_ask trivial fun renewal _ => ?_
    split <;> exact sends_done

theorem sends_renewTimes (count : Nat) :
    Pass.Sends Lawful Holds (reconciler.renewTimes generation count) := by
  induction count with
  | zero => exact sends_done
  | succ count ih =>
    refine sends_bind sends_renewWriter fun renewed => ?_
    split
    · exact ih
    · exact sends_done

theorem sends_replaceWhileWriter {request : Request} (holds : Holds request) :
    Pass.Sends Lawful Holds
      (reconciler.replaceWhileWriter generation request) := by
  refine sends_bind sends_renewWriter fun renewed => ?_
  split
  · refine sends_ask holds fun handle _ => ?_
    refine sends_ask trivial fun timers _ => ?_
    refine sends_bind (sends_renewTimes timers) fun renewed => ?_
    split
    · refine sends_ask trivial fun result _ => ?_
      refine sends_bind sends_renewWriter fun renewed => ?_
      split <;> exact sends_done
    · exact sends_done
  · exact sends_done

theorem sends_applyChange {observed : Option Observed}
    (holds : Holds (desired.request observed)) :
    Pass.Sends Lawful Holds (reconciler.applyChange desired
      (observed.map (·.set)) (desired.target (observed.map (·.set)))
      generation now state) := by
  refine sends_bind sends_renewWriter fun renewed => ?_
  split
  · refine sends_ask trivial fun saved _ => ?_
    split
    · exact sends_done
    · refine sends_bind (sends_replaceWhileWriter holds) fun result => ?_
      split <;> exact sends_done
  · exact sends_done

section

variable (holds : ∀ observed,
  Lawful (.get desired.set.name desired.set.recordType) (.ok observed) →
  Holds (desired.request observed))
include holds

/-- A record is changed from what was read just before. -/
theorem sends_observeRecord :
    Pass.Sends Lawful Holds
      (reconciler.observeRecord desired generation now state) := by
  refine sends_ask trivial fun answer lawful => ?_
  cases answer with
  | error error => exact sends_done
  | ok observed =>
    refine sends_ask trivial fun _ _ => ?_
    unfold Reconciler.perform
    split
    case h_6 expected target decided =>
      obtain ⟨_, rfl, rfl, _⟩ := DesiredRecord.decide_eq_apply decided
      exact sends_applyChange (holds observed lawful)
    all_goals exact sends_done

theorem sends_reconcileRecord :
    Pass.Sends Lawful Holds
      (reconciler.reconcileRecord desired generation state) := by
  refine sends_ask trivial fun now _ => ?_
  split
  · exact sends_observeRecord holds
  · refine sends_ask trivial fun synced _ => ?_
    split
    · exact sends_observeRecord holds
    · exact sends_done
    · exact sends_done

end

theorem sends_reconcileRecords {records : List DesiredRecord}
    (holds : ∀ desired ∈ records, ∀ observed,
      Lawful (.get desired.set.name desired.set.recordType) (.ok observed) →
        Holds (desired.request observed)) :
    Pass.Sends Lawful Holds
      (reconciler.reconcileRecords generation records state) := by
  induction records generalizing state with
  | nil => exact sends_done
  | cons desired rest ih =>
    obtain ⟨first, others⟩ := List.forall_mem_cons.mp holds
    refine sends_bind (sends_reconcileRecord first) fun ⟨_, _⟩ => ?_
    dsimp only
    split
    · exact sends_done
    · exact sends_bind (ih others) fun _ => sends_done

theorem sends_reconcileProvider {compiled : CompiledDns}
    (holds : ∀ desired ∈ reconciler.recordsFor compiled, ∀ observed,
      Lawful (.get desired.set.name desired.set.recordType) (.ok observed) →
        Holds (desired.request observed)) :
    Pass.Sends Lawful Holds (reconciler.reconcileProvider compiled) := by
  refine sends_ask trivial fun loaded _ => ?_
  cases loaded with
  | error error => exact sends_done
  | ok state =>
    have acquired : Pass.Sends Lawful Holds
        (reconciler.acquireWriter state) := by
      unfold Reconciler.acquireWriter
      split <;> exact sends_ask trivial fun _ _ => sends_done
    refine sends_bind acquired fun writer => ?_
    split
    · exact sends_done
    · exact sends_done
    · unfold Reconciler.reconcileAsWriter
      split
      · exact sends_done
      · refine sends_bind (sends_reconcileRecords holds) fun ⟨_, _, _⟩ => ?_
        dsimp only
        split
        · exact sends_done
        · refine sends_bind sends_renewWriter fun renewed => ?_
          split
          · refine sends_ask trivial fun saved _ => ?_
            split <;> exact sends_done
          · exact sends_done

end Pass

end SieveTube.Dns
