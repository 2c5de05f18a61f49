import SieveTube.Dns.Record
import SieveTube.Library.KeyedMap

/-!
# What to do for one desired record

`DesiredRecord.decide` compares a configured record with what the provider
reports and with the persisted management state.  A change is proposed only
for content the state accounts for; everything else is left alone.
-/

namespace SieveTube.Dns

structure DesiredRecord where
  provider : String
  set : RecordSet
  importExisting : Bool
  absent : Bool
deriving DecidableEq

def recordKey (name : String) (recordType : RecordType) : String :=
  name ++ "/" ++ recordType.asStr

def DesiredRecord.key (desired : DesiredRecord) : String :=
  recordKey desired.set.name desired.set.recordType

/-- The validated records of a configuration: none is configured twice. -/
structure CompiledDns where
  records : List DesiredRecord
  nodup : (records.map fun record =>
    (record.provider, record.set.name, record.set.recordType)).Nodup

/-- A change that was started but not confirmed. -/
structure PendingChange where
  expected : Option RecordSet
  desired : Option RecordSet
  ticket : Option ChangeTicket
  startedAt : Int

structure ManagedRecord where
  name : String
  recordType : RecordType
  applied : Option RecordSet
  previous : Option RecordSet
  generation : Nat
  pending : Option PendingChange
  updatedAt : Int

/-- Management state for one provider. -/
structure ProviderState where
  writerGeneration : Nat
  records : AList fun _ : String => ManagedRecord

def ProviderState.empty : ProviderState :=
  { writerGeneration := 0, records := ∅ }

inductive Action where
  | noChange
  | apply (expected desired : Option RecordSet)
  | adopt (current : RecordSet)
  | forget
  | wait (reason : String)
  | conflict (reason : String)
deriving DecidableEq

/-- Keep the provider's proxy setting when the configuration does not specify
one. -/
def withCurrentProxied (desired : RecordSet) (current : Option RecordSet) :
    RecordSet :=
  if desired.proxied.isNone then
    { desired with proxied := current.bind (·.proxied) }
  else desired

def valuesOf (set : Option RecordSet) : Finset String :=
  (set.map (·.values)).getD ∅

theorem valuesOf_of_same {first second : Option RecordSet}
    (same : sameOptional first second) :
    valuesOf first = valuesOf second := by
  cases first with
  | none => rw [sameOptional_none_left.mp same]
  | some first =>
    cases second with
    | none => cases same
    | some second => exact (RecordSet.sameData_iff.mp same).2.2.2.1

/-- Whether `actual` could be an intermediate state of a change from `source`
to `target`. -/
def isBetween (actual source target : Option RecordSet) : Bool :=
  let within :=
    decide (valuesOf actual ⊆ valuesOf source ∪ valuesOf target)
  let keepsCommon :=
    decide (valuesOf source ∩ valuesOf target ⊆ valuesOf actual)
  let ttlOk := actual.all fun set =>
    source.any (·.ttl == set.ttl) || target.any (·.ttl == set.ttl)
  within && keepsCommon && ttlOk

namespace DesiredRecord

/-- The provider already has what the configuration asks for. -/
def reached (desired : DesiredRecord) (actual : Option RecordSet) : Bool :=
  if desired.absent then actual.isNone
  else actual.any fun current =>
    current.sameData (withCurrentProxied desired.set (some current))

/-- The change that leads to the configuration, once nothing speaks against
touching the record. -/
def proceed (desired : DesiredRecord) (actual : Option RecordSet)
    (managed : Option ManagedRecord) : Action :=
  match actual, desired.absent with
  | none, true => if managed.isSome then .forget else .noChange
  | some current, true => .apply (some current) none
  | none, false => .apply none (some desired.set)
  | some current, false =>
    let target := withCurrentProxied desired.set (some current)
    if current.sameData target then .noChange
    else .apply (some current) (some target)

def settling : String := "waiting for the provider to reflect the last change"

/-- An unexpected content is a conflict once the provider had time to
settle. -/
def unexpected (since now settleSecs : Int) (reason : String) : Action :=
  if now - since < settleSecs then .wait settling else .conflict reason

/-- Decide what to do for one desired record. -/
def decide (desired : DesiredRecord) (observed : Option Observed)
    (managed : Option ManagedRecord) (now settleSecs : Int) : Action :=
  match observed.bind (·.unsupported) with
  | some reason => .conflict s!"provider record cannot be managed: {reason}"
  | none =>
    let actual := observed.map (·.set)
    match managed with
    | some record =>
      if desired.reached actual then proceed desired actual managed
      else match record.pending with
        | some pending =>
          if isBetween actual pending.expected pending.desired then
            proceed desired actual managed
          else unexpected pending.startedAt now settleSecs
            "record changed outside Sieve Tube during an unfinished change"
        | none =>
          if sameOptional actual record.applied then
            proceed desired actual managed
          else unexpected record.updatedAt now settleSecs
            "record was changed outside Sieve Tube"
    | none =>
      match actual with
      | none => proceed desired actual managed
      | some current =>
        if desired.absent then
          .conflict "record is not managed by Sieve Tube; refusing to delete it"
        else if !desired.importExisting then
          .conflict
            "an unmanaged record already exists; set import = true to take it over"
        else
          let target := withCurrentProxied desired.set (some current)
          if current.sameData target then .adopt current
          else .apply (some current) (some target)

/-- What the configuration makes of the current content. -/
def target (desired : DesiredRecord) (actual : Option RecordSet) :
    Option RecordSet :=
  if desired.absent then none
  else some (withCurrentProxied desired.set actual)

/-- Content that the configuration or the state allows to change. -/
def Accounted (desired : DesiredRecord) (actual : Option RecordSet) :
    Option ManagedRecord → Prop
  | none =>
    actual = none ∨ (desired.importExisting = true ∧ desired.absent = false)
  | some record =>
    match record.pending with
    | some pending => isBetween actual pending.expected pending.desired
    | none => sameOptional actual record.applied

end DesiredRecord

theorem recordKey_injective {name other : String}
    {recordType otherType : RecordType}
    (same : recordKey name recordType = recordKey other otherType) :
    name = other ∧ recordType = otherType := by
  have characters : (recordKey name recordType).toList.reverse =
      (recordKey other otherType).toList.reverse := by
    rw [same]
  have slash : "/".toList = ['/'] := rfl
  simp only [recordKey, String.toList_append, List.reverse_append,
    slash] at characters
  cases recordType <;> cases otherType <;>
    simp [RecordType.asStr] at characters ⊢
  all_goals exact String.toList_inj.mp characters

theorem withCurrentProxied_none (desired : RecordSet) :
    withCurrentProxied desired none = desired := by
  unfold withCurrentProxied
  split
  · next unspecified =>
    cases desired
    simp_all
  · rfl

theorem isBetween_source {source target : Option RecordSet} :
    isBetween source source target := by
  cases source <;> simp [isBetween, valuesOf]

theorem isBetween_of_same_target {actual source target : Option RecordSet}
    (same : sameOptional actual target) :
    isBetween actual source target := by
  cases actual with
  | none =>
    rw [sameOptional_none_left] at same
    subst target
    simp [isBetween, valuesOf]
  | some set =>
    cases target with
    | none => simp [sameOptional] at same
    | some desired =>
      obtain ⟨_, _, ttl, values, _⟩ :=
        RecordSet.sameData_iff.mp (by simpa [sameOptional] using same)
      simp [isBetween, valuesOf, ttl, values]

namespace DesiredRecord

variable {desired : DesiredRecord} {actual : Option RecordSet}
variable {observed : Option Observed} {managed : Option ManagedRecord}
variable {now settleSecs : Int}

/-- Content with the data a change aims at satisfies the configuration,
whatever proxy setting the provider filled in. -/
theorem reached_of_same_target {before : Option RecordSet}
    (same : sameOptional actual (desired.target before)) :
    desired.reached actual := by
  unfold target at same
  unfold reached
  split at same
  · next absent =>
    rw [sameOptional_none_right] at same
    simp [absent, same]
  · next present =>
    cases actual with
    | none => simp [sameOptional] at same
    | some current =>
      obtain ⟨name, recordType, ttl, values, proxied⟩ :=
        RecordSet.sameData_iff.mp (by simpa [sameOptional] using same)
      simp only [present, Bool.false_eq_true, if_false, Option.any_some]
      rw [RecordSet.sameData_iff]
      unfold withCurrentProxied at *
      split at name
      · simp_all
      · simp_all

theorem proceed_eq :
    desired.proceed actual managed =
      if desired.reached actual then
        if desired.absent && managed.isSome then .forget else .noChange
      else .apply actual (desired.target actual) := by
  cases actual <;> cases absent : desired.absent <;>
    simp [proceed, reached, target, absent, withCurrentProxied_none]

variable {expected aim : Option RecordSet}

theorem proceed_eq_apply
    (proceeds : desired.proceed actual managed = .apply expected aim) :
    expected = actual ∧ aim = desired.target expected ∧
      desired.reached expected = false := by
  rw [proceed_eq] at proceeds
  split at proceeds
  · split at proceeds <;> simp at proceeds
  · next unreached =>
    obtain ⟨rfl, rfl⟩ := proceeds
    exact ⟨rfl, rfl, by simpa using unreached⟩

variable {reason : String}

theorem unexpected_ne_apply {since : Int} :
    unexpected since now settleSecs reason ≠ .apply expected aim := by
  unfold unexpected
  split <;> simp

/-- Apart from refusing, waiting and taking a record over, a decision proceeds
with supported content that is accounted for. -/
theorem decide_cases (desired : DesiredRecord) (observed : Option Observed)
    (managed : Option ManagedRecord) (now settleSecs : Int) :
    (∃ reason, desired.decide observed managed now settleSecs =
      .conflict reason) ∨
      (∃ current, desired.decide observed managed now settleSecs =
        .adopt current) ∨
      (∃ since reason, desired.decide observed managed now settleSecs =
        unexpected since now settleSecs reason) ∨
      observed.bind (·.unsupported) = none ∧
        desired.decide observed managed now settleSecs =
          desired.proceed (observed.map (·.set)) managed ∧
        (desired.reached (observed.map (·.set)) = false →
          desired.Accounted (observed.map (·.set)) managed) := by
  unfold decide
  cases supported : observed.bind (·.unsupported) with
  | some reason => exact .inl ⟨_, rfl⟩
  | none =>
    cases managed with
    | some record =>
      dsimp only
      split
      · next reached =>
        refine .inr (.inr (.inr ⟨rfl, rfl, fun unreached => ?_⟩))
        simp [reached] at unreached
      · cases pending : record.pending with
        | some change =>
          dsimp only
          split
          · next between =>
            refine .inr (.inr (.inr ⟨rfl, rfl, fun _ => ?_⟩))
            simpa [Accounted, pending] using between
          · exact .inr (.inr (.inl ⟨_, _, rfl⟩))
        | none =>
          dsimp only
          split
          · next same =>
            refine .inr (.inr (.inr ⟨rfl, rfl, fun _ => ?_⟩))
            simpa [Accounted, pending] using same
          · exact .inr (.inr (.inl ⟨_, _, rfl⟩))
    | none =>
      cases observed.map (·.set) with
      | none => exact .inr (.inr (.inr ⟨rfl, rfl, fun _ => .inl rfl⟩))
      | some current =>
        dsimp only
        split
        · exact .inl ⟨_, rfl⟩
        · next present =>
          split
          · exact .inl ⟨_, rfl⟩
          · next imported =>
            split
            · exact .inr (.inl ⟨_, rfl⟩)
            · next different =>
              refine .inr (.inr (.inr ⟨rfl, ?_, fun _ => .inr ?_⟩))
              · simp [proceed, present, different]
              · exact ⟨by simpa using imported, by simpa using present⟩

/-- A change is proposed only for supported content that is accounted for and
not yet what the configuration asks for. -/
theorem decide_eq_apply
    (decided : desired.decide observed managed now settleSecs =
      .apply expected aim) :
    observed.bind (·.unsupported) = none ∧
      expected = observed.map (·.set) ∧ aim = desired.target expected ∧
      desired.reached expected = false ∧
      desired.Accounted expected managed := by
  rcases desired.decide_cases observed managed now settleSecs with
    ⟨_, refused⟩ | ⟨_, adopted⟩ | ⟨_, _, waits⟩ | ⟨supported,
      proceeds, accounted⟩
  · cases refused.symm.trans decided
  · cases adopted.symm.trans decided
  · exact absurd (waits.symm.trans decided) unexpected_ne_apply
  · obtain ⟨rfl, aimed, unreached⟩ :=
      proceed_eq_apply (proceeds.symm.trans decided)
    exact ⟨supported, rfl, aimed, unreached, accounted unreached⟩

theorem proceed_eq_noChange
    (proceeds : desired.proceed actual managed = .noChange) :
    desired.reached actual := by
  rw [proceed_eq] at proceeds
  split at proceeds
  · next reached => exact reached
  · simp at proceeds

theorem unexpected_ne_noChange {since : Int} :
    unexpected since now settleSecs reason ≠ .noChange := by
  unfold unexpected
  split <;> simp

theorem decide_eq_noChange
    (decided : desired.decide observed managed now settleSecs = .noChange) :
    desired.reached (observed.map (·.set)) := by
  rcases desired.decide_cases observed managed now settleSecs with
    ⟨_, refused⟩ | ⟨_, adopted⟩ | ⟨_, _, waits⟩ | ⟨_, proceeds, _⟩
  · cases refused.symm.trans decided
  · cases adopted.symm.trans decided
  · exact absurd (waits.symm.trans decided) unexpected_ne_noChange
  · exact proceed_eq_noChange (proceeds.symm.trans decided)

theorem reason_of_decide_eq_wait
    (decided : desired.decide observed managed now settleSecs =
      .wait reason) : reason = settling := by
  rcases desired.decide_cases observed managed now settleSecs with
    ⟨_, refused⟩ | ⟨_, adopted⟩ | ⟨_, _, waits⟩ | ⟨_, proceeds, _⟩
  · cases refused.symm.trans decided
  · cases adopted.symm.trans decided
  · rw [waits, unexpected] at decided
    split at decided
    · exact (Action.wait.inj decided).symm
    · cases decided
  · rw [proceeds, proceed_eq] at decided
    split at decided
    · split at decided <;> cases decided
    · cases decided

/-- Supported content that a managed record accounts for is never refused. -/
theorem decide_of_accounted {record : ManagedRecord}
    (supported : observed.bind (·.unsupported) = none)
    (accounted : desired.Accounted (observed.map (·.set)) (some record)) :
    desired.decide observed (some record) now settleSecs =
      desired.proceed (observed.map (·.set)) (some record) := by
  unfold decide
  simp only [supported]
  split
  · rfl
  · cases pending : record.pending with
    | none =>
      have same : sameOptional (observed.map (·.set)) record.applied := by
        simpa [Accounted, pending] using accounted
      simp [same]
    | some change =>
      have between : isBetween (observed.map (·.set)) change.expected
          change.desired := by
        simpa [Accounted, pending] using accounted
      simp [between]

end DesiredRecord

end SieveTube.Dns
