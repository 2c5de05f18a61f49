import SieveTube.Dns.Cloudflare.Rejection
import SieveTube.Dns.Contract

/-!
# Half-done changes

A change at the provider is a list of writes, and it can be cut off between
any two of them.  A stage is what the zone can look like then.  Whatever has
been written, the values are between the expected and the desired ones, so
the next pass resumes the change exactly if it can read the record set.
-/

namespace SieveTube.Dns.Cloudflare

def CfRecord.settings (record : CfRecord) : UInt32 × Option Bool :=
  (record.ttl, record.proxied)

section Reading

variable {name : String} {recordType : RecordType}
variable {records : List CfRecord}

/-- Every record has a value of its own. -/
structure Legible (recordType : RecordType)
    (records : List CfRecord) : Prop where
  value : ∀ record ∈ records, ∃ value, valueOf recordType record = some value
  distinct : (records.map (valueOf recordType)).Nodup

theorem map_some_filterMap
    (value : ∀ record ∈ records, (valueOf recordType record).isSome) :
    (records.filterMap (valueOf recordType)).map some =
      records.map (valueOf recordType) := by
  induction records with
  | nil => rfl
  | cons record records ih =>
    obtain ⟨found, same⟩ :=
      Option.isSome_iff_exists.mp (value record List.mem_cons_self)
    rw [List.filterMap_cons_some same, List.map_cons, List.map_cons, same,
      ih fun later member => value later (.tail _ member)]

theorem legible_iff : Legible recordType records ↔
      (records.filterMap (valueOf recordType)).toFinset.card =
        records.length := by
  constructor
  · intro legible
    have value : ∀ record ∈ records, (valueOf recordType record).isSome :=
      fun record member =>
        Option.isSome_iff_exists.mpr (legible.value record member)
    have distinct := legible.distinct
    rw [← map_some_filterMap value] at distinct
    rw [List.toFinset_card_of_nodup (distinct.of_map some)]
    exact List.filterMap_length_eq_length.mpr value
  · intro complete
    have few := List.length_filterMap_le (valueOf recordType) records
    have fewer := List.toFinset_card_le (records.filterMap (valueOf recordType))
    have value : ∀ record ∈ records, (valueOf recordType record).isSome :=
      List.filterMap_length_eq_length.mp (by omega)
    refine ⟨fun record member =>
      Option.isSome_iff_exists.mp (value record member), ?_⟩
    rw [← map_some_filterMap value]
    apply List.Nodup.map (Option.some_injective _)
    apply Multiset.coe_nodup.mp
    apply Multiset.toFinset_card_eq_card_iff_nodup.mp
    change (records.filterMap (valueOf recordType)).toFinset.card =
      (records.filterMap (valueOf recordType)).length
    omega

/-- All records have the same TTL and proxy setting. -/
def Agree (records : List CfRecord) : Prop :=
  ∀ first ∈ records, ∀ second ∈ records, first.settings = second.settings

theorem agree_iff (first : CfRecord) (rest : List CfRecord) :
    Agree (first :: rest) ↔
      ((first :: rest).any fun record => record.ttl ≠ first.ttl) = false ∧
        (((first :: rest).map (·.proxied)).toFinset).card ≤ 1 := by
  constructor
  · intro agree
    constructor
    · rw [List.any_eq_false]
      intro record member
      have same : record.ttl = first.ttl := congrArg Prod.fst
        (agree record member first List.mem_cons_self)
      simp [same]
    · rw [Finset.card_le_one]
      intro one oneMember two twoMember
      obtain ⟨record, member, rfl⟩ :=
        List.mem_map.mp (List.mem_toFinset.mp oneMember)
      obtain ⟨other, otherMember, rfl⟩ :=
        List.mem_map.mp (List.mem_toFinset.mp twoMember)
      exact congrArg Prod.snd (agree record member other otherMember)
  · rintro ⟨ttls, proxied⟩ record member other otherMember
    have ttl : ∀ record ∈ first :: rest, record.ttl = first.ttl := by
      simpa using List.any_eq_false.mp ttls
    rw [Finset.card_le_one] at proxied
    refine Prod.ext ?_ ?_
    · exact (ttl record member).trans (ttl other otherMember).symm
    · exact proxied record.proxied
        (List.mem_toFinset.mpr (List.mem_map_of_mem member)) other.proxied
        (List.mem_toFinset.mpr (List.mem_map_of_mem otherMember))

/-- A reading is supported if the records are legible and agree in their
settings. -/
theorem supported_iff :
    (observed name recordType records).bind (·.unsupported) = none ↔
      Legible recordType records ∧ Agree records := by
  cases records with
  | nil => simpa [observed] using
      (⟨⟨by simp, by simp⟩, by simp [Agree]⟩ : Legible recordType [] ∧ Agree [])
  | cons first rest =>
    rw [legible_iff, agree_iff, ← Nat.not_lt]
    unfold observed
    simp only [Option.bind_some]
    generalize (List.filterMap (valueOf recordType)
      (first :: rest)).toFinset.card = values
    generalize ((first :: rest).any fun record => record.ttl ≠ first.ttl) =
      mixed
    by_cases complete : values = (first :: rest).length
    · cases mixed <;> simp [complete]
    · simp only [complete, ne_eq, not_false_eq_true, if_true,
        false_and, reduceCtorEq]

theorem mem_values {value : String} :
    value ∈ valuesOf ((observed name recordType records).map (·.set)) ↔
      ∃ record ∈ records, valueOf recordType record = some value := by
  cases records with
  | nil | cons first rest => simp [observed, valuesOf]

theorem card_values_le :
    (valuesOf ((observed name recordType records).map (·.set))).card ≤
      records.length := by
  cases records with
  | nil => simp [observed, valuesOf]
  | cons first rest =>
    exact (List.toFinset_card_le _).trans (List.length_filterMap_le _ _)

theorem set_of_observed {set : RecordSet}
    (read : (observed name recordType records).map (·.set) = some set) :
    set.name = name ∧ set.recordType = recordType ∧ ∃ first ∈ records,
      set.ttl = first.ttl ∧
        set.proxied = if proxiable recordType then first.proxied else none := by
  cases records with
  | nil => cases read
  | cons first rest =>
    cases read
    exact ⟨rfl, rfl, first, List.mem_cons_self, rfl, rfl⟩

end Reading

/-- A change that the reconciler makes: the service holds a supported set of
canonical values, and the listing has room for all records the change may
lead to. -/
structure Change where
  service : Service
  zone : Zone
  desired : DesiredRecord
  supported : (observed desired.set.name desired.set.recordType
    zone.records).bind (·.unsupported) = none
  canonical : ∀ value ∈ desired.set.values, ∃ input,
    desired.set.recordType.normalizeValue input = .ok value
  unproxied : proxiable desired.set.recordType = false →
    ∀ record ∈ zone.records, record.proxied = service.unproxied
  listable : zone.records.length + desired.set.values.card ≤ pageSize * maxPages

namespace Change

variable (change : Change)

def name : String := change.desired.set.name

def recordType : RecordType := change.desired.set.recordType

def records : List CfRecord := change.zone.records

def current : Option Observed :=
  observed change.name change.recordType change.records

def expected : Option RecordSet := change.current.map (·.set)

def target : Option RecordSet := change.desired.target change.expected

def writes : List Write :=
  plan change.name change.recordType change.records change.target

/-- The program of the change. -/
def program : Calls ChangeTicket :=
  replace change.name change.recordType change.expected change.target

/-- The record has what the change writes. -/
def New (record : CfRecord) : Prop :=
  ∃ aim, change.target = some aim ∧
    UpToDate change.name change.recordType change.records aim record

/-- The record has what was there before. -/
def Old (record : CfRecord) : Prop :=
  ∃ source ∈ change.records, record.settings = source.settings

variable {change}

theorem mem_target {aim : RecordSet} (aimed : change.target = some aim) :
    aim.ttl = change.desired.set.ttl ∧
      aim.values = change.desired.set.values := by
  unfold target DesiredRecord.target at aimed
  split at aimed
  · cases aimed
  · cases aimed
    unfold withCurrentProxied
    split <;> exact ⟨rfl, rfl⟩

theorem normalizeValue_target {aim : RecordSet} {value : String}
    (aimed : change.target = some aim) (wanted : value ∈ aim.values) :
    change.recordType.normalizeValue (change.recordType.content value) =
      .ok value := by
  rw [(mem_target aimed).2] at wanted
  obtain ⟨input, accepted⟩ := change.canonical value wanted
  exact normalizeValue_content accepted

end Change

/-- The value of a record that a write creates. -/
def posted (recordType : RecordType) : Write → Option (Option String)
  | .post _ _ content _ _ => some (recordType.normalizeValue content).toOption
  | _ => none

/-- What holds between two writes of a change, with those still to come. -/
structure Stage (change : Change) (rest : List Write) (zone : Zone) : Prop where
  value : ∀ record ∈ zone.records, ∃ value,
    valueOf change.recordType record = some value ∧
      value ∈ valuesOf change.expected ∪ valuesOf change.target
  distinct : (zone.records.map (valueOf change.recordType) ++
    rest.filterMap (posted change.recordType)).Nodup
  common : ∀ value ∈ valuesOf change.expected ∩ valuesOf change.target,
    ∃ record ∈ zone.records, valueOf change.recordType record = some value
  content : ∀ record ∈ zone.records, ∀ source ∈ change.records,
    record.id = source.id → record.content = source.content
  known : ∀ source ∈ change.records, source.id ∈ zone.used
  settings : ∀ record ∈ zone.records, change.New record ∨ change.Old record
  plain : proxiable change.recordType = false →
    ∀ record ∈ zone.records, record.proxied = change.service.unproxied

section Stages

variable {change : Change} {zone : Zone} {rest : List Write}

theorem value_of_content {recordType : RecordType}
    {record other : CfRecord} (same : record.content = other.content) :
    valueOf recordType record = valueOf recordType other := by
  rw [valueOf, valueOf, same]

theorem Change.upToDate_created {record : CfRecord} {aim : RecordSet}
    (ttl : record.ttl = aim.ttl)
    (proxied : record.proxied = (bodyProxied change.recordType
      (effectiveProxied change.current aim)).or change.service.unproxied) :
    UpToDate change.name change.recordType change.records aim record := by
  refine ⟨ttl, fun allowed => ?_⟩
  rw [proxied, bodyProxied, if_pos allowed]
  rfl

variable {write : Write}

variable (stage : Stage change (write :: rest) zone)
include stage

section

variable (part : Planned change.name change.recordType change.records
  change.target write)
include part

theorem Stage.value_apply :
    ∀ record ∈ (zone.apply change.service write).records, ∃ value,
      valueOf change.recordType record = some value ∧
        value ∈ valuesOf change.expected ∪ valuesOf change.target := by
  intro record member
  rcases mem_apply_planned part member with
    ⟨before, stored, _, same, _⟩ | ⟨_, aim, value, aimed, wanted, same, _⟩
  · rw [value_of_content same]
    exact stage.value before stored
  · refine ⟨value, ?_, ?_⟩
    · rw [valueOf, same, Change.normalizeValue_target aimed wanted]
      rfl
    · rw [aimed]
      exact Finset.mem_union_right _ wanted

theorem Stage.settings_apply :
    ∀ record ∈ (zone.apply change.service write).records,
      change.New record ∨ change.Old record := by
  intro record member
  rcases mem_apply_planned part member with
    ⟨before, stored, _, _, rfl | ⟨aim, aimed, rfl⟩⟩ | ⟨_, aim, _, aimed, _, _,
      ttl, proxied⟩
  · exact stage.settings record stored
  · exact .inl ⟨aim, aimed, upToDate_patched⟩
  · exact .inl ⟨aim, aimed, Change.upToDate_created ttl proxied⟩

theorem Stage.plain_apply (denied : proxiable change.recordType = false) :
    ∀ record ∈ (zone.apply change.service write).records,
      record.proxied = change.service.unproxied := by
  intro record member
  rcases mem_apply_planned part member with
    ⟨before, stored, _, _, rfl | ⟨aim, aimed, rfl⟩⟩ | ⟨_, aim, _, aimed, _, _,
      _, proxied⟩
  · exact stage.plain denied record stored
  · simp [CfRecord.patched, bodyProxied, denied,
      stage.plain denied before stored]
  · simpa [bodyProxied, denied] using proxied

end

theorem Stage.distinct_apply :
    ((zone.apply change.service write).records.map
      (valueOf change.recordType) ++
        rest.filterMap (posted change.recordType)).Nodup := by
  have distinct := stage.distinct
  cases write with
  | patch id ttl proxied =>
    have same : valueOf change.recordType ∘ CfRecord.patched id ttl
        proxied = valueOf change.recordType :=
      funext fun record => value_of_content (record.patched_content ..)
    simpa [Zone.apply, Zone.patch, List.filterMap_cons, posted,
      same] using distinct
  | post createdType createdName content ttl proxied =>
    simpa [Zone.apply, Zone.post, posted, valueOf] using distinct
  | delete id =>
    refine distinct.sublist ?_
    exact (List.filter_sublist.map _).append (List.Sublist.refl _)

variable (part : Planned change.name change.recordType change.records
  change.target write)
include part

theorem Stage.common_apply :
    ∀ value ∈ valuesOf change.expected ∩ valuesOf change.target,
      ∃ record ∈ (zone.apply change.service write).records,
        valueOf change.recordType record = some value := by
  intro value both
  obtain ⟨record, stored, found⟩ := stage.common value both
  have undeleted : write ≠ .delete record.id := by
    rintro rfl
    obtain ⟨source, unwanted, same⟩ := planned_delete part
    obtain ⟨listed, superfluous⟩ := List.mem_filter.mp unwanted
    have content := stage.content record stored source listed same.symm
    rw [value_of_content content] at found
    have kept := (Finset.mem_inter.mp both).2
    simp [found] at superfluous
    exact superfluous kept
  obtain ⟨later, member, _, same⟩ := Zone.exists_apply stored undeleted
  exact ⟨later, member, value_of_content same ▸ found⟩

/-- Each write of a change leads to the next stage. -/
theorem Stage.apply :
    Stage change rest (zone.apply change.service write) where
  value := stage.value_apply part
  distinct := stage.distinct_apply
  common := stage.common_apply part
  content := by
    intro record member source listed same
    rcases Zone.mem_apply member with
      ⟨before, stored, sameId, sameContent, _⟩ | ⟨new, _⟩
    · rw [sameContent]
      exact stage.content before stored source listed (sameId ▸ same)
    · exact absurd (same ▸ stage.known source listed) new
  known := fun source listed => Zone.used_apply (stage.known source listed)
  settings := stage.settings_apply part
  plain := stage.plain_apply part

end Stages

section Posted

variable {name : String} {recordType : RecordType}
variable {records : List CfRecord} {aim : RecordSet} {proxied : Bool}

theorem posted_changesFor {value : String}
    (canonical : recordType.normalizeValue (recordType.content value) =
      .ok value) :
    (changesFor name recordType records aim proxied value).filterMap
      (posted recordType) = [] ∨
      ((changesFor name recordType records aim proxied value).filterMap
          (posted recordType) = [some value] ∧
        some value ∉ records.map (valueOf recordType)) := by
  unfold changesFor
  cases found : records.find? fun record => valueOf recordType record =
    some value with
  | some record =>
    left
    simp only
    split <;> rfl
  | none =>
    refine .inr ⟨by simp [posted, canonical, Except.toOption], ?_⟩
    intro present
    obtain ⟨record, member, same⟩ := List.mem_map.mp present
    simpa [same] using List.find?_eq_none.mp found record member

theorem posted_flatMap {values : List String}
    (canonical : ∀ value ∈ values,
      recordType.normalizeValue (recordType.content value) = .ok value) :
    ((values.flatMap (changesFor name recordType records aim
        proxied)).filterMap (posted recordType)).Sublist (values.map some) ∧
      ∀ created ∈ (values.flatMap (changesFor name recordType records aim
          proxied)).filterMap (posted recordType),
        created ∉ records.map (valueOf recordType) := by
  induction values with
  | nil => simp
  | cons value values ih =>
    obtain ⟨sublist, fresh⟩ :=
      ih fun later member => canonical later (.tail _ member)
    rw [List.flatMap_cons, List.filterMap_append, List.map_cons]
    rcases posted_changesFor (canonical value List.mem_cons_self) with
      nothing | ⟨created, absent⟩
    · rw [nothing]
      exact ⟨sublist.cons _, fresh⟩
    · rw [created]
      refine ⟨sublist.cons_cons _, ?_⟩
      intro other member
      rcases List.mem_cons.mp member with rfl | later
      · exact absent
      · exact fresh other later

theorem posted_deletions (desired : Option RecordSet) :
    (deletions recordType records desired).filterMap (posted recordType) =
      [] := by
  rw [List.filterMap_eq_nil_iff]
  intro write member
  obtain ⟨record, _, rfl⟩ := List.mem_map.mp member
  rfl

theorem posted_plan (desired : Option RecordSet) :
    (plan name recordType records desired).filterMap (posted recordType) =
      (settings name recordType records (observed name recordType records)
        desired).filterMap (posted recordType) := by
  unfold plan
  split <;> simp [posted_deletions]

end Posted

namespace Change

variable (change : Change)

theorem legible :
    Legible change.recordType change.records ∧ Agree change.records :=
  supported_iff.mp change.supported

theorem planned_of_mem {write : Write} (member : write ∈ change.writes) :
    Planned change.name change.recordType change.records change.target
      write :=
  planned member

theorem distinct_start :
    (change.zone.records.map (valueOf change.recordType) ++
      change.writes.filterMap (posted change.recordType)).Nodup := by
  have own := change.legible.1.distinct
  rw [writes, posted_plan]
  cases aimed : change.target with
  | none => simpa [settings, records] using own
  | some aim =>
    have canonical : ∀ value ∈ aim.values.sort, change.recordType.normalizeValue
          (change.recordType.content value) = .ok value :=
      fun value member =>
        normalizeValue_target aimed ((Finset.mem_sort _).mp member)
    obtain ⟨sublist, fresh⟩ := posted_flatMap canonical
    rw [List.nodup_append]
    refine ⟨own, ?_, ?_⟩
    · exact ((Finset.sort_nodup _ _).map (Option.some_injective _)).sublist
        sublist
    · rintro value stored other created rfl
      exact fresh value created stored

theorem stage_start : Stage change change.writes change.zone where
  value := by
    intro record member
    obtain ⟨value, found⟩ := change.legible.1.value record member
    exact ⟨value, found,
      Finset.mem_union_left _ (mem_values.mpr ⟨record, member, found⟩)⟩
  distinct := change.distinct_start
  common := fun value both => mem_values.mp (Finset.mem_inter.mp both).1
  content := by
    intro record member source listed same
    rw [List.inj_on_of_nodup_map change.zone.distinct member listed same]
  known := change.zone.known
  settings := fun record member => .inr ⟨record, member, rfl⟩
  plain := change.unproxied

/-- The zone after some writes of the change. -/
def after (count : Nat) : Zone :=
  change.zone.applyAll change.service (change.writes.take count)

theorem stage_after {count : Nat} :
    Stage change (change.writes.drop count) (change.after count) := by
  induction count with
  | zero => exact change.stage_start
  | succ count ih =>
    by_cases last : count < change.writes.length
    · rw [List.drop_eq_getElem_cons last] at ih
      have next := ih.apply (change.planned_of_mem (List.getElem_mem last))
      rw [after, Zone.applyAll,
        List.take_succ_eq_append_getElem last, List.foldl_concat]
      exact next
    · have all := Nat.le_of_not_lt last
      have same : change.after (count + 1) = change.after count := by
        rw [after, after, List.take_of_length_le all,
          List.take_of_length_le (by omega)]
      rw [same, List.drop_of_length_le (by omega)]
      rwa [List.drop_of_length_le all] at ih

/-- An action that carries on with the change. -/
def Continues : Action → Prop
  | .noChange => True
  | .forget => True
  | .apply _ aim => sameOptional aim change.target
  | _ => False

/-- Whatever a later pass reads in this world, it carries on with the
change whose intent was saved. -/
def Resumes (world : World) : Prop :=
  ∀ (fates : Nat → Fate) (found : Option Observed)
    (reconciler : Reconciler) (item : Item) (startedAt : Int),
    (Program.run (perform change.service)
      (get change.name change.recordType) fates world).1 = .ok found →
    item.desired = change.desired →
    item.state.pending item.key = some
      { expected := change.expected
        desired := change.target
        ticket := none
        startedAt } →
    change.Continues (reconciler.action (item.settle found) found)

end Change

section Decision

variable {change : Change} {zone : Zone} {rest : List Write}

theorem Stage.legible (stage : Stage change rest zone) :
    Legible change.recordType zone.records where
  value := by
    intro record member
    obtain ⟨value, found, _⟩ := stage.value record member
    exact ⟨value, found⟩
  distinct := stage.distinct.of_append_left

theorem Change.card_values :
    (valuesOf change.expected ∪ valuesOf change.target).card ≤
      pageSize * maxPages := by
  have source : (valuesOf change.expected).card ≤ change.zone.records.length :=
    card_values_le
  have aim : (valuesOf change.target).card ≤
      change.desired.set.values.card := by
    cases aimed : change.target with
    | none => simp [valuesOf]
    | some set => simp [valuesOf, (Change.mem_target aimed).2]
  have room := change.listable
  have both := Finset.card_union_le (valuesOf change.expected)
    (valuesOf change.target)
  omega

theorem Stage.listed (stage : Stage change rest zone) :
    zone.records.length ≤ pageSize * maxPages := by
  have part : zone.records.map (valueOf change.recordType) ⊆
      ((valuesOf change.expected ∪ valuesOf change.target).image
        some).toList := by
    intro found member
    obtain ⟨record, stored, rfl⟩ := List.mem_map.mp member
    obtain ⟨value, same, allowed⟩ := stage.value record stored
    rw [same, Finset.mem_toList]
    exact Finset.mem_image_of_mem some allowed
  have length := (stage.legible.distinct.subperm part).length_le
  rw [List.length_map, Finset.length_toList] at length
  exact length.trans (Finset.card_image_le.trans change.card_values)

/-- The expected set has the settings that every record of the zone has. -/
theorem Change.expected_settings {source : CfRecord}
    (member : source ∈ change.records) :
    ∃ set, change.expected = some set ∧ set.ttl = source.ttl ∧
      set.proxied = if proxiable change.recordType then source.proxied
        else none := by
  cases read : change.expected with
  | none =>
    unfold Change.expected Change.current at read
    cases records : change.records with
    | nil =>
      rw [records] at member
      cases member
    | cons first rest => simp [records, observed] at read
  | some set =>
    obtain ⟨_, _, first, listed, ttl, proxied⟩ := set_of_observed read
    have same := change.legible.2 first listed source member
    refine ⟨set, rfl, ttl.trans (congrArg Prod.fst same), ?_⟩
    have setting : first.proxied = source.proxied := congrArg Prod.snd same
    rw [proxied, setting]

theorem Stage.isBetween (stage : Stage change rest zone) :
    isBetween ((observed change.name change.recordType
      zone.records).map (·.set)) change.expected change.target := by
  unfold Dns.isBetween
  simp only [Bool.and_eq_true, decide_eq_true_eq]
  refine ⟨⟨?_, ?_⟩, ?_⟩
  · intro value actual
    obtain ⟨record, member, found⟩ := mem_values.mp actual
    obtain ⟨other, same, allowed⟩ := stage.value record member
    cases found.symm.trans same
    exact allowed
  · intro value both
    exact mem_values.mpr (stage.common value both)
  · cases read : (observed change.name change.recordType zone.records).map
      (·.set) with
    | none => rfl
    | some set =>
      obtain ⟨_, _, first, member, ttl, _⟩ := set_of_observed read
      simp only [Option.all_some, Bool.or_eq_true]
      rcases stage.settings first member with
        ⟨aim, aimed, new, _⟩ | ⟨source, listed, old⟩
      · right
        simp [aimed, ttl, new]
      · left
        obtain ⟨set, expected, same, _⟩ := Change.expected_settings listed
        have old : first.ttl = source.ttl := congrArg Prod.fst old
        simp [expected, ttl, same, old]

theorem sameOptional_target (desired : DesiredRecord)
    {first second : Option RecordSet} (agree : desired.set.proxied = none →
      sameProxied (first.bind (·.proxied)) (second.bind (·.proxied))) :
    sameOptional (desired.target first) (desired.target second) := by
  unfold DesiredRecord.target
  split
  · rfl
  · simp only [sameOptional, withCurrentProxied]
    split
    · next unspecified =>
      rw [RecordSet.sameData_iff]
      exact ⟨rfl, rfl, rfl, rfl, agree (by simpa using unspecified)⟩
    · exact RecordSet.sameData_refl _

theorem Change.effectiveProxied_eq {aim : RecordSet} {proxied : Bool}
    (aimed : change.target = some aim)
    (unspecified : change.desired.set.proxied = none)
    (source : change.expected.bind (·.proxied) = some proxied) :
    effectiveProxied change.current aim = proxied := by
  have kept : aim.proxied = some proxied := by
    unfold Change.target DesiredRecord.target at aimed
    split at aimed
    · cases aimed
    · cases aimed
      simp [withCurrentProxied, unspecified, source]
  simp [effectiveProxied, kept]

theorem Stage.sameTarget (stage : Stage change rest zone) :
    sameOptional (change.desired.target
      ((observed change.name change.recordType zone.records).map (·.set)))
        change.target := by
  apply sameOptional_target
  intro unspecified
  cases read : (observed change.name change.recordType zone.records).map
    (·.set) with
  | none => simp [sameProxied]
  | some set =>
    obtain ⟨_, _, first, member, _, proxied⟩ := set_of_observed read
    cases allowed : proxiable change.recordType with
    | false => simp [proxied, allowed, sameProxied]
    | true =>
      simp only [Option.bind_some, proxied, allowed, if_true]
      rcases stage.settings first member with
        ⟨aim, aimed, _, new⟩ | ⟨source, listed, old⟩
      · rw [new allowed]
        cases setting : change.expected.bind (·.proxied) with
        | none => simp [sameProxied]
        | some before =>
          have same := Change.effectiveProxied_eq aimed unspecified setting
          unfold Change.current at same
          simp [sameProxied, same]
      · obtain ⟨set, expected, _, same⟩ := Change.expected_settings listed
        have old : first.proxied = source.proxied := congrArg Prod.snd old
        simp [expected, same, allowed, old]

/-- The entry with the intent accounts for content between the two sets,
also when the change turns out to be complete. -/
theorem Change.settle_accounted {observed : Option Observed}
    (between : isBetween (observed.map (·.set)) change.expected change.target)
    {item : Item} {startedAt : Int}
    (saved : item.state.pending item.key = some
      { expected := change.expected
        desired := change.target
        ticket := none
        startedAt }) :
    ∃ record, (item.settle observed).managed = some record ∧
      (item.settle observed).desired.Accounted (observed.map (·.set))
        (some record) := by
  obtain ⟨entry, stored, pending⟩ := Option.bind_eq_some_iff.mp saved
  have settled : (item.settle observed).managed =
      (settleInterrupted item.state item.key (observed.map (·.set))
        item.generation item.now).records.lookup item.key := rfl
  by_cases landed : sameOptional (observed.map (·.set)) change.target
  · refine ⟨{ entry with
      previous := change.expected
      applied := change.target
      pending := none
      generation := item.generation
      updatedAt := item.now }, ?_, landed⟩
    simp [settled, settleInterrupted, saved, landed, finishPending,
      completeChange, stored]
  · refine ⟨entry, ?_, ?_⟩
    · simpa [settled, settleInterrupted, saved, landed] using stored
    · simpa [DesiredRecord.Accounted, pending] using between

/-- Supported content between the two sets is carried on from. -/
theorem Change.continues_of_between {observed : Option Observed}
    (supported : observed.bind (·.unsupported) = none)
    (between : isBetween (observed.map (·.set)) change.expected change.target)
    (same : sameOptional (change.desired.target (observed.map (·.set)))
      change.target)
    (reconciler : Reconciler) {item : Item} {startedAt : Int}
    (aimed : item.desired = change.desired)
    (saved : item.state.pending item.key = some
      { expected := change.expected
        desired := change.target
        ticket := none
        startedAt }) :
    change.Continues (reconciler.action (item.settle observed) observed) := by
  obtain ⟨record, managed, accounted⟩ := settle_accounted between saved
  rw [Reconciler.action, managed,
    DesiredRecord.decide_of_accounted supported accounted,
    DesiredRecord.proceed_eq]
  split
  · split <;> trivial
  · change sameOptional (item.desired.target _) change.target
    rw [aimed]
    exact same

/-- A later pass carries on exactly if the records agree in their
settings. -/
theorem Stage.resumes_iff {world : World}
    (stage : Stage change rest world.zone) :
    change.Resumes world ↔ Agree world.zone.records := by
  obtain ⟨reads, fates, read⟩ :=
    get_run change.service change.name change.recordType stage.listed
  constructor
  · intro resumes
    by_contra mixed
    let item : Item :=
      { generation := 0
        now := 0
        state := withIntent ProviderState.empty change.desired change.expected
          change.target 0 0
        desired := change.desired
        rest := [] }
    let reconciler : Reconciler :=
      { provider := "", settleSecs := 0, writer := .singleWriter }
    have decided :=
      resumes fates _ reconciler item 0 read rfl (pending_withIntent ..)
    cases unsupported : (observed change.name change.recordType
        world.zone.records).bind (·.unsupported) with
    | none => exact mixed (supported_iff.mp unsupported).2
    | some reason =>
      unfold Reconciler.action DesiredRecord.decide at decided
      rw [unsupported] at decided
      exact decided
  · intro agree fates found reconciler item startedAt accepted aimed saved
    obtain rfl := reads fates found accepted
    exact Change.continues_of_between
      (supported_iff.mpr ⟨stage.legible, agree⟩) stage.isBetween
      stage.sameTarget reconciler aimed saved

end Decision

end SieveTube.Dns.Cloudflare
