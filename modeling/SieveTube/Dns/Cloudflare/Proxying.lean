import SieveTube.Dns.Cloudflare.Passes

/-!
# Proxy settings that are not configured

A record without a configured proxy setting keeps the one it has.  The
setting is read from the records that are there, so a change must never leave
none: a CNAME that is replaced by another is deleted first, and what is then
created is not proxied.
-/

namespace SieveTube.Dns.Cloudflare

section Writes

variable {service : Service} {zone : Zone} {name : String}
variable {recordType : RecordType} {records : List CfRecord}
variable {target : Option RecordSet} {aim : RecordSet}

/-- The proxy setting is one the service reports for records of the type. -/
def Reported (service : Service) (recordType : RecordType)
    (flag : Option Bool) : Prop :=
  if proxiable recordType then flag.isSome = true
  else flag = service.unproxied

/-- The setting in a request, completed by what a record has anyway. -/
theorem bodyProxied_or {flag : Option Bool} {proxied : Bool}
    (effective : proxiable recordType = true → some proxied = flag)
    {before : Option Bool}
    (plain : proxiable recordType = false → before = flag) :
    (bodyProxied recordType proxied).or before = flag := by
  unfold bodyProxied
  split
  · next allowed => exact effective allowed
  · next denied => exact plain (by simpa using denied)

/-- The writes of a change give every record the same setting. -/
theorem uniform_applyAll {flag : Option Bool} {writes : List Write}
    (reported : Reported service recordType flag)
    (parts : ∀ write ∈ writes, Planned name recordType records target write)
    (effective : ∀ aim, target = some aim → proxiable recordType = true →
        some (effectiveProxied (observed name recordType records) aim) = flag)
    (uniform : ∀ record ∈ zone.records, record.proxied = flag) :
    ∀ record ∈ (zone.applyAll service writes).records,
      record.proxied = flag := by
  let Holds (zone : Zone) : Prop :=
    ∀ record ∈ zone.records, record.proxied = flag
  have kept : Holds (zone.applyAll service writes) := by
    refine Zone.applyAll_preserves ?_ uniform
    intro write member zone uniform record stored
    rcases mem_apply_planned (parts write member) stored with
      ⟨before, earlier, _, _, rfl | ⟨aim, aimed, rfl⟩⟩ | ⟨_, aim, _, aimed, _,
        _, _, created⟩
    · exact uniform record earlier
    · unfold CfRecord.patched
      rw [if_pos rfl]
      exact bodyProxied_or (effective aim aimed) fun _ => uniform before earlier
    · rw [created]
      refine bodyProxied_or (effective aim aimed) fun denied => ?_
      unfold Reported at reported
      rw [if_neg (by simp [denied])] at reported
      exact reported.symm
  exact kept

theorem effectiveProxied_eq {proxied : Bool}
    (allowed : proxiable recordType = true)
    (aimed : aim.proxied = none ∨ aim.proxied = some proxied)
    (uniform : ∀ record ∈ records, record.proxied = some proxied)
    (present : proxied = true → records ≠ []) :
    effectiveProxied (observed name recordType records) aim = proxied := by
  unfold effectiveProxied
  rcases aimed with unset | set
  · rw [unset, Option.none_or]
    cases records with
    | nil =>
      cases proxied with
      | false => rfl
      | true => exact absurd rfl (present rfl)
    | cons first rest =>
      simp [observed, allowed, uniform first List.mem_cons_self]
  · rw [set]
    rfl

end Writes

section Records

variable {service : Service} {desired : DesiredRecord} {zone : Zone}
variable {flag : Option Bool}

/-- One of the desired values is there. -/
def Standing (desired : DesiredRecord) (zone : Zone) : Prop :=
  ∃ record ∈ zone.records, ∃ value ∈ desired.set.values,
    valueOf desired.set.recordType record = some value

/-- Enough is there for a change to leave some record at any time. -/
def Backed (desired : DesiredRecord) (zone : Zone) : Prop :=
  if desired.set.recordType = .cname then Standing desired zone
  else zone.records ≠ []

/-- The records have the setting, and will keep it. -/
structure Kept (desired : DesiredRecord) (flag : Option Bool)
    (zone : Zone) : Prop where
  uniform : ∀ record ∈ zone.records, record.proxied = flag
  backed : flag = some true → desired.absent = false → Backed desired zone

theorem Standing.ne_nil (standing : Standing desired zone) :
    zone.records ≠ [] := by
  obtain ⟨record, member, _⟩ := standing
  exact List.ne_nil_of_mem member

theorem Backed.ne_nil (backed : Backed desired zone) : zone.records ≠ [] := by
  unfold Backed at backed
  split at backed
  · exact backed.ne_nil
  · exact backed

/-- What a change aims at when the setting is read from the records. -/
def Aims (desired : DesiredRecord) (flag : Option Bool)
    (target : Option RecordSet) : Prop :=
  ∃ expected : Option RecordSet,
    (expected.bind (·.proxied) = none ∨ expected.bind (·.proxied) = flag) ∧
      target = desired.target expected

variable {target : Option RecordSet} {aim : RecordSet}

theorem Aims.of_some (aims : Aims desired flag target)
    (unset : desired.set.proxied = none) (aimed : target = some aim) :
    desired.absent = false ∧ aim.values = desired.set.values ∧
      (aim.proxied = none ∨ aim.proxied = flag) := by
  obtain ⟨expected, proxied, rfl⟩ := aims
  unfold DesiredRecord.target at aimed
  split at aimed
  · cases aimed
  · next present =>
    cases aimed
    unfold withCurrentProxied
    rw [unset]
    exact ⟨by simpa using present, rfl, proxied⟩

/-- A record whose value is wanted is not deleted. -/
theorem Standing.applyAll {writes : List Write}
    (standing : Standing desired zone)
    (values : aim.values = desired.set.values)
    (parts : ∀ write ∈ writes, Planned desired.set.name
      desired.set.recordType (listing zone) (some aim) write) :
    Standing desired (zone.applyAll service writes) := by
  obtain ⟨source, member, value, wanted, found⟩ := standing
  have kept : ∃ record ∈ (zone.applyAll service writes).records,
      record.id = source.id ∧ record.content = source.content := by
    refine exists_applyAll_of_spared parts
      (fun id content => id = source.id ∧ content = source.content) ?_
      ⟨source, member, rfl, rfl⟩
    rintro old unwanted content ⟨same, -⟩
    obtain ⟨oldListed, obsolete⟩ := List.mem_filter.mp unwanted
    obtain rfl := List.inj_on_of_nodup_map zone.distinct
      (mem_of_mem_listing oldListed) member same
    simp [found, values, wanted] at obsolete
  obtain ⟨record, stored, -, content⟩ := kept
  refine ⟨record, stored, value, wanted, ?_⟩
  rw [valueOf, content]
  exact found

/-- If no value is wanted, a new record is created before any is deleted. -/
theorem nonempty_applyAll (present : zone.records ≠ [])
    (other : desired.set.recordType ≠ .cname)
    (values : aim.values = desired.set.values)
    (filled : desired.set.values.Nonempty) (unwanted : ¬Standing desired zone)
    (count : Nat) :
    (zone.applyAll service ((plan desired.set.name desired.set.recordType
      (listing zone) (some aim)).take count)).records ≠ [] := by
  have nonempty : aim.values.sort ≠ [] := by
    intro sorted
    have empty := congrArg List.toFinset sorted
    rw [Finset.sort_toFinset, values] at empty
    exact filled.ne_empty empty
  obtain ⟨first, rest, sorted⟩ := List.exists_cons_of_ne_nil nonempty
  have wanted : first ∈ desired.set.values := by
    rw [← values]
    exact (Finset.mem_sort _).mp (sorted ▸ List.mem_cons_self)
  have missing : (listing zone).find? (fun record =>
      valueOf desired.set.recordType record = some first) = none := by
    rw [List.find?_eq_none]
    intro record member found
    exact unwanted ⟨record, mem_of_mem_listing member, first,
      wanted, by simpa using found⟩
  cases count with
  | zero => exact present
  | succ count =>
    obtain ⟨content, ttl, proxied, later, planned⟩ : ∃ content ttl proxied
        later, plan desired.set.name desired.set.recordType (listing zone)
          (some aim) = .post desired.set.recordType desired.set.name
            content ttl proxied :: later := by
      rw [plan, if_neg other, settings, sorted, List.flatMap_cons,
        changesFor, missing]
      exact ⟨_, _, _, _, rfl⟩
    have parts : ∀ write ∈ later.take count, Planned desired.set.name
        desired.set.recordType (listing zone) (some aim) write := by
      intro write member
      apply Cloudflare.planned
      rw [planned]
      exact .tail _ (List.mem_of_mem_take member)
    rw [planned, List.take_succ_cons, Zone.applyAll, List.foldl_cons]
    have foreign : ∀ record ∈ listing zone,
        record.id ≠ service.fresh zone.used := fun record member reused =>
      service.fresh_not_mem zone.used
        (reused ▸ zone.known record (mem_of_mem_listing member))
    have created : ∃ record ∈ (zone.post service content ttl
        proxied).records, record.id = service.fresh zone.used :=
      ⟨_, List.mem_append_right _ List.mem_cons_self, rfl⟩
    obtain ⟨record, member, -⟩ := applyAll_present parts foreign created
    exact List.ne_nil_of_mem member

/-- The setting is left open, and the service reports the one there is. -/
structure Unspecified (service : Service) (desired : DesiredRecord)
    (flag : Option Bool) : Prop where
  reported : Reported service desired.set.recordType flag
  unset : desired.set.proxied = none
  filled : desired.absent = false → desired.set.values.Nonempty

/-- A change keeps the setting, wherever it is cut off. -/
theorem Kept.applyAll (kept : Kept desired flag zone)
    (unspecified : Unspecified service desired flag)
    (aims : Aims desired flag target) (count : Nat) :
    Kept desired flag (zone.applyAll service ((plan desired.set.name
      desired.set.recordType (listing zone) target).take count)) where
  uniform := by
    refine uniform_applyAll unspecified.reported
      (fun write member => Cloudflare.planned (List.mem_of_mem_take member))
      ?_ kept.uniform
    intro aim aimed allowed
    obtain ⟨present, -, proxied⟩ := aims.of_some unspecified.unset aimed
    have reported := unspecified.reported
    unfold Reported at reported
    rw [if_pos allowed] at reported
    obtain ⟨setting, rfl⟩ := Option.isSome_iff_exists.mp reported
    rw [effectiveProxied_eq allowed proxied
      (fun record member => kept.uniform record (mem_of_mem_listing member))]
    rintro rfl
    exact listing_ne_nil (kept.backed rfl present).ne_nil
  backed := by
    intro flagged present
    have backed := kept.backed flagged present
    obtain ⟨expected, -, rfl⟩ := id aims
    obtain ⟨aim, aimed⟩ : ∃ aim, desired.target expected = some aim := by
      simp [DesiredRecord.target, present]
    obtain ⟨-, values, -⟩ := aims.of_some unspecified.unset aimed
    have parts : ∀ write ∈ (plan desired.set.name desired.set.recordType
        (listing zone) (some aim)).take count, Planned desired.set.name
          desired.set.recordType (listing zone) (some aim) write :=
      fun write member => Cloudflare.planned (List.mem_of_mem_take member)
    rw [aimed]
    by_cases standing : Standing desired zone
    · have stays : Standing desired (zone.applyAll service
          ((plan desired.set.name desired.set.recordType (listing zone)
            (some aim)).take count)) :=
        standing.applyAll values parts
      unfold Backed
      split
      · exact stays
      · exact stays.ne_nil
    · unfold Backed at backed ⊢
      split at backed
      · exact absurd backed standing
      · next other =>
        rw [if_neg other]
        exact nonempty_applyAll backed other values
          (unspecified.filled present) standing count

theorem Kept.read (kept : Kept desired flag zone) (fates : Nat → Fate)
    {found : Option Observed}
    (accepted : (Program.run (perform service) (get desired.set.name
      desired.set.recordType) fates ⟨zone, []⟩).1 = .ok found) :
    (found.map (·.set)).bind (·.proxied) = none ∨
      (found.map (·.set)).bind (·.proxied) = flag := by
  obtain rfl := eq_of_get service accepted
  cases listed : listing zone with
  | nil => exact .inl rfl
  | cons first rest =>
    have member : first ∈ zone.records := mem_of_mem_listing (by simp [listed])
    by_cases allowed : proxiable desired.set.recordType = true
    · right
      simp [observed, allowed, kept.uniform first member]
    · left
      simp [observed, allowed]

theorem Kept.replace (expected : Option RecordSet)
    (kept : Kept desired flag zone)
    (unspecified : Unspecified service desired flag)
    (aims : Aims desired flag target) (fates : Nat → Fate) :
    Kept desired flag (Program.run (perform service) (Cloudflare.replace
        desired.set.name desired.set.recordType expected target) fates
        ⟨zone, []⟩).2.zone ∧
      ∀ calls, Kept desired flag (Program.cutOff (perform service)
        (Cloudflare.replace desired.set.name desired.set.recordType expected
          target) fates calls ⟨zone, []⟩).zone := by
  have sat : Program.Sat (serviceView service (fun _ => True)
      fun world => Kept desired flag world.zone) (fun _ _ => True)
      (Cloudflare.replace desired.set.name desired.set.recordType expected
        target) ⟨zone, []⟩ :=
    replace_invariant kept fun count =>
      kept.applyAll unspecified aims count
  exact ⟨(sat.run (fun _ => trivial) kept).1,
    fun calls => sat.cutOff (fun _ => trivial) kept calls⟩

end Records

section Passes

open Program

variable {service : Service} {reconciler : Reconciler}
variable {compiled : CompiledDns} {desired : DesiredRecord}
variable {flag : Option Bool}

/-- A read of the record shows the setting or none. -/
def Shows (desired : DesiredRecord) (flag : Option Bool) :
    (op : Op) → Answer op → Prop
  | .get name recordType => fun answer =>
    name = desired.set.name → recordType = desired.set.recordType → ∀ found,
      answer = .ok found → (found.map (·.set)).bind (·.proxied) = none ∨
          (found.map (·.set)).bind (·.proxied) = flag
  | _ => fun _ => True

/-- A change of the record aims at the setting that was read. -/
def Leads (desired : DesiredRecord) (flag : Option Bool)
    (request : Request) : Prop :=
  request.name = desired.set.name →
    request.recordType = desired.set.recordType →
      Aims desired flag request.desired

theorem sends_leads (configured : desired ∈ reconciler.recordsFor compiled) :
    Pass.Sends (Shows desired flag) (Leads desired flag)
      (reconciler.reconcileProvider compiled) := by
  refine sends_reconcileProvider fun other member observed shown => ?_
  intro name recordType
  have same : other = desired := by
    refine List.inj_on_of_nodup_map recordsFor_nodup member configured ?_
    show recordKey other.set.name other.set.recordType =
      recordKey desired.set.name desired.set.recordType
    rw [show other.set.name = desired.set.name from name,
      show other.set.recordType = desired.set.recordType from recordType]
  subst same
  exact ⟨observed.map (·.set), shown rfl rfl observed rfl, rfl⟩

/-- The records of the configured one keep their setting. -/
def PassWorld.Keeps (desired : DesiredRecord) (flag : Option Bool)
    (world : PassWorld) : Prop :=
  Kept desired flag (world.zones desired.set.name desired.set.recordType)

theorem PassWorld.Keeps.change {world : PassWorld} {request : Request}
    (keeps : world.Keeps desired flag)
    (unspecified : Unspecified service desired flag)
    (leads : Leads desired flag request) (fate : PassFate) :
    (world.change service request fate).Keeps desired flag := by
  unfold PassWorld.change
  by_cases own : desired.set.name = request.name ∧
    desired.set.recordType = request.recordType
  · obtain ⟨name, recordType⟩ := own
    have replaced := Kept.replace request.expected keeps unspecified
      (leads name.symm recordType.symm) fate.api
    unfold PassWorld.Keeps PassWorld.zoneWorld
    split
    · simpa [PassWorld.setZone, name, recordType] using replaced.1
    · simpa [PassWorld.setZone, name, recordType] using replaced.2 _
  · have other : ∀ zone, (world.setZone request.name request.recordType
        zone).Keeps desired flag := by
      intro zone
      unfold PassWorld.Keeps
      rw [PassWorld.zones_setZone, if_neg own]
      exact keeps
    split
    · exact other _
    · exact other _

theorem PassWorld.Keeps.perform
    (unspecified : Unspecified service desired flag) (op : Op)
    (fate : PassFate) (world : PassWorld)
    (sends : op.Sends (Leads desired flag)) (keeps : world.Keeps desired flag) :
    Shows desired flag op (world.perform service op fate).1 ∧
      (world.perform service op fate).2.Keeps desired flag := by
  cases op with
  | get name recordType =>
    refine ⟨?_, keeps⟩
    rintro rfl rfl found accepted
    exact Kept.read keeps fate.api accepted
  | saveState state =>
    refine ⟨trivial, ?_⟩
    simp only [PassWorld.perform]
    split
    · exact keeps
    · split <;> exact keeps
  | replace request =>
    exact ⟨trivial, keeps.change unspecified sends fate⟩
  | _ => exact ⟨trivial, keeps⟩

theorem PassWorld.Keeps.take
    (configured : desired ∈ reconciler.recordsFor compiled)
    (unspecified : Unspecified service desired flag) {world : PassWorld}
    (turn : Turn) (keeps : world.Keeps desired flag) :
    (world.take service reconciler compiled turn).Keeps desired flag := by
  have calls := PassWorld.Keeps.perform unspecified
  unfold PassWorld.take
  split
  · exact (sends_leads configured).run calls turn.fates keeps
  · exact (sends_leads configured).cutOff calls turn.fates _ keeps

end Passes

/-- Whatever passes are made and wherever they are cut off, records without a
configured proxy setting keep theirs, unless a proxied CNAME gets another
target. -/
theorem unspecified_proxying_kept (service : Service)
    (reconciler : Reconciler) (compiled : CompiledDns)
    (desired : DesiredRecord) (world : PassWorld) (flag : Option Bool)
    (configured : desired ∈ reconciler.recordsFor compiled)
    (unset : desired.set.proxied = none)
    (filled : desired.absent = false → desired.set.values.Nonempty)
    (reported : Reported service desired.set.recordType flag)
    (present : (world.zones desired.set.name desired.set.recordType).records ≠
      [])
    (uniform : ∀ record ∈
      (world.zones desired.set.name desired.set.recordType).records,
        record.proxied = flag)
    (standing : desired.set.recordType = .cname → flag = some true →
      Standing desired (world.zones desired.set.name desired.set.recordType))
    (turns : List Turn) :
    ∀ record ∈ ((Run.after (PassWorld.take service reconciler compiled) world
        turns).zones desired.set.name desired.set.recordType).records,
      record.proxied = flag := by
  have start : world.Keeps desired flag := by
    refine ⟨uniform, fun flagged _ => ?_⟩
    unfold Backed
    split
    · next cname => exact standing cname flagged
    · exact present
  have keeps := Run.invariant start
    (fun _ turn => PassWorld.Keeps.take configured ⟨reported, unset, filled⟩
      turn) turns
  exact Kept.uniform keeps

section Runs

/-- The service accepts every call, and a change is cut off after the given
number of them. -/
def accepting (cut : Option Nat) : PassFate :=
  { failure := none
    written := false
    generation := 1
    lease := .ok none
    now := 0
    synced := .ok true
    timers := 0
    api := fun _ => Fate.success
    cut }

/-- The process ends during the change. -/
def crashing (calls : Nat) : Turn :=
  { fates := fun _ => accepting (some calls), stop := some 7 }

def completing : Turn := { fates := fun _ => accepting none, stop := none }

def onlyWriter : Reconciler :=
  { provider := "zone", settleSecs := 60, writer := .singleWriter }

/-- A record with automatic TTL and no configured proxy setting. -/
def automatic (recordType : RecordType) (value : String) : DesiredRecord :=
  { provider := "zone"
    set :=
      { name := "www.example.com"
        recordType
        ttl := 1
        values := {value}
        proxied := none }
    importExisting := false
    absent := false }

def configuring (desired : DesiredRecord) : CompiledDns :=
  { records := [desired], nodup := List.nodup_singleton _ }

/-- The record was applied with another value and then proxied. -/
def proxiedBefore (recordType : RecordType) (value : String) : PassWorld :=
  { file :=
      { writerGeneration := 1
        records := ProviderState.empty.records.insert
          (recordKey "www.example.com" recordType)
          { name := "www.example.com"
            recordType
            applied :=
              some { (automatic recordType
                value).set with proxied := some true }
            previous := none
            generation := 1
            pending := none
            updatedAt := 0 } }
    zones := fun _ _ =>
      { records := [⟨"1", value, 1, some true⟩]
        used := ["1"]
        known := by simp
        distinct := by simp }
    answer := .ok .immediate }

/-- An address is replaced, with the first attempt cut off. -/
def addressMoved : PassWorld :=
  Run.after (PassWorld.take lengthening onlyWriter
    (configuring (automatic .a "192.0.2.2")))
    (proxiedBefore .a "192.0.2.1") [crashing 2, completing]

theorem unspecified_proxying_kept_address :
    (addressMoved.zones "www.example.com" .a).records.map (·.content) =
      ["192.0.2.2"] ∧
      ∀ record ∈ (addressMoved.zones "www.example.com" .a).records,
        record.proxied = some true :=
  ⟨by decide +kernel, unspecified_proxying_kept lengthening onlyWriter
      (configuring (automatic .a "192.0.2.2")) (automatic .a "192.0.2.2")
      (proxiedBefore .a "192.0.2.1") (some true) (by decide +kernel) rfl
      (fun _ => Finset.singleton_nonempty _) rfl (by decide) (by decide)
      (fun cname => by cases cname) [crashing 2, completing]⟩

/-- The pass after the crash creates the new target without the setting; no
conflict is reported, and the pass after it finds nothing to do. -/
theorem cname_move_drops_proxying :
    let take := PassWorld.take lengthening onlyWriter
      (configuring (automatic .cname "new.example.net"))
    let outcomes := PassWorld.outcomes lengthening onlyWriter
      (configuring (automatic .cname "new.example.net"))
    let start := proxiedBefore .cname "old.example.net"
    let crashed := take start (crashing 2)
    let moved := take crashed completing
    (start.zones "www.example.com" .cname).records.map (·.proxied) =
        [some true] ∧
      (crashed.zones "www.example.com" .cname).records = [] ∧
      (outcomes crashed completing).map (·.action) =
        [.apply none (some (automatic .cname "new.example.net").set)] ∧
      (outcomes moved completing).map (·.action) = [.noChange] ∧
      ((take moved completing).zones "www.example.com" .cname).records.map
        (fun record => (record.content, record.proxied)) =
          [("new.example.net", some false)] := by
  decide +kernel

end Runs

end SieveTube.Dns.Cloudflare
