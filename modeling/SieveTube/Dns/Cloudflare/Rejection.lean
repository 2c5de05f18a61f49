import SieveTube.Dns.Cloudflare.Calls

/-!
# Conflicts in the middle of a change

A change at the provider is a sequence of separate writes, and any of them can
be answered with a conflict.  No write of a plan undoes an earlier one, so the
records are as before exactly when the conflict came before the first of
them.
-/

namespace SieveTube.Dns.Cloudflare

/-- The writes of a change.  All of them carry the same TTL and proxy setting,
and existing records are patched only where one of these differs. -/
inductive Planned (name : String) (recordType : RecordType)
    (records : List CfRecord) (desired : Option RecordSet) :
    Write → Prop where
  | patch {record : CfRecord} {set : RecordSet} (member : record ∈ records)
      (aim : desired = some set)
      (outdated : record.ttl ≠ set.ttl ∨ (proxiable recordType = true ∧
        record.proxied ≠
          some (effectiveProxied (observed name recordType records) set))) :
      Planned name recordType records desired (.patch record.id set.ttl
        (bodyProxied recordType (effectiveProxied
          (observed name recordType records) set)))
  | post {value : String} {set : RecordSet} (aim : desired = some set)
      (wanted : value ∈ set.values) :
      Planned name recordType records desired (.post recordType name
        (recordType.content value) set.ttl
        (bodyProxied recordType (effectiveProxied
          (observed name recordType records) set)))
  | delete {record : CfRecord}
      (unwanted : record ∈ obsolete recordType records desired) :
      Planned name recordType records desired (.delete record.id)

section Plan

variable {name : String} {recordType : RecordType}
variable {records : List CfRecord} {desired : Option RecordSet}

theorem planned_of_changesFor {set : RecordSet} {value : String}
    {change : Write} (aim : desired = some set) (wanted : value ∈ set.values)
    (member : change ∈ changesFor name recordType records set
      (effectiveProxied (observed name recordType records) set) value) :
    Planned name recordType records desired change := by
  unfold changesFor at member
  split at member
  · next record found =>
    split at member
    · next outdated =>
      obtain rfl := List.mem_singleton.mp member
      refine .patch (List.mem_of_find?_eq_some found) aim ?_
      simpa using outdated
    · cases member
  · obtain rfl := List.mem_singleton.mp member
    exact .post aim wanted

theorem planned {change : Write}
    (member : change ∈ plan name recordType records desired) :
    Planned name recordType records desired change := by
  have parts : change ∈ deletions recordType records desired ∨
      change ∈ settings name recordType records
        (observed name recordType records) desired := by
    unfold plan at member
    split at member
    · exact List.mem_append.mp member
    · exact (List.mem_append.mp member).symm
  rcases parts with deletion | setting
  · obtain ⟨record, unwanted, rfl⟩ := List.mem_map.mp deletion
    exact .delete unwanted
  · cases desired with
    | none => cases setting
    | some set =>
      obtain ⟨value, wanted, change⟩ := List.mem_flatMap.mp setting
      exact planned_of_changesFor rfl (Finset.mem_sort _ |>.mp wanted) change

theorem planned_patch {id : String} {ttl : UInt32} {proxied : Option Bool}
    (part : Planned name recordType records desired (.patch id ttl proxied)) :
    ∃ set, desired = some set ∧ ttl = set.ttl ∧
      proxied = bodyProxied recordType (effectiveProxied
        (observed name recordType records) set) := by
  cases part with
  | patch member aim outdated => exact ⟨_, aim, rfl, rfl⟩

theorem planned_post {createdType : RecordType} {createdName : String}
    {content : String} {ttl : UInt32} {proxied : Option Bool}
    (part : Planned name recordType records desired
      (.post createdType createdName content ttl proxied)) :
    ∃ set value, desired = some set ∧ value ∈ set.values ∧
      content = recordType.content value ∧ ttl = set.ttl ∧
      proxied = bodyProxied recordType (effectiveProxied
        (observed name recordType records) set) := by
  cases part with
  | post aim wanted => exact ⟨_, _, aim, wanted, rfl, rfl, rfl⟩

theorem planned_delete {id : String}
    (part : Planned name recordType records desired (.delete id)) :
    ∃ record ∈ obsolete recordType records desired, record.id = id := by
  cases part with
  | delete unwanted => exact ⟨_, unwanted, rfl⟩

end Plan

namespace Zone

variable {service : Service} {zone : Zone}

theorem applyAll_preserves {Holds : Zone → Prop} {changes : List Write}
    (step : ∀ change ∈ changes, ∀ current : Zone, Holds current →
      Holds (current.apply service change))
    (start : Holds zone) : Holds (zone.applyAll service changes) := by
  induction changes generalizing zone with
  | nil => exact start
  | cons change changes ih =>
    refine ih (fun later member => step later (.tail _ member)) ?_
    exact step change List.mem_cons_self zone start

theorem used_apply {change : Write} {id : String} (known : id ∈ zone.used) :
    id ∈ (zone.apply service change).used := by
  cases change with
  | patch _ _ _ | delete _ => exact known
  | post _ _ _ _ _ => exact List.mem_cons_of_mem _ known

theorem mem_apply {change : Write} {record : CfRecord}
    (member : record ∈ (zone.apply service change).records) :
    (∃ before ∈ zone.records,
      record.id = before.id ∧ record.content = before.content ∧
      (record = before ∨ ∃ ttl proxied, change = .patch before.id ttl proxied ∧
          record = before.patched before.id ttl proxied)) ∨
    (record.id ∉ zone.used ∧ ∃ recordType name ttl proxied,
      change = .post recordType name record.content ttl proxied ∧
        record.ttl = ttl ∧ record.proxied = proxied.or service.unproxied) := by
  cases change with
  | patch id ttl proxied =>
    obtain ⟨before, stored, rfl⟩ := List.mem_map.mp member
    refine .inl ⟨before, stored, CfRecord.patched_id ..,
      CfRecord.patched_content .., ?_⟩
    by_cases same : before.id = id
    · subst same
      exact .inr ⟨ttl, proxied, rfl, rfl⟩
    · exact .inl (by simp [CfRecord.patched, same])
  | post recordType name content ttl proxied =>
    rcases List.mem_append.mp member with stored | created
    · exact .inl ⟨record, stored, rfl, rfl, .inl rfl⟩
    · obtain rfl := List.mem_singleton.mp created
      exact .inr ⟨service.fresh_not_mem zone.used, recordType, name, ttl,
        proxied, rfl, rfl, rfl⟩
  | delete id =>
    exact .inl ⟨record, List.mem_of_mem_filter member, rfl, rfl, .inl rfl⟩

theorem exists_apply {change : Write} {record : CfRecord}
    (member : record ∈ zone.records) (kept : change ≠ .delete record.id) :
    ∃ later ∈ (zone.apply service change).records,
      later.id = record.id ∧ later.content = record.content := by
  cases change with
  | patch id ttl proxied =>
    exact ⟨_, List.mem_map_of_mem member, CfRecord.patched_id ..,
      CfRecord.patched_content ..⟩
  | post recordType name content ttl proxied =>
    exact ⟨record, List.mem_append_left _ member, rfl, rfl⟩
  | delete id =>
    refine ⟨record, List.mem_filter.mpr ⟨member, ?_⟩, rfl, rfl⟩
    simpa using fun same : record.id = id => kept (same ▸ rfl)

/-- An id that was used and is gone is never seen again. -/
theorem applyAll_absent {id : String} (known : id ∈ zone.used)
    (gone : ∀ record ∈ zone.records, record.id ≠ id)
    (changes : List Write) :
    ∀ record ∈ (zone.applyAll service changes).records, record.id ≠ id := by
  let Holds (zone : Zone) : Prop :=
    id ∈ zone.used ∧ ∀ record ∈ zone.records, record.id ≠ id
  have kept : Holds (zone.applyAll service changes) := by
    refine applyAll_preserves ?_ ⟨known, gone⟩
    rintro change - zone ⟨known, gone⟩
    refine ⟨used_apply known, fun record member => ?_⟩
    rcases mem_apply member with ⟨before, stored, same, _⟩ | ⟨new, _⟩
    · rw [same]
      exact gone before stored
    · exact fun same => new (same ▸ known)
  exact kept.2

theorem deleted_absent (zone : Zone) (id : String) :
    ∀ record ∈ (zone.delete id).records, record.id ≠ id := by
  simp [delete]

end Zone

section Persistence

variable {service : Service} {zone : Zone}
variable {name : String} {recordType : RecordType}
variable {records : List CfRecord} {desired : Option RecordSet}

/-- The settings a patch or a new record of a change gets. -/
def UpToDate (name : String) (recordType : RecordType)
    (records : List CfRecord) (set : RecordSet) (record : CfRecord) : Prop :=
  record.ttl = set.ttl ∧ (proxiable recordType = true →
    record.proxied =
      some (effectiveProxied (observed name recordType records) set))

theorem upToDate_patched {set : RecordSet} {record : CfRecord} :
    UpToDate name recordType records set (record.patched record.id set.ttl
      (bodyProxied recordType (effectiveProxied
        (observed name recordType records) set))) := by
  simp only [CfRecord.patched, if_true]
  refine ⟨rfl, fun allowed => ?_⟩
  simp [bodyProxied, allowed]

variable {set : RecordSet} {record : CfRecord}

theorem upToDate_patch (stored : record ∈ zone.records) :
    ∀ later ∈ (zone.patch record.id set.ttl (bodyProxied recordType
        (effectiveProxied (observed name recordType records) set))).records,
      later.id = record.id → UpToDate name recordType records set later := by
  intro later member same
  obtain ⟨before, found, rfl⟩ := List.mem_map.mp member
  rw [CfRecord.patched_id] at same
  obtain rfl := List.inj_on_of_nodup_map zone.distinct found stored same
  exact upToDate_patched

/-- A record after a write of a change is one from before, a patched one or
a new one. -/
theorem mem_apply_planned {change : Write}
    (part : Planned name recordType records desired change)
    (member : record ∈ (zone.apply service change).records) :
    (∃ before ∈ zone.records,
      record.id = before.id ∧ record.content = before.content ∧
      (record = before ∨ ∃ set, desired = some set ∧
        record = before.patched before.id set.ttl (bodyProxied recordType
          (effectiveProxied (observed name recordType records) set)))) ∨
    (record.id ∉ zone.used ∧ ∃ set value, desired = some set ∧
      value ∈ set.values ∧ record.content = recordType.content value ∧
      record.ttl = set.ttl ∧
      record.proxied = (bodyProxied recordType (effectiveProxied
        (observed name recordType records) set)).or service.unproxied) := by
  rcases Zone.mem_apply member with
    ⟨before, stored, sameId, sameContent, origin⟩ |
      ⟨new, createdType, createdName, ttl, proxied, rfl, sameTtl, setting⟩
  · refine .inl ⟨before, stored, sameId, sameContent, ?_⟩
    rcases origin with same | ⟨ttl, proxied, rfl, same⟩
    · exact .inl same
    · obtain ⟨set, aim, rfl, rfl⟩ := planned_patch part
      exact .inr ⟨set, aim, same⟩
  · obtain ⟨set, value, aim, wanted, content, rfl, rfl⟩ := planned_post part
    exact .inr ⟨new, set, value, aim, wanted, content, sameTtl, setting⟩

theorem upToDate_apply {change : Write} {id : String} (aim : desired = some set)
    (part : Planned name recordType records desired change)
    (known : id ∈ zone.used)
    (current : ∀ record ∈ zone.records, record.id = id →
      UpToDate name recordType records set record) :
    ∀ record ∈ (zone.apply service change).records, record.id = id →
      UpToDate name recordType records set record := by
  intro record member same
  rcases mem_apply_planned part member with
    ⟨before, stored, _, _, rfl | ⟨other, aimed, rfl⟩⟩ | ⟨new, _⟩
  · exact current record stored same
  · cases aim.symm.trans aimed
    exact upToDate_patched
  · exact absurd (same ▸ known) new

theorem not_upToDate
    (outdated : record.ttl ≠ set.ttl ∨ (proxiable recordType = true ∧
      record.proxied ≠
        some (effectiveProxied (observed name recordType records) set))) :
    ¬UpToDate name recordType records set record := by
  rintro ⟨ttl, proxied⟩
  rcases outdated with different | ⟨allowed, different⟩
  · exact different ttl
  · exact different (proxied allowed)

section

variable {changes : List Write}
variable (parts : ∀ change ∈ changes,
  Planned name recordType records desired change)
include parts

/-- A record that was brought up to date stays so. -/
theorem applyAll_upToDate {id : String} (aim : desired = some set)
    (known : id ∈ zone.used)
    (current : ∀ record ∈ zone.records, record.id = id →
      UpToDate name recordType records set record) :
    ∀ record ∈ (zone.applyAll service changes).records, record.id = id →
      UpToDate name recordType records set record := by
  let Holds (zone : Zone) : Prop :=
    id ∈ zone.used ∧ ∀ record ∈ zone.records, record.id = id →
      UpToDate name recordType records set record
  have kept : Holds (zone.applyAll service changes) := by
    refine Zone.applyAll_preserves ?_ ⟨known, current⟩
    rintro change member zone ⟨known, current⟩
    exact ⟨Zone.used_apply known,
      upToDate_apply aim (parts change member) known current⟩
  exact kept.2

/-- A record that no deletion of a change is about stays. -/
theorem exists_applyAll_of_spared (Spared : String → String → Prop)
    (spared : ∀ old ∈ obsolete recordType records desired, ∀ content,
      ¬Spared old.id content)
    (present : ∃ record ∈ zone.records, Spared record.id record.content) :
    ∃ record ∈ (zone.applyAll service changes).records,
      Spared record.id record.content := by
  let Holds (zone : Zone) : Prop :=
    ∃ record ∈ zone.records, Spared record.id record.content
  have kept : Holds (zone.applyAll service changes) := by
    refine Zone.applyAll_preserves ?_ present
    rintro change member zone ⟨record, stored, safe⟩
    have undeleted : change ≠ .delete record.id := by
      rintro rfl
      obtain ⟨old, unwanted, same⟩ := planned_delete (parts _ member)
      exact spared old unwanted _ (same ▸ safe)
    obtain ⟨later, found, sameId, sameContent⟩ :=
      Zone.exists_apply stored undeleted
    exact ⟨later, found, by rwa [sameId, sameContent]⟩
  exact kept

theorem applyAll_present {id : String}
    (foreign : ∀ record ∈ records, record.id ≠ id)
    (present : ∃ record ∈ zone.records, record.id = id) :
    ∃ record ∈ (zone.applyAll service changes).records, record.id = id :=
  exists_applyAll_of_spared parts (fun other _ => other = id)
    (fun old unwanted _ => foreign old (List.mem_of_mem_filter unwanted))
    present

/-- No write of a change undoes the ones before it. -/
theorem applyAll_ne (listed : ∀ record ∈ records, record ∈ zone.records)
    (started : changes ≠ []) :
    (zone.applyAll service changes).records ≠ zone.records := by
  obtain ⟨first, rest, rfl⟩ := List.exists_cons_of_ne_nil started
  have later := fun change member => parts change (.tail first member)
  intro same
  cases parts first List.mem_cons_self with
  | @patch record set member aim outdated =>
    have stored := listed record member
    have known : record.id ∈ (zone.patch record.id set.ttl
        (bodyProxied recordType (effectiveProxied
          (observed name recordType records) set))).used :=
      zone.known record stored
    have settled := applyAll_upToDate later aim known
      (upToDate_patch stored) record (same ▸ stored) rfl
    exact not_upToDate outdated settled
  | @post value set aim wanted =>
    have foreign : ∀ record ∈ records,
        record.id ≠ service.fresh zone.used := fun record member reused =>
      service.fresh_not_mem zone.used
        (reused ▸ zone.known record (listed record member))
    have present : ∃ record ∈ (zone.post service
        (recordType.content value) set.ttl (bodyProxied recordType
          (effectiveProxied (observed name recordType records)
            set))).records, record.id = service.fresh zone.used :=
      ⟨_, List.mem_append_right zone.records List.mem_cons_self, rfl⟩
    obtain ⟨record, stored, created⟩ := applyAll_present later foreign present
    exact service.fresh_not_mem zone.used
      (created ▸ zone.known record (same ▸ stored))
  | @delete record unwanted =>
    have stored := listed record (List.mem_of_mem_filter unwanted)
    have known : record.id ∈ (zone.delete record.id).used :=
      zone.known record stored
    have gone : ∀ later ∈ ((zone.delete record.id).applyAll service
        rest).records, later.id ≠ record.id :=
      Zone.applyAll_absent known (zone.deleted_absent record.id) rest
    exact gone record (same ▸ stored) rfl

end

/-- A part of a plan leaves the records as they are only if it is empty. -/
theorem applyAll_take_eq_iff {count : Nat}
    (listed : ∀ record ∈ records, record ∈ zone.records)
    (within : count < (plan name recordType records desired).length) :
    (zone.applyAll service
        ((plan name recordType records desired).take count)).records =
      zone.records ↔ count = 0 := by
  constructor
  · intro same
    by_contra later
    have started : (plan name recordType records desired).take count ≠ [] := by
      rw [Ne, List.take_eq_nil_iff, not_or]
      exact ⟨later, List.ne_nil_of_length_pos (Nat.zero_lt_of_lt within)⟩
    exact applyAll_ne (fun change made => planned (List.mem_of_mem_take made))
      listed started same
  · rintro rfl
    rfl

end Persistence

section Answers

variable {service : Service}

/-- A conflict is reported by the first write that failed, and that write was
not made. -/
theorem writes_run {changes : List Write} {ticket : ChangeTicket}
    {fates : Nat → Fate} {world : World} {reason : String}
    (rejected : (Program.run (perform service)
      (do forM changes write; return ticket : Calls ChangeTicket) fates
        world).1 = .error (.conflict reason)) :
    ∃ count < changes.length, ((fates 0).fails = true ↔ count = 0) ∧
      (Program.run (perform service)
        (do forM changes write; return ticket : Calls ChangeTicket) fates
          world).2.zone = world.zone.applyAll service (changes.take count) := by
  induction changes generalizing fates world with
  | nil => cases rejected
  | cons change changes ih =>
    have first : (do forM (change :: changes) write; return ticket :
        Calls ChangeTicket) =
      (do let _ ← call (.write change); forM changes write; return ticket) := by
      simp [List.forM_cons, write]
    rw [first, run_call] at rejected ⊢
    simp only [perform] at rejected ⊢
    cases outcome : (fates 0).exchange.outcome with
    | error error =>
      rw [outcome] at rejected
      obtain rfl : error = .conflict reason := Except.error.inj rejected
      refine ⟨0, Nat.succ_pos _, by simp [Fate.fails, outcome, Except.isOk,
        Except.toBool], ?_⟩
      rw [takesEffect_eq.2 reason outcome]
      rfl
    | ok envelope =>
      rw [outcome] at rejected
      obtain ⟨count, within, -, reached⟩ := ih rejected
      refine ⟨count + 1, Nat.succ_lt_succ within, ?_, ?_⟩
      · simp [Fate.fails, outcome, Except.isOk, Except.toBool]
      refine reached.trans ?_
      rw [takesEffect_eq.1 envelope outcome]
      rfl

end Answers

/-- After a conflict the records are as before exactly when the check of the
listing refused the change, or a call up to the first write failed. -/
theorem conflict_unchanged_iff (service : Service) (name : String)
    (recordType : RecordType) (expected desired : Option RecordSet)
    (zone : Zone) (fates : Nat → Fate) (reason : String)
    (rejected : (Program.run (perform service)
      (replace name recordType expected desired) fates ⟨zone, []⟩).1 =
        .error (.conflict reason)) :
    (Program.run (perform service) (replace name recordType expected desired)
        fates ⟨zone, []⟩).2.zone.records = zone.records ↔
      refusal name recordType expected (listing zone) ≠ none ∨
        ∃ index ≤ listCalls zone, (fates index).fails = true := by
  have lists := run_list service name recordType
    (afterListing name recordType expected desired) ⟨zone, []⟩ fates
  rw [← replace_eq] at lists
  generalize Program.run (perform service)
    (replace name recordType expected desired) fates ⟨zone, []⟩ = ending
    at rejected lists ⊢
  cases lists with
  | failed early failing =>
    exact ⟨fun _ => .inr ⟨_, early.le, failing⟩, fun _ => rfl⟩
  | listed smooth =>
    cases refused : refusal name recordType expected (listing zone) with
    | some reason =>
      simp only [afterListing, refused]
      exact ⟨fun _ => .inl (by simp), fun _ => rfl⟩
    | none =>
      simp only [afterListing, refused] at rejected ⊢
      obtain ⟨count, within, first, reached⟩ := writes_run rejected
      have only : (∃ index ≤ listCalls zone, (fates index).fails = true) ↔
          count = 0 := by
        rw [← first, Nat.zero_add]
        refine ⟨?_, fun failing => ⟨_, le_rfl, failing⟩⟩
        rintro ⟨index, early, failing⟩
        rcases early.lt_or_eq with before | rfl
        · rw [smooth index before] at failing
          cases failing
        · exact failing
      rw [reached, only]
      simpa using applyAll_take_eq_iff (fun _ => mem_of_mem_listing) within

section Runs

/-- A service that makes a new id longer than all ids before it. -/
def lengthening : Service where
  fresh used := String.ofList (used.flatMap String.toList ++ ['+'])
  fresh_not_mem := by
    intro used reused
    have part := List.sublist_flatten_of_mem
      (List.mem_map_of_mem (f := String.toList) reused)
    have shorter := part.length_le
    simp [List.flatMap] at shorter
  unproxied := some false

/-- A name with one alias. -/
def aliased : Zone where
  records := [⟨"1", "old.example.com", 300, some false⟩]
  used := ["1"]
  known := by simp
  distinct := by simp

def aliasSet (target : String) : RecordSet :=
  { name := "www.example.com"
    recordType := .cname
    ttl := 300
    values := {target}
    proxied := some false }

/-- The call with the given number is answered with a conflict code. -/
def rejecting (number index : Nat) : Fate :=
  if index = number then
    { exchange := .answered ⟨400, "400 Bad Request"⟩ none (.ok
        { success := false
          errors := [⟨81053, "record with that host already exists"⟩]
          result := none
          totalPages := none })
      applied := false }
  else Fate.success

def renamed (desired : Option RecordSet) (number : Nat) :
    Except DnsError ChangeTicket × World :=
  Program.run (perform lengthening)
    (replace "www.example.com" .cname (some (aliasSet "old.example.com"))
      desired) (rejecting number) ⟨aliased, []⟩

theorem conflict_unchanged_iff_delete :
    (renamed none 1).1 =
        .error (.conflict "record with that host already exists (81053)") ∧
      (renamed none 1).2.zone.records = aliased.records :=
  ⟨rfl, (conflict_unchanged_iff lengthening "www.example.com" .cname
      (some (aliasSet "old.example.com")) none aliased (rejecting 1)
      "record with that host already exists (81053)" rfl).mpr
    (.inr ⟨1, by decide, rfl⟩)⟩

theorem conflict_after_delete :
    (renamed (some (aliasSet "new.example.com")) 2).1 =
        .error (.conflict "record with that host already exists (81053)") ∧
      aliased.records.length = 1 ∧
      (renamed (some (aliasSet "new.example.com")) 2).2.zone.records = [] := by
  unfold renamed replace applyValues
  simp only [aliasSet, Finset.sort_singleton]
  exact ⟨rfl, rfl, rfl⟩

end Runs

end SieveTube.Dns.Cloudflare
