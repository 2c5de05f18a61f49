import SieveTube.Dns.Cloudflare.Stage

/-!
# Changes that are cut off

The next pass resumes a change that was cut off if what it then reads is a
supported record set between the expected and the desired one.  Values are
never a problem; the settings are, when a change writes a new TTL or proxy
setting value by value while other records still have the old one.
-/

namespace SieveTube.Dns.Cloudflare

theorem Zone.mem_applyAll_deletions {service : Service} {zone : Zone}
    {old : List CfRecord} {record : CfRecord} :
    record ∈
      (zone.applyAll service (old.map fun removed =>
        .delete removed.id)).records ↔
      record ∈ zone.records ∧ ∀ removed ∈ old, record.id ≠ removed.id := by
  induction old generalizing zone with
  | nil => simp [Zone.applyAll]
  | cons first old ih =>
    refine ih.trans ?_
    simp [Zone.apply, Zone.delete, and_assoc]

theorem Stage.agree_of_new {change : Change} {zone : Zone}
    {rest : List Write} (stage : Stage change rest zone)
    (new : ∀ record ∈ zone.records, change.New record) :
    Agree zone.records := by
  intro first firstMember second secondMember
  obtain ⟨aim, aimed, ttl, proxied⟩ := new first firstMember
  obtain ⟨other, otherAimed, otherTtl, otherProxied⟩ := new second secondMember
  cases aimed.symm.trans otherAimed
  refine Prod.ext (ttl.trans otherTtl.symm) ?_
  cases allowed : proxiable change.recordType with
  | true => exact (proxied allowed).trans (otherProxied allowed).symm
  | false =>
    exact (stage.plain allowed first firstMember).trans
      (stage.plain allowed second secondMember).symm

namespace Change

variable (change : Change)

/-- The change writes the TTL and the proxy setting that are there. -/
def Unaltered (source aim : RecordSet) : Prop :=
  source.ttl = aim.ttl ∧ (proxiable change.recordType = true →
    source.proxied = some ((aim.proxied.or source.proxied).getD false))

/-- The values whose records are there when the first record is patched or
created. -/
def remaining (source aim : RecordSet) : Finset String :=
  if change.recordType = .cname then source.values ∩ aim.values
  else source.values

/-- The settings are not altered, or the first record that is written is the
only one. -/
def Even : Prop :=
  ∀ source aim, change.expected = some source →
    change.target = some aim → change.Unaltered source aim ∨
      ∀ first, aim.values.sort.head? = some first →
        change.remaining source aim ⊆ {first}

/-- The deletions that precede all other writes. -/
def leading : List Write :=
  if change.recordType = .cname then
    deletions change.recordType change.records change.target
  else []

def trailing : List Write :=
  if change.recordType = .cname then []
  else deletions change.recordType change.records change.target

theorem writes_eq : change.writes = change.leading ++
    (settings change.name change.recordType change.records change.current
      change.target ++ change.trailing) := by
  unfold writes plan leading trailing
  split <;> simp [current]

/-- The zone once the leading deletions are made. -/
def cleared : Zone := change.zone.applyAll change.service change.leading

variable {change} {source aim : RecordSet}
variable {record : CfRecord}

theorem upToDate_iff (expected : change.expected = some source)
    (member : record ∈ change.records) :
    UpToDate change.name change.recordType change.records aim record ↔
      change.Unaltered source aim := by
  obtain ⟨set, same, ttl, proxied⟩ := expected_settings member
  cases expected.symm.trans same
  have current : (observed change.name change.recordType
      change.records).bind (·.set.proxied) = source.proxied := by
    have read : (change.current.map (·.set)).bind (·.proxied) =
        source.proxied := by
      rw [← Change.expected, expected]
      rfl
    rwa [Option.bind_map] at read
  unfold UpToDate Unaltered effectiveProxied
  rw [current, ttl]
  refine and_congr_right fun _ => forall_congr' fun allowed => ?_
  rw [proxied, if_pos allowed]

theorem mem_cleared :
    record ∈ change.cleared.records ↔ record ∈ change.records ∧
      (change.recordType = .cname → record ∉ obsolete change.recordType
        change.records change.target) := by
  unfold cleared leading
  split
  · next cname =>
    rw [deletions, Zone.mem_applyAll_deletions]
    refine and_congr_right fun member => ?_
    constructor
    · intro distinct _ unwanted
      exact distinct record unwanted rfl
    · intro wanted removed unwanted same
      have listed := List.mem_of_mem_filter unwanted
      obtain rfl := List.inj_on_of_nodup_map change.zone.distinct member listed
        same
      exact wanted cname unwanted
  · next other => simp [other, Zone.applyAll, records]

/-- The writes of a change keep what was brought up to date. -/
theorem new_applyAll {zone : Zone} {writes : List Write}
    (parts : ∀ write ∈ writes, write ∈ change.writes)
    (new : ∀ record ∈ zone.records, change.New record) :
    ∀ record ∈ (zone.applyAll change.service writes).records,
      change.New record := by
  let Holds (zone : Zone) : Prop := ∀ record ∈ zone.records, change.New record
  have kept : Holds (zone.applyAll change.service writes) := by
    refine Zone.applyAll_preserves ?_ new
    intro write member zone new record stored
    rcases mem_apply_planned (change.planned_of_mem (parts write member))
      stored with ⟨before, earlier, _, _, rfl | ⟨aim, aimed, rfl⟩⟩ |
        ⟨_, aim, _, aimed, _, _, ttl, proxied⟩
    · exact new record earlier
    · exact ⟨aim, aimed, upToDate_patched⟩
    · exact ⟨aim, aimed, upToDate_created ttl proxied⟩
  exact kept

theorem agree_of_subset {records : List CfRecord}
    (part : ∀ record ∈ records, record ∈ change.records) :
    Agree records := fun first firstMember second secondMember =>
  change.legible.2 first (part first firstMember) second
    (part second secondMember)

/-- As long as only deletions are made, the records agree. -/
theorem agree_of_deletions {count : Nat} {removed : List CfRecord}
    (deletions : change.writes.take count = removed.map fun record =>
      .delete record.id) :
    Agree (change.after count).records := by
  apply change.agree_of_subset
  intro record member
  rw [after, deletions] at member
  exact (Zone.mem_applyAll_deletions.mp member).1

variable {value : String}

theorem mem_source (expected : change.expected = some source) :
    value ∈ source.values ↔ ∃ record ∈ change.records,
      valueOf change.recordType record = some value := by
  have same : valuesOf change.expected = source.values := by
    rw [expected]
    rfl
  rw [← same]
  exact mem_values

theorem mem_obsolete_iff (aimed : change.target = some aim)
    (member : record ∈ change.records)
    (found : valueOf change.recordType record = some value) :
    record ∈ obsolete change.recordType change.records change.target ↔
      value ∉ aim.values := by
  simp [obsolete, member, found, aimed]

/-- The values of the records that the leading deletions leave. -/
theorem mem_remaining (expected : change.expected = some source)
    (aimed : change.target = some aim) :
    value ∈ change.remaining source aim ↔ ∃ record ∈ change.cleared.records,
        valueOf change.recordType record = some value := by
  have kept : ∀ record ∈ change.records,
      valueOf change.recordType record = some value →
        (record ∈ change.cleared.records ↔
          (change.recordType = .cname → value ∈ aim.values)) := by
    intro record member found
    rw [mem_cleared, mem_obsolete_iff aimed member found, not_not]
    exact and_iff_right member
  unfold remaining
  constructor
  · intro present
    have sourceMember : value ∈ source.values := by
      split at present
      · exact (Finset.mem_inter.mp present).1
      · exact present
    obtain ⟨record, member, found⟩ := (mem_source expected).mp sourceMember
    refine ⟨record, (kept record member found).mpr ?_, found⟩
    intro cname
    rw [if_pos cname] at present
    exact (Finset.mem_inter.mp present).2
  · rintro ⟨record, member, found⟩
    have listed := (mem_cleared.mp member).1
    have sourceMember := (mem_source expected).mpr ⟨record, listed, found⟩
    split
    · next cname =>
      exact Finset.mem_inter.mpr
        ⟨sourceMember, (kept record listed found).mp member cname⟩
    · exact sourceMember

/-- How the first record is written once the leading deletions are made. -/
inductive FirstWrite (change : Change) (aim : RecordSet)
    (value : String) : Write → Prop where
  | patch {record : CfRecord} (member : record ∈ change.records)
      (found : valueOf change.recordType record = some value) :
      FirstWrite change aim value (.patch record.id aim.ttl (bodyProxied
        change.recordType (effectiveProxied change.current aim)))
  | post (absent : ∀ record ∈ change.records,
      valueOf change.recordType record ≠ some value) :
      FirstWrite change aim value (.post change.recordType change.name
        (change.recordType.content value) aim.ttl (bodyProxied
          change.recordType (effectiveProxied change.current aim)))

/-- The first write that is not a leading deletion, when the settings are
altered. -/
theorem settings_eq_cons (expected : change.expected = some source)
    (aimed : change.target = some aim) (altered : ¬change.Unaltered source aim)
    (first : aim.values.sort.head? = some value) :
    ∃ write rest, settings change.name change.recordType change.records
        change.current change.target = write :: rest ∧
      change.FirstWrite aim value write := by
  obtain ⟨values, sorted⟩ := List.head?_eq_some_iff.mp first
  rw [aimed, settings, sorted, List.flatMap_cons]
  cases found : change.records.find? fun record =>
      valueOf change.recordType record = some value with
  | none =>
    simp only [changesFor, found]
    refine ⟨_, _, rfl, .post ?_⟩
    intro record member
    simpa using List.find?_eq_none.mp found record member
  | some record =>
    have member := List.mem_of_find?_eq_some found
    have matching : valueOf change.recordType record = some value := by
      simpa using List.find?_some found
    have outdated : ¬UpToDate change.name change.recordType change.records aim
        record :=
      fun current => altered ((upToDate_iff expected member).mp current)
    have written : (record.ttl ≠ aim.ttl ||
        (proxiable change.recordType && record.proxied ≠
          some (effectiveProxied change.current aim))) = true := by
      by_contra unchanged
      refine outdated (show record.ttl = aim.ttl ∧
        (proxiable change.recordType = true → record.proxied =
          some (effectiveProxied change.current aim)) from ?_)
      simpa using unchanged
    simp only [changesFor, found, written, if_true]
    exact ⟨_, _, rfl, .patch member matching⟩

/-- If no other record is left, everything is up to date after it. -/
theorem new_of_alone (aimed : change.target = some aim) {write : Write}
    (first : change.FirstWrite aim value write)
    (alone : ∀ record ∈ change.cleared.records,
      valueOf change.recordType record = some value) :
    ∀ record ∈ (change.cleared.apply change.service write).records,
      change.New record := by
  intro record member
  cases first with
  | @patch source listed found =>
    obtain ⟨before, stored, rfl⟩ := List.mem_map.mp member
    have same := (alone before stored).trans found.symm
    obtain rfl := List.inj_on_of_nodup_map change.legible.1.distinct
      (mem_cleared.mp stored).1 listed same
    exact ⟨aim, aimed, upToDate_patched⟩
  | post absent =>
    rcases List.mem_append.mp member with stored | created
    · exact absurd (alone record stored)
        (absent record (mem_cleared.mp stored).1)
    · obtain rfl := List.mem_singleton.mp created
      exact ⟨aim, aimed, upToDate_created rfl rfl⟩

/-- Another record that is left keeps its old settings. -/
theorem mixed_of_other (expected : change.expected = some source)
    (aimed : change.target = some aim) (altered : ¬change.Unaltered source aim)
    (wanted : value ∈ aim.values) {write : Write}
    (first : change.FirstWrite aim value write) {other : CfRecord}
    (left : other ∈ change.cleared.records)
    (different : valueOf change.recordType other ≠ some value) :
    ¬Agree (change.cleared.apply change.service write).records := by
  intro agree
  have listed := (mem_cleared.mp left).1
  suffices parts : other ∈ (change.cleared.apply change.service write).records ∧
      ∃ record ∈ (change.cleared.apply change.service write).records,
        UpToDate change.name change.recordType change.records aim record by
    obtain ⟨kept, record, member, ttl, proxied⟩ := parts
    have same := agree other kept record member
    have sameTtl : other.ttl = record.ttl := congrArg Prod.fst same
    have sameProxied : other.proxied = record.proxied := congrArg Prod.snd same
    apply altered
    rw [← upToDate_iff expected listed]
    exact ⟨sameTtl.trans ttl,
      fun allowed => sameProxied.trans (proxied allowed)⟩
  cases first with
  | @patch record member found =>
    have stored : record ∈ change.cleared.records := by
      rw [mem_cleared, mem_obsolete_iff aimed member found, not_not]
      exact ⟨member, fun _ => wanted⟩
    have distinct : other.id ≠ record.id := by
      intro same
      obtain rfl := List.inj_on_of_nodup_map change.zone.distinct listed member
        same
      exact different found
    refine ⟨List.mem_map.mpr ⟨other, left, if_neg distinct⟩, _,
      List.mem_map_of_mem stored, upToDate_patched⟩
  | post absent =>
    exact ⟨List.mem_append_left _ left, _,
      List.mem_append_right _ List.mem_cons_self, upToDate_created rfl rfl⟩

theorem agree_of_settings_eq_nil
    (unset : settings change.name change.recordType change.records
      change.current change.target = []) (count : Nat) :
    Agree (change.after count).records := by
  have deletes : change.writes = (obsolete change.recordType change.records
      change.target).map fun record => .delete record.id := by
    rw [writes_eq, unset]
    unfold leading trailing deletions
    split <;> simp
  apply agree_of_deletions
  rw [deletes, ← List.map_take]

theorem agree_of_new_start
    (new : ∀ record ∈ change.records, change.New record) {count : Nat} :
    Agree (change.after count).records :=
  change.stage_after.agree_of_new
    (new_applyAll (fun _ => List.mem_of_mem_take) new)

/-- The first record is written when nothing else is left, so the records
agree before and after it. -/
theorem agree_of_alone (expected : change.expected = some source)
    (aimed : change.target = some aim) (altered : ¬change.Unaltered source aim)
    (first : aim.values.sort.head? = some value)
    (alone : change.remaining source aim ⊆ {value}) (count : Nat) :
    Agree (change.after count).records := by
  obtain ⟨write, rest, split, firstWrite⟩ :=
    settings_eq_cons expected aimed altered first
  have writes : change.writes =
      change.leading ++ write :: (rest ++ change.trailing) := by
    rw [writes_eq, split, List.cons_append]
  by_cases leading : count ≤ change.leading.length
  · have deletes : ∃ removed : List CfRecord, change.leading =
        removed.map fun record => .delete record.id := by
      unfold Change.leading
      split
      · exact ⟨_, rfl⟩
      · exact ⟨[], rfl⟩
    obtain ⟨removed, same⟩ := deletes
    apply agree_of_deletions
    rw [writes, List.take_append_of_le_length leading, same, ← List.map_take]
  · obtain ⟨later, rfl⟩ : ∃ later,
        count = change.leading.length + (later + 1) :=
      ⟨count - change.leading.length - 1, by omega⟩
    have reached : change.after (change.leading.length + (later + 1)) =
        (change.cleared.apply change.service write).applyAll change.service
          ((rest ++ change.trailing).take later) := by
      rw [after, writes, List.take_length_add_append,
        List.take_succ_cons, Zone.applyAll, List.foldl_append]
      rfl
    apply change.stage_after.agree_of_new
    rw [reached]
    apply new_applyAll
    · intro write member
      rw [writes]
      exact List.mem_append_right _ (.tail _ (List.mem_of_mem_take member))
    · apply new_of_alone aimed firstWrite
      intro record member
      obtain ⟨found, same⟩ :=
        change.legible.1.value record (mem_cleared.mp member).1
      have remains :=
        alone ((mem_remaining expected aimed).mpr ⟨record, member, same⟩)
      rw [same, Finset.mem_singleton.mp remains]

theorem agree_of_even (even : change.Even) {count : Nat} :
    Agree (change.after count).records := by
  cases aimed : change.target with
  | none => exact agree_of_settings_eq_nil (by rw [aimed]; rfl) count
  | some aim =>
    cases expected : change.expected with
    | none =>
      refine agree_of_new_start (fun record member => ?_)
      obtain ⟨set, same, _⟩ := expected_settings member
      cases expected.symm.trans same
    | some source =>
      by_cases unaltered : change.Unaltered source aim
      · refine agree_of_new_start (fun record member => ?_)
        exact ⟨aim, aimed, (upToDate_iff expected member).mpr unaltered⟩
      · have alone := (even source aim expected aimed).resolve_left unaltered
        cases first : aim.values.sort.head? with
        | none =>
          refine agree_of_settings_eq_nil ?_ count
          rw [aimed, settings, List.head?_eq_none_iff.mp first]
          rfl
        | some value =>
          exact agree_of_alone expected aimed unaltered first
            (alone value first) count

/-- The records agree after every number of writes exactly if the change is
even. -/
theorem agree_iff_even :
    (∀ count ≤ change.writes.length, Agree (change.after count).records) ↔
      change.Even := by
  constructor
  · intro agree source aim expected aimed
    by_contra uneven
    obtain ⟨altered, others⟩ := not_or.mp uneven
    simp only [not_forall] at others
    obtain ⟨value, first, others⟩ := others
    obtain ⟨other, remains, different⟩ := Finset.not_subset.mp others
    obtain ⟨write, rest, split, firstWrite⟩ :=
      settings_eq_cons expected aimed altered first
    obtain ⟨record, left, found⟩ := (mem_remaining expected aimed).mp remains
    have writes : change.writes =
        change.leading ++ write :: (rest ++ change.trailing) := by
      rw [writes_eq, split, List.cons_append]
    have reached : change.after (change.leading.length + 1) =
        change.cleared.apply change.service write := by
      rw [after, writes, List.take_length_add_append,
        List.take_succ_cons, Zone.applyAll, List.foldl_append]
      rfl
    have wanted : value ∈ aim.values :=
      (Finset.mem_sort _).mp (List.mem_of_mem_head? first)
    refine mixed_of_other expected aimed altered wanted firstWrite
      left ?_ (reached ▸ agree (change.leading.length + 1) ?_)
    · rw [found]
      intro same
      exact different (Finset.mem_singleton.mpr (Option.some.inj same))
    · rw [writes]
      simp
  · exact fun even count _ => agree_of_even even

variable (change)

theorem listed : change.zone.records.length ≤ pageSize * maxPages :=
  change.stage_start.listed

theorem refusal_eq_none : refusal change.name change.recordType change.expected
      change.zone.records = none := by
  have supported : (observed change.name change.recordType
      change.zone.records).bind (·.unsupported) = none := change.supported
  have same : sameOptional ((observed change.name change.recordType
      change.zone.records).map (·.set)) change.expected = true :=
    sameOptional_refl _
  simp [refusal, supported, same]

theorem exists_after (fates : Nat → Fate) (calls : Nat) :
    ∃ count, (Program.cutOff (perform change.service) change.program fates
      calls ⟨change.zone, []⟩).zone = change.after count := by
  let Kept (zone : Zone) : Prop := ∃ count, zone = change.after count
  have start : Kept change.zone := ⟨0, rfl⟩
  have sat : Program.Sat (serviceView change.service (fun _ => True)
      fun world => Kept world.zone) (fun _ _ => True) change.program
      ⟨change.zone, []⟩ := by
    refine replace_invariant start ?_
    intro count
    rw [listing_of_few change.listed]
    exact ⟨count, rfl⟩
  exact sat.cutOff (fun _ => trivial) start calls

theorem exists_cutOff {count : Nat} (within : count ≤ change.writes.length) :
    ∃ fates calls, (Program.cutOff (perform change.service) change.program
      fates calls ⟨change.zone, []⟩).zone = change.after count :=
  exists_cutOff_replace change.service change.listed
    change.refusal_eq_none within

end Change

/-- A change is carried on with after every cut exactly if it is even. -/
theorem interrupted_change_resumes_iff (change : Change) :
    (∀ fates calls, change.Resumes (Program.cutOff
      (perform change.service) change.program fates calls
      ⟨change.zone, []⟩)) ↔ change.Even := by
  rw [← Change.agree_iff_even]
  constructor
  · intro resumes count within
    obtain ⟨fates, calls, reached⟩ := change.exists_cutOff within
    have stage := reached.symm ▸ change.stage_after
    have agree := stage.resumes_iff.mp (resumes fates calls)
    rwa [reached] at agree
  · intro agree fates calls
    obtain ⟨count, reached⟩ := change.exists_after fates calls
    have stage := reached.symm ▸ change.stage_after
    refine stage.resumes_iff.mpr ?_
    rw [reached]
    exact Change.agree_of_even (Change.agree_iff_even.mp agree)

section Runs

/-- A TXT record gets another value and another TTL. -/
def verification : Change where
  service := lengthening
  zone :=
    { records := [⟨"1", "\"old\"", 300, some false⟩]
      used := ["1"]
      known := by simp
      distinct := by simp }
  desired :=
    { provider := "zone"
      set :=
        { name := "example.com"
          recordType := .txt
          ttl := 600
          values := {"new"}
          proxied := none }
      importExisting := false
      absent := false }
  supported := by decide +kernel
  canonical := by
    intro value member
    obtain rfl := Finset.mem_singleton.mp member
    exact ⟨"new", by decide +kernel⟩
  unproxied := by simp [lengthening]
  listable := by decide

/-- The new record was created, the old one not yet deleted. -/
def halfVerified : World :=
  Program.cutOff (perform lengthening) verification.program
    (fun _ => Fate.success) 2 ⟨verification.zone, []⟩

def verificationItem : Item :=
  { generation := 1
    now := 0
    state := withIntent ProviderState.empty verification.desired
      verification.expected verification.target 1 0
    desired := verification.desired
    rest := [] }

theorem new_ttl_conflicts :
    ∃ fates found, (Program.run (perform lengthening)
        (get "example.com" .txt) fates halfVerified).1 = .ok found ∧
      Reconciler.action
        { provider := "zone", settleSecs := 60, writer := .singleWriter }
          (verificationItem.settle found) found =
        .conflict
          "provider record cannot be managed: records with different TTLs" := by
  have target : verification.target = some verification.desired.set := rfl
  have zone : halfVerified.zone.records =
      [⟨"1", "\"old\"", 300, some false⟩,
        ⟨"1+", "\"new\"", 600, some false⟩] := by
    unfold halfVerified Change.program replace applyValues
    rw [target]
    simp only [verification, Finset.sort_singleton]
    rfl
  have few : halfVerified.zone.records.length ≤ pageSize * maxPages := by
    rw [zone]
    decide
  obtain ⟨fates, read⟩ := (get_run lengthening "example.com" .txt few).2
  refine ⟨fates, _, read, ?_⟩
  decide +kernel

end Runs

end SieveTube.Dns.Cloudflare
