import SieveTube.Dns.ChallengeSafety
import SieveTube.Dns.Compile
import SieveTube.Dns.Requests

/-!
# Confinement to the configured zones

Every name that is written for an accepted configuration lies in the zone of
the provider it is written to, and so inside an allowed zone.  Of the zones
that contain a challenge name the solver takes the longest.
-/

namespace SieveTube

namespace Hostname

/-- The labels of a name end with those of the zone.  The dots in front keep
the first labels whole. -/
def Inside (name zone : String) : Prop :=
  ('.' :: zone.toList) <:+ ('.' :: name.toList)

theorem Inside.trans {name middle zone : String} (inner : Inside name middle)
    (outer : Inside middle zone) : Inside name zone :=
  List.IsSuffix.trans outer inner

theorem endsWithZone_iff {base zone : List Char} :
    (base = zone ∨ ∃ labels ∈ Text.stripEnd zone base,
      labels.getLast? = some '.') ↔ ('.' :: zone) <:+ ('.' :: base) := by
  rw [List.suffix_cons_iff, List.cons.injEq]
  refine or_congr ⟨fun same => ⟨rfl, same.symm⟩, fun same => same.2.symm⟩ ?_
  constructor
  · rintro ⟨labels, stripped, last⟩
    unfold Text.stripEnd at stripped
    split at stripped
    · next ending =>
      obtain ⟨front, rfl⟩ := List.isSuffixOf_iff_suffix.mp ending
      obtain rfl : front = labels := by simpa using stripped
      obtain ⟨before, rfl⟩ := List.getLast?_eq_some_iff.mp last
      exact ⟨before, by simp⟩
    · cases stripped
  · rintro ⟨before, rfl⟩
    rw [List.append_cons]
    refine ⟨before ++ ['.'], ?_, by simp⟩
    unfold Text.stripEnd
    rw [if_pos (List.isSuffixOf_iff_suffix.mpr ⟨_, rfl⟩), List.length_append,
      Nat.add_sub_cancel, List.take_left' rfl]
    rfl

/-- A leading wildcard label does not matter for a zone without one. -/
theorem isWithinZone_iff_inside {name zone : String}
    (hostname : Normalized false false zone.toList) :
    isWithinZone name zone ↔ Inside name zone := by
  have starless := hostname.star_notMem
  have base : isWithinZone name zone ↔ ('.' :: zone.toList) <:+ ('.' ::
      (Text.stripStart ['*', '.'] name.toList).getD name.toList) := by
    rw [← endsWithZone_iff]
    simp [isWithinZone, Option.any_eq_true]
  rw [base]
  unfold Text.stripStart
  split
  · next wildcard =>
    obtain ⟨rest, split⟩ := List.isPrefixOf_iff_prefix.mp wildcard
    unfold Inside
    rw [← split]
    constructor
    · intro inner
      exact inner.trans ⟨['.', '*'], rfl⟩
    · intro outer
      rcases List.suffix_cons_iff.mp outer with same | later
      · simp only [List.cons.injEq, true_and] at same
        exact absurd (by simp [same]) starless
      · rcases List.suffix_cons_iff.mp later with same | inner
        · simp at same
        · exact inner
  · exact Iff.rfl

end Hostname

namespace Dns

open Hostname Program

/-- The names a call of a reconciliation pass writes. -/
def Op.written : Op → List String
  | .replace request => request.name :: (request.desired.map (·.name)).toList
  | _ => []

/-- The names a call of the solver writes, with the providers. -/
def TxtOp.written : TxtOp AtomicApi → List (Nat × String)
  | .api provider (.replace name _ _ desired) =>
    (name :: (desired.map (·.name)).toList).map fun written =>
      (provider, written)
  | _ => []

/-- What a provider reports for a name carries that name. -/
def AtomicApi.Named : (op : AtomicApi) → AtomicAnswer op → Prop
  | .get name _ => fun answer =>
    ∀ observed, answer = .ok (some observed) → observed.set.name = name
  | _ => fun _ => True

def TxtOp.Named : (op : TxtOp AtomicApi) → TxtAnswer AtomicAnswer op → Prop
  | .api _ op => op.Named
  | _ => fun _ => True

namespace DesiredRecord

theorem name_target {desired : DesiredRecord} {actual : Option RecordSet}
    {set : RecordSet} (aim : set ∈ desired.target actual) :
    set.name = desired.set.name := by
  unfold target at aim
  split at aim
  · cases aim
  · cases aim
    unfold withCurrentProxied
    split <;> rfl

end DesiredRecord

/-- The pass writes only names that satisfy `Holds`, whatever its calls
answer. -/
def Pass.Writes {Value : Type} (Holds : String → Prop)
    (pass : Pass Value) : Prop :=
  pass.Issues (fun _ _ => True)
    (fun op => ∀ name ∈ op.written, Holds name) fun _ => True

/-- A pass writes the names of its own records only. -/
theorem writes_reconcileProvider {Holds : String → Prop}
    {reconciler : Reconciler} {compiled : CompiledDns}
    (holds : ∀ desired ∈ reconciler.recordsFor compiled,
      Holds desired.set.name) :
    Pass.Writes Holds (reconciler.reconcileProvider compiled) := by
  have sends : Pass.Sends (fun _ _ => True)
      (fun request => ∀ name ∈ (Op.replace request).written, Holds name)
      (reconciler.reconcileProvider compiled) := by
    refine sends_reconcileProvider fun desired member observed _ => ?_
    intro name written
    rcases List.mem_cons.mp written with rfl | written
    · exact holds desired member
    · obtain ⟨set, aim, rfl⟩ :=
        Option.map_eq_some_iff.mp (Option.mem_toList.mp written)
      exact (DesiredRecord.name_target aim).symm ▸ holds desired member
  refine Issues.permits (fun op sent => ?_) sends
  cases op with
  | replace request => exact sent
  | _ => exact fun name written => by cases written

def AtomicProvider.calls (provider : AtomicProvider) :
    ProviderCalls AtomicApi AtomicAnswer :=
  provider.host.calls

/-- The writes of a call satisfy `Holds`, and what it puts in the journal
satisfies `Journals`. -/
structure TxtOp.Permitted (Holds : Nat → String → Prop)
    (Journals : TxtHandle → Prop) (op : TxtOp AtomicApi) : Prop where
  writes : ∀ write ∈ op.written, Holds write.1 write.2
  journals : ∀ path handle, op = .journalAdd path handle → Journals handle

/-- The solver issues only permitted calls, as long as the providers report
what they were asked for. -/
def Solving.Keeps {Value : Type} (Holds : Nat → String → Prop)
    (Journals : TxtHandle → Prop) (After : Except String Value → Prop)
    (steps : Solving AtomicAnswer Value) : Prop :=
  Program.Issues TxtOp.Named (TxtOp.Permitted Holds Journals) After steps

section Solver

open TxtSolver

variable {Holds : Nat → String → Prop} {Journals : TxtHandle → Prop}
variable {Value Other : Type} {provider : AtomicProvider} {place : Nat}
variable {name value : String}

theorem keeps_ask {op : TxtOp AtomicApi}
    {next : TxtAnswer AtomicAnswer op → Solving AtomicAnswer Value}
    {After : Except String Value → Prop}
    (permitted : op.Permitted Holds Journals)
    (after : ∀ answer, op.Named answer →
      Solving.Keeps Holds Journals After (next answer)) :
    Solving.Keeps Holds Journals After (TxtSolver.ask op >>= next) :=
  issues_bind_lift ⟨permitted, after⟩

theorem keeps_bind {first : Solving AtomicAnswer Value}
    {next : Value → Solving AtomicAnswer Other}
    {Between : Except String Value → Prop} {After : Except String Other → Prop}
    (before : Solving.Keeps Holds Journals Between first)
    (failed : ∀ error, After (.error error))
    (after : ∀ value, Between (.ok value) →
      Solving.Keeps Holds Journals After (next value)) :
    Solving.Keeps Holds Journals After (first >>= next) := by
  refine issues_bind_except (Issues.mono ?_ before)
  intro result kept
  cases result with
  | error error => exact failed error
  | ok value => exact after value kept

theorem keeps_onProvider
    {program : ExceptT DnsError (Program AtomicApi AtomicAnswer) Value}
    {next : Except DnsError Value → Solving AtomicAnswer Other}
    {Between : Except DnsError Value → Prop}
    {After : Except String Other → Prop}
    (judged : Program.Issues AtomicApi.Named
      (fun op => (TxtOp.api place op).Permitted Holds Journals) Between
      program)
    (after : ∀ result, Between result →
      Solving.Keeps Holds Journals After (next result)) :
    Solving.Keeps Holds Journals After (onProvider place program >>= next) :=
  issues_bind_lift (Issues.mono after
    (judged.embed (fun _ _ named => named) fun _ permitted => permitted))

theorem permitted_of_quiet {op : TxtOp AtomicApi} (quiet : op.written = [])
    (unjournaled : ∀ path handle, op ≠ .journalAdd path handle) :
    op.Permitted Holds Journals :=
  { writes := by simp [quiet]
    journals := fun path handle same => absurd same (unjournaled path handle) }

theorem keeps_observedSet : Solving.Keeps Holds Journals
      (fun result => ∀ set, result = .ok (some set) → set.name = name)
      (observedSet provider.calls place name) := by
  have read : Program.Issues AtomicApi.Named
      (fun op => (TxtOp.api place op).Permitted Holds Journals)
      (fun answer => ∀ observed : Observed, answer = .ok (some observed) →
        observed.set.name = name)
      (provider.calls.get name .txt) :=
    ⟨permitted_of_quiet rfl (by simp), fun _ named => named⟩
  refine keeps_onProvider read fun answer named => ?_
  cases answer with
  | error error => exact fun set same => by cases same
  | ok found =>
    cases found with
    | none => exact fun set same => by cases same
    | some observed =>
      dsimp only
      split
      · exact fun set same => by cases same
      · intro set same
        cases same
        exact named observed rfl

theorem keeps_waitSynced {ticket : ChangeTicket} :
    Solving.Keeps Holds Journals (fun _ => True)
      (waitSynced provider.calls place ticket) := by
  have polled : ∀ polls, Solving.Keeps Holds Journals (fun _ => True)
      (pollSynced provider.calls place ticket polls) := by
    intro polls
    induction polls with
    | zero => exact trivial
    | succ polls ih =>
      have polling : Program.Issues AtomicApi.Named
          (fun op => (TxtOp.api place op).Permitted Holds Journals)
          (fun _ => True) (provider.calls.changeSynced ticket) :=
        ⟨permitted_of_quiet rfl (by simp), fun _ _ => trivial⟩
      refine keeps_onProvider polling fun answer _ => ?_
      split
      · exact trivial
      · exact trivial
      · exact ih
  exact keeps_ask (permitted_of_quiet rfl (by simp)) fun polls _ =>
    polled (polls + 1)

theorem keeps_retryOrFail {error : DnsError} :
    Solving.Keeps Holds Journals (fun _ => True) (retryOrFail error) := by
  unfold retryOrFail
  split <;> exact trivial

theorem keeps_replace {expected desired : Option RecordSet}
    {next : Except DnsError ChangeTicket → Solving AtomicAnswer Value}
    (holds : Holds place name) (named : ∀ set ∈ desired, set.name = name)
    (after : ∀ result,
      Solving.Keeps Holds Journals (fun _ => True) (next result)) :
    Solving.Keeps Holds Journals (fun _ => True)
      (onProvider place (provider.calls.replace name .txt expected desired) >>=
        next) := by
  have permitted : (TxtOp.api place (.replace name .txt expected
      desired)).Permitted Holds Journals := by
    refine ⟨fun write member => ?_, by simp⟩
    obtain ⟨written, listed, rfl⟩ := List.mem_map.mp member
    rcases List.mem_cons.mp listed with rfl | listed
    · exact holds
    · obtain ⟨set, aim, rfl⟩ :=
        Option.map_eq_some_iff.mp (Option.mem_toList.mp listed)
      exact (named set aim).symm ▸ holds
  have changed : Program.Issues AtomicApi.Named
      (fun op => (TxtOp.api place op).Permitted Holds Journals)
      (fun _ => True) (provider.calls.replace name .txt expected desired) :=
    ⟨permitted, fun _ _ => trivial⟩
  exact keeps_onProvider changed fun result _ => after result

variable {solver : TxtSolver}

theorem keeps_addAttempts (holds : Holds place name) {attempts : Nat} :
    Solving.Keeps Holds Journals (fun _ => True)
      (solver.addAttempts provider.calls place name value attempts) := by
  induction attempts with
  | zero => exact trivial
  | succ attempts ih =>
    refine keeps_bind keeps_observedSet (fun _ => trivial) ?_
    intro current named
    split
    · exact trivial
    · refine keeps_replace holds ?_ fun result => ?_
      · rintro _ ⟨⟩
        cases current with
        | none => rfl
        | some set => exact named set rfl
      · cases result with
        | ok ticket => exact keeps_waitSynced
        | error error =>
          exact keeps_bind keeps_retryOrFail (fun _ => trivial) fun _ _ => ih

theorem keeps_removeAttempts (holds : Holds place name) {attempts : Nat} :
    Solving.Keeps Holds Journals (fun _ => True)
      (removeAttempts provider.calls place name value attempts) := by
  induction attempts with
  | zero => exact trivial
  | succ attempts ih =>
    refine keeps_bind keeps_observedSet (fun _ => trivial) ?_
    intro current named
    split
    · exact trivial
    · next set kept =>
      have observed := (Option.filter_eq_some_iff.mp kept).1
      refine keeps_replace holds ?_ fun result => ?_
      · intro remaining rest
        unfold withoutValue at rest
        dsimp only at rest
        split at rest
        · cases rest
        · cases rest
          exact named set (congrArg _ observed)
      · cases result with
        | ok ticket =>
          exact keeps_bind keeps_waitSynced (fun _ => trivial) fun _ _ =>
            trivial
        | error error =>
          exact keeps_bind keeps_retryOrFail (fun _ => trivial) fun _ _ => ih

/-- What is published goes to the provider that is found for its name. -/
theorem keeps_add {domain : String}
    (holds : ∀ name zone place, solver.providerFor name = some (zone, place) →
      Holds place name ∧ Journals { zone, name, value, domain }) :
    Solving.Keeps Holds Journals (fun _ => True)
      (solver.add provider.calls domain value) := by
  have named : Solving.Keeps Holds Journals (fun _ => True)
      (solver.challengeName domain) := by
    refine keeps_ask (permitted_of_quiet rfl (by simp)) fun cname _ => ?_
    split
    · exact trivial
    · split
      · exact trivial
      · split <;> exact trivial
  refine keeps_bind named (fun _ => trivial) fun name _ => ?_
  split
  · exact trivial
  · next zone place found =>
    obtain ⟨holds, journals⟩ := holds name zone place found
    refine keeps_ask ⟨by simp [TxtOp.written], ?_⟩ fun answer _ => ?_
    · intro path handle same
      cases same
      exact journals
    · split
      · exact trivial
      · exact keeps_bind (keeps_addAttempts holds) (fun _ => trivial) fun _ _ =>
          trivial

/-- What is removed is removed at the provider of the zone in its handle. -/
theorem keeps_remove {handle : TxtHandle}
    (holds : ∀ place, solver.zoneProvider handle.zone = some place →
      Holds place handle.name) :
    Solving.Keeps Holds Journals (fun _ => True)
      (solver.remove provider.calls handle) := by
  unfold remove
  split
  · exact trivial
  · next place found =>
    refine keeps_bind (keeps_removeAttempts (holds place found))
      (fun _ => trivial) fun gone _ => ?_
    split
    · refine keeps_ask (permitted_of_quiet rfl (by simp)) fun answer _ => ?_
      split <;> exact trivial
    · exact trivial

end Solver

namespace CompiledConfig

/-- A name in the zone of the provider at a place and in an allowed zone. -/
def Confines (compiled : CompiledConfig) (place : Nat) (name : String) :
    Prop :=
  ∃ spec, compiled.providers.specs[place]? = some spec ∧
    Inside name spec.zone.name ∧
    ∃ allowed ∈ compiled.allowedZones, Inside name allowed.name

/-- No provider has a longer zone that contains the name. -/
def Longest (compiled : CompiledConfig) (place : Nat) (name : String) :
    Prop :=
  ∃ spec, compiled.providers.specs[place]? = some spec ∧
    ∀ other ∈ compiled.providers.specs, Inside name other.zone.name →
      other.zone.name.utf8ByteSize ≤ spec.zone.name.utf8ByteSize

variable {compiled : CompiledConfig} {place : Nat} {name zone : String}
variable {ttl : UInt32} {journalPath : String}

theorem confines_of_inside {spec : ProviderSpec compiled.allowedZones}
    (known : compiled.providers.specs[place]? = some spec)
    (inside : Inside name spec.zone.name) : compiled.Confines place name := by
  obtain ⟨allowed, member, within⟩ := spec.allowed
  exact ⟨spec, known, inside, allowed, member,
    inside.trans ((isWithinZone_iff_inside allowed.normalized).mp within)⟩

theorem mem_providers_solver :
    (zone, place) ∈ (compiled.solver ttl journalPath).providers ↔
      ∃ spec, compiled.providers.specs[place]? = some spec ∧
        spec.zone.name = zone := by
  show (zone, place) ∈ List.insertionSort _ _ ↔ _
  rw [List.mem_insertionSort, List.mem_mapIdx]
  constructor
  · rintro ⟨index, bound, same⟩
    cases same
    exact ⟨_, List.getElem?_eq_getElem bound, rfl⟩
  · rintro ⟨spec, known, rfl⟩
    obtain ⟨bound, rfl⟩ := List.getElem?_eq_some_iff.mp known
    exact ⟨place, bound, rfl⟩

section

variable (found : (compiled.solver ttl journalPath).providerFor name =
  some (zone, place))
include found

/-- The provider that is found for a name has the longest zone. -/
theorem longest_of_providerFor : compiled.Longest place name := by
  obtain ⟨covers, before, after, split, uncovered⟩ :=
    List.find?_eq_some_iff_append.mp found
  have sorted := (compiled.solver ttl journalPath).sorted
  rw [split, List.pairwise_append, List.pairwise_cons] at sorted
  obtain ⟨spec, known, rfl⟩ :=
    mem_providers_solver.mp (List.mem_of_find?_eq_some found)
  refine ⟨spec, known, fun other member inside => ?_⟩
  obtain ⟨index, bound, rfl⟩ := List.mem_iff_getElem.mp member
  have listed : ((compiled.providers.specs[index]).zone.name, index) ∈
      (compiled.solver ttl journalPath).providers :=
    mem_providers_solver.mpr ⟨_, List.getElem?_eq_getElem bound, rfl⟩
  rw [split, List.mem_append, List.mem_cons] at listed
  rcases listed with earlier | same | later
  · have outside := uncovered _ earlier
    rw [(isWithinZone_iff_inside (Zone.normalized _)).mpr inside] at outside
    cases outside
  · rw [(Prod.mk.inj same).1]
  · exact sorted.2.1.1 _ later

theorem inside_of_providerFor :
    Inside name zone := by
  obtain ⟨spec, known, rfl⟩ :=
    mem_providers_solver.mp (List.mem_of_find?_eq_some found)
  have covers := List.find?_some found
  exact (isWithinZone_iff_inside spec.zone.normalized).mp covers

end

theorem exists_spec_of_zoneProvider
    (found : (compiled.solver ttl journalPath).zoneProvider zone = some place) :
    ∃ spec, compiled.providers.specs[place]? = some spec ∧
      spec.zone.name = zone := by
  obtain ⟨⟨listed, _⟩, first, rfl⟩ := Option.map_eq_some_iff.mp found
  obtain rfl : listed = zone := by simpa using List.find?_some first
  exact mem_providers_solver.mp (List.mem_of_find?_eq_some first)

/-- What a solver of the configuration journals: the zone of the handle is
the one that is found for its name. -/
def Journals (compiled : CompiledConfig) (handle : TxtHandle) : Prop :=
  Inside handle.name handle.zone ∧ ∀ ttl journalPath, ∃ place,
      (compiled.solver ttl journalPath).providerFor handle.name =
        some (handle.zone, place)

theorem keeps_add (compiled : CompiledConfig) {provider : AtomicProvider}
    {journalPath domain value : String} :
    Solving.Keeps (fun place name => compiled.Confines place name ∧
      compiled.Longest place name) compiled.Journals (fun _ => True)
      ((compiled.solver ttl journalPath).add provider.calls domain value) := by
  refine Dns.keeps_add fun name zone place found => ?_
  have inside := inside_of_providerFor found
  refine ⟨⟨?_, longest_of_providerFor found⟩, inside, fun _ _ => ⟨place, found⟩⟩
  obtain ⟨spec, known, rfl⟩ :=
    mem_providers_solver.mp (List.mem_of_find?_eq_some found)
  exact confines_of_inside known inside

/-- The records of a provider are in its zone, since no other provider has
its name. -/
theorem confines_of_mem_recordsFor {reconciler : Reconciler}
    {spec : ProviderSpec compiled.allowedZones} {desired : DesiredRecord}
    (known : compiled.providers.specs[place]? = some spec)
    (named : reconciler.provider = spec.name)
    (member : desired ∈ reconciler.recordsFor compiled.records.toCompiledDns) :
    compiled.Confines place desired.set.name := by
  obtain ⟨listed, own⟩ := List.mem_filter.mp member
  obtain ⟨other, otherMember, sameName, within⟩ :=
    compiled.records.placed desired listed
  have same : other = spec := by
    refine List.inj_on_of_nodup_map compiled.providers.distinct otherMember
      (List.mem_of_getElem? known) ?_
    rw [sameName, ← named]
    simpa using own
  subst same
  exact confines_of_inside known
    ((isWithinZone_iff_inside other.zone.normalized).mp within)

end CompiledConfig

/-- A name in the zone of the configured provider at a place and in one of
the configured `allowed_zones`. -/
def DnsConfig.Confines (config : DnsConfig) (compiled : CompiledConfig)
    (place : Nat) (name : String) : Prop :=
  ∃ spec, compiled.providers.specs[place]? = some spec ∧
    config.Provides spec.name spec.zone.name ∧
    Inside name spec.zone.name ∧
    ∃ zone ∈ config.allowedZones, ∃ allowed,
      normalizeHostname zone = .ok allowed ∧ Inside name allowed

theorem CompiledConfig.Confines.of_compile
    {parseUri : String → Except String Uri} {config : DnsConfig}
    {compiled : CompiledConfig} {place : Nat} {name : String}
    (confines : compiled.Confines place name)
    (accepted : config.compile parseUri = .ok compiled) :
    config.Confines compiled place name := by
  obtain ⟨spec, known, inside, allowed, member, within⟩ := confines
  obtain ⟨zone, listed, normal⟩ :=
    DnsConfig.allowedZones_of_compile accepted allowed member
  exact ⟨spec, known, DnsConfig.provides_of_compile accepted spec
    (List.mem_of_getElem? known), inside, zone, listed, _, normal, within⟩

/-- Every write of the reconciler and of the challenge solver goes to a
provider whose zone contains the name, and so into one of `allowed_zones`;
what the checks have established is part of the compiled configuration.  A
value is published at the provider with the longest zone, and it is removed
where it was published: also after the configuration has changed, if a
provider for its zone is left. -/
theorem writes_confined_to_zones {parseUri : String → Except String Uri}
    {config : DnsConfig} {compiled : CompiledConfig}
    (accepted : config.compile parseUri = .ok compiled)
    (provider : AtomicProvider) (ttl : UInt32) (journalPath : String) :
    (∀ place spec, compiled.providers.specs[place]? = some spec →
      ∀ reconciler : Reconciler, reconciler.provider = spec.name →
        Pass.Writes (config.Confines compiled place)
          (reconciler.reconcileProvider compiled.records.toCompiledDns)) ∧
    (∀ domain value, Solving.Keeps
      (fun place name => config.Confines compiled place name ∧
        compiled.Longest place name)
      (fun _ => True) (fun _ => True)
      ((compiled.solver ttl journalPath).add provider.calls domain value)) ∧
    ∀ (earlier : CompiledConfig) (earlierTtl : UInt32)
      (domain value : String) (handle : TxtHandle),
      Program.CanIssue TxtOp.Named (.journalAdd journalPath handle)
        ((earlier.solver earlierTtl journalPath).add provider.calls domain
          value) →
      Solving.Keeps
        (fun place name => config.Confines compiled place name ∧
          (earlier = compiled → compiled.Longest place name))
        (fun _ => True) (fun _ => True)
        ((compiled.solver ttl journalPath).remove provider.calls handle) := by
  refine ⟨?_, ?_, ?_⟩
  · intro place spec known reconciler named
    exact writes_reconcileProvider fun desired member =>
      (CompiledConfig.confines_of_mem_recordsFor known named
        member).of_compile accepted
  · intro domain value
    refine Issues.permits (fun op permitted => ⟨?_, fun _ _ _ => trivial⟩)
      compiled.keeps_add
    intro write written
    obtain ⟨confines, longest⟩ := permitted.writes write written
    exact ⟨confines.of_compile accepted, longest⟩
  · intro earlier earlierTtl domain value handle issued
    obtain ⟨inside, found⟩ := (Issues.permitted earlier.keeps_add
      issued).journals _ _ rfl
    refine keeps_remove fun place zoneFound => ⟨?_, ?_⟩
    · obtain ⟨spec, known, same⟩ :=
        CompiledConfig.exists_spec_of_zoneProvider zoneFound
      exact (CompiledConfig.confines_of_inside known
        (same ▸ inside)).of_compile accepted
    · rintro rfl
      obtain ⟨owner, owned⟩ := found ttl journalPath
      have ownPlace := TxtSolver.zoneProvider_of_providerFor owned
      rw [zoneFound, Option.some.injEq] at ownPlace
      subst ownPlace
      exact CompiledConfig.longest_of_providerFor owned

/-- A provider for a zone and one for a part of it, with a wildcard
record. -/
def nestedZones : DnsConfig where
  allowedZones := ["Example.com."]
  providers :=
    [{ name := "outer", kind := .route53, zone := "example.com"
       zoneId := none, apiTokenEnv := none, apiTokenFile := none
       apiBaseUrl := none, hostedZoneId := some "Z1", endpointUrl := none
       region := none, requestTimeoutSecs := 15 },
      { name := "inner", kind := .cloudflare, zone := "sub.example.com"
        zoneId := some "z2", apiTokenEnv := some "TOKEN"
        apiTokenFile := none, apiBaseUrl := none, hostedZoneId := none
        endpointUrl := none, region := none, requestTimeoutSecs := 15 }]
  records :=
    [{ provider := "inner", name := "*.Sub.example.com", recordType := .a
       values := ["192.0.2.1"], ttl := 300, proxied := none
       importExisting := false, state := .present }]

theorem writes_confined_to_zones_nested :
    ∃ compiled, nestedZones.compile (fun _ => .error "no URL") = .ok compiled ∧
      compiled.records.records.map (·.set.name) = ["*.sub.example.com"] ∧
      ∀ (provider : AtomicProvider) (domain value : String), Solving.Keeps
        (fun place name => nestedZones.Confines compiled place name ∧
          compiled.Longest place name)
        (fun _ => True) (fun _ => True)
        ((compiled.solver 60 "journal").add provider.calls domain value) := by
  have names : (nestedZones.compile fun _ => .error "no URL").toOption.map
      (fun compiled => compiled.records.records.map (·.set.name)) =
        some ["*.sub.example.com"] := by
    decide +kernel
  cases accepted : nestedZones.compile fun _ => .error "no URL" with
  | error failure =>
    rw [accepted] at names
    cases names
  | ok compiled =>
    rw [accepted] at names
    exact ⟨compiled, rfl, Option.some.inj names, fun provider =>
      (writes_confined_to_zones accepted provider 60 "journal").2.1⟩

end Dns

end SieveTube
