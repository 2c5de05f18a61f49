import SieveTube.Dns.Cloudflare.Sharing
import SieveTube.Dns.Coexistence
import SieveTube.Dns.World

/-!
# Challenge values at every kind of provider

Solvers that share a name keep each other's values, both where a record set
is replaced in one step and where that takes several calls.
-/

namespace SieveTube.Dns

/-- Calls to a provider that replaces a record set in one step. -/
inductive AtomicApi where
  | get (name : String) (recordType : RecordType)
  | replace (name : String) (recordType : RecordType)
      (expected desired : Option RecordSet)
  | changeSynced (ticket : ChangeTicket)

@[reducible]
def AtomicAnswer : AtomicApi → Type
  | .get _ _ => Except DnsError (Option Observed)
  | .replace _ _ _ _ => Except DnsError ChangeTicket
  | .changeSynced _ => Except DnsError Bool

/-- A call may fail, and a failed change may have been made. -/
structure AtomicFate where
  failure : Option DnsError
  effective : Bool
  ticket : ChangeTicket
  synced : Bool

abbrev AtomicZone := String × RecordType → Option Observed

/-- An operator replaces one record set by another. -/
structure AtomicEdit where
  name : String
  recordType : RecordType
  next : Option Observed

namespace AtomicProvider

open TxtSolver

variable (provider : AtomicProvider)

/-- The conditional change as one step. -/
def change (zone : AtomicZone) (name : String) (recordType : RecordType)
    (expected desired : Option RecordSet) : Except String AtomicZone :=
  (provider.replace recordType (zone (name, recordType)) expected
    desired).map (Function.update zone (name, recordType))

def perform :
    (op : AtomicApi) → AtomicFate → AtomicZone → AtomicAnswer op × AtomicZone
  | .get name recordType, fate, zone =>
    (match fate.failure with
      | some failure => .error failure
      | none => .ok (zone (name, recordType)), zone)
  | .replace name recordType expected desired, fate, zone =>
    match fate.failure,
        provider.change zone name recordType expected desired with
    | none, .ok changed => (.ok fate.ticket, changed)
    | none, .error reason => (.error (.conflict reason), zone)
    | some failure, .ok changed =>
      (.error failure, if fate.effective then changed else zone)
    | some failure, .error _ => (.error failure, zone)
  | .changeSynced _, fate, zone =>
    (match fate.failure with
      | some failure => .error failure
      | none => .ok fate.synced, zone)

def host : TxtHost where
  Api := AtomicApi
  ApiAnswer := AtomicAnswer
  ApiFate := AtomicFate
  Zone := AtomicZone
  Edit := AtomicEdit
  calls :=
    { get := fun name recordType =>
        ExceptT.mk (Program.ask (AtomicApi.get name recordType))
      replace := fun name recordType expected desired =>
        ExceptT.mk
          (Program.ask (AtomicApi.replace name recordType expected desired))
      changeSynced :=
        fun ticket => ExceptT.mk (Program.ask (AtomicApi.changeSynced ticket)) }
  perform := provider.perform
  edit := fun edit zone =>
    Function.update zone (edit.name, edit.recordType) edit.next
  has := fun zone name value => value ∈
    valuesOf ((zone (name, .txt)).map (·.set))
  Challenge := fun _ => True

variable {provider}
variable {zone changed : AtomicZone} {name : String}
variable {expected desired : Option RecordSet}

theorem change_eq_ok {recordType : RecordType}
    (accepted : provider.change zone name recordType expected desired =
      .ok changed) :
    ∃ next, provider.replace recordType
      (zone (name, recordType)) expected desired = .ok next ∧
      changed = Function.update zone (name, recordType) next := by
  unfold change at accepted
  cases replaced : provider.replace recordType
    (zone (name, recordType)) expected desired with
  | error reason =>
    rw [replaced] at accepted
    cases accepted
  | ok next =>
    rw [replaced] at accepted
    exact ⟨next, rfl, (Except.ok.inj accepted).symm⟩

theorem has_change (accepted : provider.change zone name .txt expected desired =
      .ok changed) {other value : String} :
    (provider.host.has zone other value → other = name →
      value ∈ valuesOf expected) ∧ (provider.host.has changed other value ↔
        if other = name then value ∈ valuesOf desired
        else provider.host.has zone other value) := by
  obtain ⟨next, replaced, rfl⟩ := change_eq_ok accepted
  have before := valuesOf_of_same (provider.expected_of_ok replaced)
  have after := valuesOf_of_same (provider.desired_of_ok replaced).1
  by_cases same : other = name
  · subst other
    simp [host, ← before, ← after]
  · simp [host, same]

/-- A change is made as a whole or not at all. -/
theorem perform_replace (provider : AtomicProvider) (fate : AtomicFate)
    (zone : AtomicZone) (name : String) (recordType : RecordType)
    (expected desired : Option RecordSet) :
    ((∃ error, (provider.perform (.replace name recordType expected desired)
          fate zone).1 = .error error) ∧
        (provider.perform (.replace name recordType expected desired) fate
          zone).2 = zone) ∨
      provider.change zone name recordType expected desired =
        .ok (provider.perform (.replace name recordType expected desired) fate
          zone).2 := by
  simp only [perform]
  cases fate.failure with
  | none =>
    cases provider.change zone name recordType expected desired with
    | error reason => exact .inl ⟨⟨_, rfl⟩, rfl⟩
    | ok changed => exact .inr rfl
  | some failure =>
    cases provider.change zone name recordType expected desired with
    | error reason => exact .inl ⟨⟨_, rfl⟩, rfl⟩
    | ok changed =>
      cases fate.effective with
      | true => exact .inr rfl
      | false => exact .inl ⟨⟨_, rfl⟩, rfl⟩

/-- The view of a call on a zone, of which nothing else is known. -/
def view (provider : AtomicProvider) (Kept Own : String → String → Prop) :
    View AtomicApi AtomicAnswer AtomicFate AtomicZone :=
  provider.host.zoneView (fun _ _ => True) (fun _ => trivial)
    (fun _ _ => trivial) Kept Own

/-- A conditional change under interference, from what an accepted one
does. -/
theorem replace_sat {Kept Own : String → String → Prop}
    {After : Except DnsError ChangeTicket → AtomicZone → Prop}
    (stable : ∀ result, (provider.view Kept Own).Stable (After result))
    (failed : ∀ error zone, After (.error error) zone)
    (accepted : ∀ zone changed,
      provider.change zone name .txt expected desired = .ok changed →
        (∀ other value, provider.host.has zone other value →
          provider.host.has changed other value ∨ Own other value) ∧
        ∀ result, After result changed) :
    Program.Sat (provider.view Kept Own) After
      (provider.host.calls.replace name .txt expected desired) zone := by
  intro later _ _ fate _
  rcases provider.perform_replace fate later name .txt expected desired with
    ⟨⟨error, answer⟩, unchanged⟩ | made
  · refine ⟨trivial, ⟨trivial, ?_⟩, ?_⟩
    · intro other value held
      left
      exact unchanged.symm ▸ held
    · intro final relied holds
      refine stable _ _ final ?_ relied holds
      show After (provider.perform
        (.replace name .txt expected desired) fate later).1 _
      rw [answer]
      exact failed error _
  · obtain ⟨keeps, after⟩ := accepted later _ made
    exact ⟨trivial, ⟨trivial, keeps⟩, fun final relied holds =>
      stable _ _ final (after _) relied holds⟩

theorem ask_sat {op : AtomicApi} {Kept Own : String → String → Prop}
    {After : AtomicAnswer op → AtomicZone → Prop}
    (quiet : ∀ fate zone, (provider.perform op fate zone).2 = zone)
    (stable : ∀ result, (provider.view Kept Own).Stable (After result))
    (after : ∀ fate zone, After (provider.perform op fate zone).1 zone) :
    Program.Sat (provider.view Kept Own) After (Program.ask op) zone := by
  intro later _ _ fate _
  refine ⟨trivial, ⟨trivial, ?_⟩, ?_⟩
  · intro other value held
    left
    exact (quiet fate later).symm ▸ held
  · intro final relied holds
    refine stable _ later final (after fate later) ?_ holds
    exact (quiet fate later) ▸ relied

theorem held_stable {Kept Own : String → String → Prop} {name value : String} :
    (provider.view Kept Own).Stable fun zone =>
      Kept name value → provider.host.has zone name value := by
  intro zone later held relied _ kept
  exact relied.2 name value kept (held kept)

/-- A provider that replaces a record set in one step serves solvers. -/
def lawful (provider : AtomicProvider) : provider.host.Lawful where
  Evolves := fun _ _ => True
  refl := fun _ => trivial
  trans := fun _ _ => trivial
  edited := fun _ _ => trivial
  get_sat := by
    intro Kept Own name zone
    refine ask_sat (fun _ _ => rfl) ?_ ?_
    · intro result zone later held relied holds found same value member
      exact held_stable zone later (held found same value member) relied holds
    · intro fate zone found same value member _
      simp only [perform] at same
      cases failure : fate.failure with
      | some failure =>
        rw [failure] at same
        cases same
      | none =>
        rw [failure] at same
        have present : zone (name, .txt) = some found := Except.ok.inj same
        simpa [host, present, valuesOf] using member
  add_sat := by
    intro Kept solver name value current zone _
    refine replace_sat ?_ (fun _ _ _ same => (by cases same)) ?_
    · intro result zone later held relied holds ticket same
      exact held_stable zone later (held ticket same) relied holds
    · intro zone changed accepted
      refine ⟨?_, ?_⟩
      · intro other text held
        left
        obtain ⟨expected, after⟩ := has_change accepted
        rw [after]
        split
        · next same =>
          show text ∈ (solver.withValue name value current).values
          rw [values_withValue]
          exact Finset.mem_insert_of_mem (expected held same)
        · exact held
      · intro _ _ _ _
        rw [(has_change accepted).2, if_pos rfl]
        show value ∈ (solver.withValue name value current).values
        rw [values_withValue]
        exact Finset.mem_insert_self _ _
  remove_sat := by
    intro Kept Own name value current zone _ own
    refine replace_sat (fun _ _ _ _ _ _ => trivial) (fun _ _ => trivial) ?_
    intro zone changed accepted
    refine ⟨?_, fun _ => trivial⟩
    intro other text held
    obtain ⟨expected, after⟩ := has_change accepted
    rw [after]
    split
    · next same =>
      subst other
      rw [values_withoutValue]
      by_cases removed : text = value
      · exact .inr (removed ▸ own)
      · exact .inl (Finset.mem_erase_of_ne_of_mem removed (expected held rfl))
    · exact .inl held
  synced_sat := fun _ _ _ _ =>
    ask_sat (fun _ _ => rfl) (fun _ _ _ _ _ _ => trivial) (fun _ _ => trivial)

end AtomicProvider

/-- TXT challenge values never clobber each other, whether the provider
replaces a record set in one step or by single calls. -/
theorem challenge_values_kept (provider : AtomicProvider)
    (service : Cloudflare.Service) (challenges : Cloudflare.Challenges) :
    provider.host.NeverClobbers ∧
      (Cloudflare.host service challenges).NeverClobbers :=
  ⟨provider.lawful.neverClobbers,
    (Cloudflare.lawful service challenges).neverClobbers⟩

end SieveTube.Dns
