import SieveTube.Dns.Cloudflare.Account

/-!
# The adapter among other parties

The judgements of the adapter's programs when others act between any two of
its calls.  A listing tells what each record was when its page was read; a
change that adds a value deletes nothing, and one that removes a value
deletes only records that were seen with it.
-/

namespace SieveTube.Dns.Cloudflare

open TxtSolver

variable {service : Service} {challenges : Challenges}
variable {Kept Own : String → String → Prop}
variable {account : Account} {name value : String}

def sharedView (service : Service) (challenges : Challenges)
    (Kept Own : String → String → Prop) :
    View ApiOp ApiAnswer Fate Account :=
  (host service challenges).zoneView
    (Evolves challenges) Evolves.refl Evolves.trans Kept Own

/-- A record as it was listed, with its value if that is kept. -/
structure Known (challenges : Challenges) (Kept : String → String → Prop)
    (name : String) (account : Account) (record : CfRecord) : Prop where
  seen : Seen challenges name account record
  held : ∀ value, valueOf .txt record = some value → Kept name value →
    account.has name value

theorem known_stable {record : CfRecord} :
    (sharedView service challenges Kept Own).Stable fun account =>
      Known challenges Kept name account record := by
  intro account later known relied _
  exact
    { seen := known.seen.evolves relied.1
      held := fun value shown kept =>
        relied.2 name value kept (known.held value shown kept) }

variable {record : CfRecord}

theorem known_of_zone (member : record ∈ (account.zone name .txt).records) :
    Known challenges Kept name account record := by
  obtain ⟨hosted, found, rfl⟩ := List.mem_map.mp member
  obtain ⟨stored, place⟩ := List.mem_filter.mp found
  simp only [Bool.and_eq_true, decide_eq_true_eq] at place
  obtain ⟨rfl, txt⟩ := place
  have same : hosted = ⟨hosted.name, .txt, hosted.record⟩ := by rw [← txt]
  refine ⟨⟨account, Evolves.refl account, same ▸ stored⟩, ?_⟩
  intro value shown _
  refine Account.has_iff.mpr ⟨hosted, stored, ?_⟩
  simp [Hosted.shows, txt, shown]

/-- How a listing may end. -/
def Lists (challenges : Challenges) (Kept : String → String → Prop)
    (name : String) (result : Except DnsError (List CfRecord))
    (account : Account) : Prop :=
  ∀ records, result = .ok records → ∀ record ∈ records,
    Known challenges Kept name account record

/-- The rule for a call that is followed by more of the program. -/
theorem call_shared {op : ApiOp} {Value : Type}
    {next : Envelope (ApiResult op) → Calls Value}
    {After : Except DnsError Value → Account → Prop}
    (failed : ∀ error account, After (.error error) account)
    (guaranteed : ∀ (fate : Fate) later,
      (sharedView service challenges Kept Own).Rely account later →
      (sharedView service challenges Kept Own).Guarantee later
        (Account.perform service op fate later).2)
    (rest : ∀ (fate : Fate) later envelope,
      (sharedView service challenges Kept Own).Rely account later →
      (Account.perform service op fate later).1.outcome = .ok envelope →
      Program.Sat (sharedView service challenges Kept Own) After
        (next envelope) (Account.perform service op fate later).2) :
    Program.Sat (sharedView service challenges Kept Own) After
      (call op >>= next : Calls Value) account := by
  apply Program.sat_bind_except
  intro later relied _ fate _
  refine ⟨trivial, guaranteed fate later relied, ?_⟩
  intro final reliedFinal _
  have same : (sharedView service challenges Kept Own).perform =
      Account.perform service := rfl
  rw [same] at reliedFinal ⊢
  cases outcome : (Account.perform service op fate later).1.outcome with
  | error error => exact fun last _ _ => failed error last
  | ok envelope =>
    exact (rest fate later envelope relied outcome).stable reliedFinal

theorem listPages_shared {remaining number : Nat} {records : List CfRecord}
    (known : ∀ record ∈ records, Known challenges Kept name account record) :
    Program.Sat (sharedView service challenges Kept Own)
      (Lists challenges Kept name)
      (listPages name .txt remaining records number) account := by
  induction remaining generalizing account number records with
  | zero =>
    intro later relied holds found same record member
    obtain rfl := Except.ok.inj same
    exact known_stable account later (known record member) relied holds
  | succ remaining ih =>
    refine call_shared (fun _ _ _ same => (by cases same)) ?_ ?_
    · intro fate later _
      exact ⟨Evolves.refl later, fun _ _ held => .inl held⟩
    · intro fate later envelope relied accepted
      obtain ⟨result, _⟩ := fill_of_ok accepted
      have more : ∀ record ∈ records ++ envelope.result.getD [],
          Known challenges Kept name later record := by
        intro record member
        rw [result] at member
        rcases List.mem_append.mp member with old | new
        · exact known_stable account later (known record old) relied trivial
        · exact known_of_zone (List.mem_of_mem_drop (List.mem_of_mem_take new))
      split
      · intro final reliedFinal holds found same record member
        obtain rfl := Except.ok.inj same
        exact known_stable later final (more record member) reliedFinal holds
      · exact ih more

theorem list_shared :
    Program.Sat (sharedView service challenges Kept Own)
      (Lists challenges Kept name) (list name .txt) account :=
  listPages_shared fun _ member => (by cases member)

theorem Evolves.perform {op : ApiOp} (fate : Fate) (account : Account) :
    Evolves challenges account
      (Account.perform service op fate account).2 := by
  cases op with
  | list name recordType number => exact Evolves.refl account
  | write change =>
    simp only [Account.perform]
    split
    · exact Evolves.apply account change
    · exact Evolves.refl account

/-- A write that may be made: it deletes only what was seen with a value of
its own. -/
def Permitted (challenges : Challenges) (Own : String → String → Prop)
    (name : String) (account : Account) : Write → Prop
  | .patch _ _ _ => True
  | .post _ _ _ _ _ => True
  | .delete id =>
    ∃ record value, record.id = id ∧ Seen challenges name account record ∧
      valueOf .txt record = some value ∧ challenges.contains value ∧
      Own name value

variable {change : Write}

theorem Permitted.evolves {later : Account}
    (permitted : Permitted challenges Own name account change)
    (evolves : Evolves challenges account later) :
    Permitted challenges Own name later change := by
  cases change with
  | patch _ _ _ | post _ _ _ _ _ => trivial
  | delete id =>
    obtain ⟨record, value, same, seen, rest⟩ := permitted
    exact ⟨record, value, same, seen.evolves evolves, rest⟩

theorem Permitted.guarantee
    (permitted : Permitted challenges Own name account change) (fate : Fate) :
    (sharedView service challenges Kept Own).Guarantee account
      (Account.perform service (.write change) fate account).2 := by
  refine ⟨Evolves.perform fate account, ?_⟩
  intro other text held
  simp only [Account.perform]
  split
  · cases change with
    | patch _ _ _ | post _ _ _ _ _ =>
      exact .inl (Account.has_apply (fun _ same => (by cases same)) held)
    | delete id =>
      obtain ⟨record, value, rfl, seen, shown, challenge, own⟩ := permitted
      rcases seen.has_delete shown challenge held with kept | ⟨rfl, rfl⟩
      · exact .inl kept
      · exact .inr own
  · exact .inl held

/-- Permitted writes are made one after the other, with others acting in
between. -/
theorem writes_shared {changes : List Write}
    (permitted : ∀ change ∈ changes,
      Permitted challenges Own name account change) :
    Program.Sat (sharedView service challenges Kept Own) (fun _ _ => True)
      (forM changes write : Calls Unit) account := by
  induction changes generalizing account with
  | nil => exact fun _ _ _ => trivial
  | cons change changes ih =>
    rw [List.forM_cons, write, bind_assoc]
    refine call_shared (fun _ _ => trivial) ?_ ?_
    · intro fate later relied
      exact ((permitted change List.mem_cons_self).evolves relied.1).guarantee
        fate
    · intro fate later envelope relied _
      exact ih fun other member =>
        ((permitted other (.tail _ member)).evolves relied.1).evolves
          (Evolves.perform fate later)

variable {expected desired : Option RecordSet} {records : List CfRecord}

theorem accepted_values (accepted : refusal name .txt expected records = none)
    (member : record ∈ records) :
    ∃ value ∈ valuesOf expected, valueOf .txt record = some value := by
  unfold refusal at accepted
  simp only at accepted
  split at accepted
  · cases accepted
  · next supported =>
    split at accepted
    · next same =>
      obtain ⟨value, shown⟩ :=
        (supported_iff.mp supported).1.value record member
      refine ⟨value, ?_, shown⟩
      rw [← valuesOf_of_same same]
      exact mem_values.mpr ⟨record, member, shown⟩
    · cases accepted

theorem mem_obsolete (accepted : refusal name .txt expected records = none)
    (unwanted : record ∈ obsolete .txt records desired) :
    record ∈ records ∧ ∃ value ∈ valuesOf expected, value ∉ valuesOf desired ∧
      valueOf .txt record = some value := by
  obtain ⟨member, gone⟩ := List.mem_filter.mp unwanted
  obtain ⟨value, found, shown⟩ := accepted_values accepted member
  refine ⟨member, value, found, ?_, shown⟩
  simpa [shown, valuesOf] using gone

/-- A change is a listing followed by the writes of its plan. -/
theorem replace_shared {After : Except DnsError ChangeTicket → Account → Prop}
    (failed : ∀ error account, After (.error error) account)
    (stable : ∀ result,
      (sharedView service challenges Kept Own).Stable (After result))
    (made : ∀ records later,
      (∀ record ∈ records, Known challenges Kept name later record) →
      refusal name .txt expected records = none →
      Program.Sat (sharedView service challenges Kept Own)
        (fun result final => result.isOk → After (.ok .immediate) final)
        (forM (plan name .txt records desired) write : Calls Unit) later) :
    Program.Sat (sharedView service challenges Kept Own) After
      (replace name .txt expected desired) account := by
  rw [replace_eq]
  refine Program.sat_bind_except (list_shared.mono ?_)
  intro result later _ lists
  rcases result with error | records
  · exact fun final _ _ => failed error final
  · simp only [afterListing]
    cases refused : refusal name .txt expected records with
    | some reason => exact fun final _ _ => failed _ final
    | none =>
      refine Program.sat_bind_except
        ((made records later (lists records rfl) refused).mono ?_)
      intro result final _ after
      rcases result with error | _
      · exact fun last _ _ => failed error last
      · exact fun last relied holds =>
          stable _ final last (after rfl) relied holds

theorem held_shared {Value : Type} {program : Program ApiOp ApiAnswer Value}
    {After : Value → Account → Prop}
    (held : Kept name value → account.has name value)
    (sat : program.Sat (sharedView service challenges Kept fun _ _ => False)
      After account) :
    program.Sat (sharedView service challenges Kept fun _ _ => False)
      (fun result later => After result later ∧
        (Kept name value → later.has name value)) account := by
  refine sat.frame ?_ ?_ held
  · intro account later held relied _ kept
    exact relied.2 name value kept (held kept)
  · intro account later held guaranteed kept
    exact (guaranteed.2 name value (held kept)).resolve_right id

theorem permitted_add {solver : TxtSolver}
    (accepted : refusal name .txt expected records = none)
    (member : change ∈
      plan name .txt records (some (solver.withValue name value expected))) :
    Permitted challenges Own name account change := by
  cases change with
  | patch _ _ _ | post _ _ _ _ _ => trivial
  | delete id =>
    obtain ⟨record, unwanted, _⟩ := planned_delete (planned member)
    obtain ⟨_, kept, found, gone, _⟩ := mem_obsolete accepted unwanted
    have wanted : kept ∈
        valuesOf (some (solver.withValue name value expected)) := by
      show kept ∈ (solver.withValue name value expected).values
      rw [values_withValue]
      exact Finset.mem_insert_of_mem found
    exact absurd wanted gone

theorem permitted_remove {current : RecordSet}
    (known : ∀ record ∈ records, Known challenges Kept name account record)
    (accepted : refusal name .txt (some current) records = none)
    (challenge : challenges.contains value) (own : Own name value)
    (member : change ∈ plan name .txt records (withoutValue value current)) :
    Permitted challenges Own name account change := by
  cases change with
  | patch _ _ _ | post _ _ _ _ _ => trivial
  | delete id =>
    obtain ⟨record, unwanted, same⟩ := planned_delete (planned member)
    obtain ⟨listed, text, found, gone, shown⟩ := mem_obsolete accepted unwanted
    have removed : text = value := by
      rw [values_withoutValue] at gone
      by_contra different
      exact gone (Finset.mem_erase_of_ne_of_mem different found)
    subst removed
    exact ⟨record, text, same, (known record listed).seen, shown,
      challenge, own⟩

/-- A value that is added is listed already or gets a record. -/
theorem added_or_post (solver : TxtSolver) (name value : String)
    (expected : Option RecordSet) (records : List CfRecord) :
    (∃ record ∈ records, valueOf .txt record = some value) ∨
      ∃ ttl proxied, Write.post .txt name (RecordType.txt.content value) ttl
        proxied ∈ plan name .txt records
          (some (solver.withValue name value expected)) := by
  cases found : records.find? fun record => valueOf .txt record =
    some value with
  | some record =>
    exact .inl ⟨record,
      List.mem_of_find?_eq_some found, by simpa using List.find?_some found⟩
  | none =>
    have wanted : value ∈
        (solver.withValue name value expected).values.sort := by
      rw [Finset.mem_sort, values_withValue]
      exact Finset.mem_insert_self _ _
    let desired := solver.withValue name value expected
    let proxied := effectiveProxied (observed name .txt records) desired
    have created : Write.post .txt name (RecordType.txt.content value)
        desired.ttl (bodyProxied .txt proxied) ∈
          changesFor name .txt records desired proxied value := by
      unfold changesFor
      rw [found]
      exact List.mem_singleton_self _
    exact .inr ⟨desired.ttl, bodyProxied .txt proxied, List.mem_append_left _
        (List.mem_flatMap.mpr ⟨value, wanted, created⟩)⟩

/-- Writes that create the record of a value leave it there. -/
theorem posted_shared {changes : List Write} {ttl : UInt32}
    {proxied : Option Bool} (challenge : challenges.contains value)
    (permitted : ∀ account, ∀ change ∈ changes,
      Permitted challenges (fun _ _ => False) name account change)
    (posted : Write.post .txt name (RecordType.txt.content value) ttl proxied ∈
      changes) :
    Program.Sat (sharedView service challenges Kept fun _ _ => False)
      (fun result later => result.isOk → Kept name value → later.has name value)
      (forM changes write : Calls Unit) account := by
  obtain ⟨before, after, rfl⟩ := List.append_of_mem posted
  rw [List.forM_append]
  refine Program.sat_bind_except ((writes_shared fun change member =>
    permitted _ change (List.mem_append_left _ member)).mono ?_)
  intro result later _ _
  rcases result with error | _
  · exact fun _ _ _ failed => (by cases failed)
  · rw [List.forM_cons, write, bind_assoc]
    refine call_shared (fun _ _ failed => (by cases failed)) ?_ ?_
    · intro fate final _
      exact (permitted final _ posted).guarantee fate
    · intro fate final envelope _ accepted
      have effective := takesEffect_eq.1 envelope accepted
      have there : (Account.perform service (.write (.post .txt name
          (RecordType.txt.content value) ttl proxied)) fate final).2.has name
            value := by
        simp only [Account.perform, effective, if_true]
        exact Account.has_post challenge
      refine (held_shared (fun _ => there)
        (writes_shared fun change member => permitted _ change
          (List.mem_append_right _ (.tail _ member)))).mono ?_
      exact fun _ _ _ both _ => both.2

/-- Accounts serve solvers although a change takes several calls. -/
def lawful (service : Service) (challenges : Challenges) :
    (host service challenges).Lawful where
  Evolves := Evolves challenges
  refl := Evolves.refl
  trans := Evolves.trans
  edited := Evolves.edit
  get_sat := by
    intro Kept Own name account
    refine Program.sat_bind_except (list_shared.mono ?_)
    intro result later _ lists
    rcases result with error | records
    · exact fun _ _ _ _ same => (by cases same)
    · intro final relied holds found same value member kept
      have read : observed name .txt records = some found := Except.ok.inj same
      have shown : value ∈
          valuesOf ((observed name .txt records).map (·.set)) := by
        rw [read]
        exact member
      obtain ⟨record, listed, shows⟩ := mem_values.mp shown
      exact relied.2 name value kept
        ((lists records rfl record listed).held value shows kept)
  add_sat := by
    intro Kept solver name value current account challenge
    refine replace_shared (fun _ _ _ same => (by cases same)) ?_ ?_
    · intro result account later held relied _ ticket same kept
      exact relied.2 name value kept (held ticket same kept)
    · intro records later known accepted
      have permitted : ∀ account, ∀ change ∈ plan name .txt records
          (some (solver.withValue name value current)),
          Permitted challenges (fun _ _ => False) name account change :=
        fun _ _ member => permitted_add accepted member
      rcases added_or_post solver name value current records with
        ⟨record, member, shown⟩ | ⟨ttl, proxied, posted⟩
      · refine (held_shared ((known record member).held value shown)
          (writes_shared (permitted later))).mono ?_
        exact fun _ _ _ both _ _ _ => both.2
      · refine (posted_shared challenge permitted posted).mono ?_
        exact fun _ _ _ held isOk _ _ => held isOk
  remove_sat := by
    intro Kept Own name value current account challenge own
    refine replace_shared (fun _ _ => trivial) (fun _ _ _ _ _ _ => trivial) ?_
    intro records later known accepted
    exact (writes_shared fun _ member => permitted_remove known accepted
      challenge own member).mono fun _ _ _ _ _ => trivial
  synced_sat := by
    intro Kept Own ticket account
    cases ticket with
    | immediate | route53 changeId => exact fun _ _ _ => trivial

end SieveTube.Dns.Cloudflare
