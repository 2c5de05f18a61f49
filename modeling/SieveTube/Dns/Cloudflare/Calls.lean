import SieveTube.Dns.Cloudflare

/-!
# What the adapter's programs do

A change is a listing, a check and a list of writes that is carried out in
order until a call fails.  The judgements below say what each program of the
adapter returns and where it may leave the records.
-/

namespace SieveTube.Dns.Cloudflare

theorem readResponse_cases {Result : Type} (status : StatusCode)
    (retryAfter : Option Nat) (body : Except String (Envelope Result)) :
    (∃ envelope, body = .ok envelope ∧ envelope.success = true ∧
        readResponse status retryAfter body = .ok envelope) ∨
      (∃ envelope, body = .ok envelope ∧ envelope.success = false ∧
        readResponse status retryAfter body =
          .error (rejection envelope.errors)) ∨
      ∃ error, readResponse status retryAfter body = .error error ∧
        error.isConflict = false := by
  unfold readResponse
  split
  · exact .inr (.inr ⟨_, rfl, rfl⟩)
  · split
    · exact .inr (.inr ⟨_, rfl, rfl⟩)
    · split
      · exact .inr (.inr ⟨_, rfl, rfl⟩)
      · rcases body with detail | envelope
        · exact .inr (.inr ⟨_, rfl, rfl⟩)
        · cases success : envelope.success with
          | true => exact .inl ⟨envelope, rfl, success, by simp [success]⟩
          | false =>
            exact .inr (.inl ⟨envelope, rfl, success, by simp [success]⟩)

/-- A change that was accepted was made; one that was rejected as a conflict
was not. -/
theorem takesEffect_eq {fate : Fate} :
    (∀ envelope, fate.exchange.outcome = .ok envelope →
      fate.takesEffect = true) ∧
      ∀ reason, fate.exchange.outcome = .error (.conflict reason) →
      fate.takesEffect = false := by
  obtain ⟨exchange, applied⟩ := fate
  cases exchange with
  | invalid _ | timedOut | failed _ | unreadable _ =>
    exact ⟨fun _ accepted => (by cases accepted),
      fun _ rejected => (by cases rejected)⟩
  | answered status retryAfter body =>
    simp only [Exchange.outcome]
    rcases readResponse_cases status retryAfter body with
      ⟨envelope, rfl, success, read⟩ | ⟨envelope, rfl, failure, read⟩ | ⟨error,
        read, harmless⟩
    · rw [read]
      exact ⟨fun _ _ => success, fun _ rejected => (by cases rejected)⟩
    · rw [read]
      exact ⟨fun _ accepted => (by cases accepted), fun _ _ => failure⟩
    · rw [read]
      refine ⟨fun _ accepted => (by cases accepted), ?_⟩
      intro reason rejected
      obtain rfl := Except.error.inj rejected
      cases harmless

section Plan

variable (name : String) (recordType : RecordType)

/-- The call that creates or updates the record of a value, if one is
needed. -/
def changesFor (records : List CfRecord) (desired : RecordSet)
    (proxied : Bool) (value : String) : List Write :=
  match records.find? fun record =>
      valueOf recordType record = some value with
  | some record =>
    if record.ttl ≠
        desired.ttl || (proxiable recordType && record.proxied ≠
          some proxied) then
      [.patch record.id desired.ttl (bodyProxied recordType proxied)]
    else []
  | none =>
    [.post recordType name (recordType.content value) desired.ttl
      (bodyProxied recordType proxied)]

def deletions (records : List CfRecord) (desired : Option RecordSet) :
    List Write :=
  (obsolete recordType records desired).map fun record => .delete record.id

/-- The proxy setting a change leads to. -/
def effectiveProxied (current : Option Observed) (desired : RecordSet) :
    Bool :=
  (desired.proxied.or (current.bind (·.set.proxied))).getD false

def settings (records : List CfRecord) (current : Option Observed) :
    Option RecordSet → List Write
  | none => []
  | some desired => desired.values.sort.flatMap
      (changesFor name recordType records desired
        (effectiveProxied current desired))

/-- All calls of a change, in order. -/
def plan (records : List CfRecord) (desired : Option RecordSet) :
    List Write :=
  let current := observed name recordType records
  if recordType = .cname then
    deletions recordType records desired ++
      settings name recordType records current desired
  else
    settings name recordType records current desired ++
      deletions recordType records desired

/-- Why a change is refused before anything is written. -/
def refusal (expected : Option RecordSet) (records : List CfRecord) :
    Option String :=
  let current := observed name recordType records
  match current.bind (·.unsupported) with
  | some reason => some reason
  | none =>
    if sameOptional (current.map (·.set)) expected then none
    else some "record set changed at the provider"

/-- What a change does with the records it has listed. -/
def afterListing (expected desired : Option RecordSet)
    (records : List CfRecord) : Calls ChangeTicket :=
  match refusal name recordType expected records with
  | some reason => throw (.conflict reason)
  | none => do
    forM (plan name recordType records desired) write
    return .immediate

variable {name recordType}

theorem applyValue_eq (records : List CfRecord) (desired : RecordSet)
    (proxied : Bool) (value : String) :
    applyValue name recordType records desired proxied value =
      forM (changesFor name recordType records desired proxied value)
        write := by
  unfold applyValue changesFor
  cases records.find? fun record => valueOf recordType record = some value with
  | some record =>
    simp only
    split <;> simp
  | none => simp

theorem forM_flatMap {Source : Type} (sources : List Source)
    (changes : Source → List Write) :
    forM (sources.flatMap changes) write =
      forM sources fun source => forM (changes source) write := by
  induction sources with
  | nil => rfl
  | cons source sources ih => simp [List.flatMap_cons, List.forM_append, ih]

theorem applyValues_eq (records : List CfRecord) (current : Option Observed)
    (desired : Option RecordSet) :
    applyValues name recordType records current desired =
      forM (settings name recordType records current desired) write := by
  cases desired with
  | none => rfl
  | some desired =>
    simp only [applyValues, settings, forM_flatMap, ← applyValue_eq]
    rfl

theorem replace_eq (expected desired : Option RecordSet) :
    replace name recordType expected desired =
      list name recordType >>= afterListing name recordType expected
        desired := by
  have deletes : ∀ records, deleteRecords records =
      forM (records.map fun record => Write.delete record.id) write := by
    intro records
    rw [List.forM_map]
    rfl
  unfold replace
  congr 1
  funext records
  unfold afterListing refusal plan deletions
  simp only [applyValues_eq, deletes]
  cases (observed name recordType records).bind (·.unsupported) with
  | some reason => rfl
  | none =>
    by_cases same : sameOptional
      ((observed name recordType records).map (·.set)) expected
    · simp only [same, if_true]
      by_cases cname : recordType = .cname
      · simp [cname, List.forM_append]
      · simp [cname, List.forM_append]
    · simp [same]

end Plan

/-- The view of an adapter that alone works on the records. -/
def serviceView (service : Service) (Allowed : Fate → Prop)
    (Invariant : World → Prop) : View ApiOp ApiAnswer Fate World where
  perform := perform service
  Allowed
  Invariant
  Rely := Eq
  Guarantee := fun _ _ => True
  rely_refl := fun _ => rfl
  rely_trans := Eq.trans

/-- A call is accepted. -/
def Fate.success : Fate :=
  { exchange := .answered ⟨200, "200 OK"⟩ none (.ok
      { success := true, errors := [], result := some (), totalPages := none })
    applied := true }

section Fill

variable {Result : Type} {result : Result} {pages : Nat}
variable {exchange : Exchange Unit}

theorem fill_of_ok {envelope : Envelope Result}
    (accepted : (exchange.fill result pages).outcome = .ok envelope) :
    envelope.result = some result ∧ envelope.totalPages = some pages := by
  cases exchange with
  | invalid _ | timedOut | failed _ | unreadable _ => cases accepted
  | answered status retryAfter body =>
    rcases body with detail | answered
    · rcases readResponse_cases status retryAfter
        (.error detail : Except String (Envelope Result)) with
          ⟨_, same, _⟩ | ⟨_, same, _⟩ | ⟨error, read, _⟩
      · cases same
      · cases same
      · cases read.symm.trans accepted
    · simp only [Exchange.fill, Exchange.outcome] at accepted
      rcases readResponse_cases status retryAfter _ with
          ⟨found, same, success, read⟩ | ⟨found, same, _, read⟩ | ⟨error,
            read, _⟩
      · rw [read] at accepted
        obtain rfl := Except.ok.inj accepted
        obtain rfl := Except.ok.inj same
        have success : answered.success = true := success
        simp [success]
      · cases read.symm.trans accepted
      · cases read.symm.trans accepted

end Fill

/-- The call is answered with an error. -/
def Fate.fails (fate : Fate) : Bool := !fate.exchange.outcome.isOk

/-- The calls of a listing if none of them fails. -/
def listCalls (zone : Zone) : Nat :=
  max 1 (min (totalPages zone.records) maxPages)

/-- The records such a listing finds. -/
def listing (zone : Zone) : List CfRecord :=
  zone.records.take (pageSize * maxPages)

section Listing

variable {zone : Zone}

theorem mem_of_mem_listing {record : CfRecord}
    (member : record ∈ listing zone) :
    record ∈ zone.records :=
  List.mem_of_mem_take member

theorem listing_ne_nil (present : zone.records ≠ []) : listing zone ≠ [] := by
  simpa [listing, pageSize, maxPages] using present

theorem listing_of_few (few : zone.records.length ≤ pageSize * maxPages) :
    listing zone = zone.records :=
  List.take_of_length_le few

theorem take_append_page (records : List CfRecord) {number : Nat}
    (positive : 0 < number) :
    records.take (pageSize * (number - 1)) ++ page records number =
      records.take (pageSize * number) := by
  have split : pageSize * number = pageSize * (number - 1) + pageSize := by
    rw [← Nat.mul_succ, Nat.succ_eq_add_one, Nat.sub_add_cancel positive]
  rw [split, List.take_add]
  rfl

theorem listing_eq :
    zone.records.take (pageSize * listCalls zone) = listing zone := by
  unfold listing
  by_cases long : maxPages ≤ totalPages zone.records
  · rw [listCalls, Nat.min_eq_right long]
    rfl
  · have enough : zone.records.length ≤ pageSize * listCalls zone := by
      unfold listCalls totalPages pageSize maxPages at *
      omega
    have most : listCalls zone ≤ maxPages := by
      unfold listCalls maxPages at *
      omega
    rw [List.take_of_length_le enough, List.take_of_length_le
      (enough.trans (Nat.mul_le_mul_left pageSize most))]

variable {Value : Type} {next : List CfRecord → Calls Value}
variable {name : String} {recordType : RecordType}
variable {Holds : Nat → Calls Value → Prop}

variable (listed : Holds 0 (next (listing zone)))
variable (answered : ∀ calls number proceed,
  (∀ envelope : Envelope (List CfRecord),
    envelope.result = some (page zone.records number) →
      envelope.totalPages = some (totalPages zone.records) →
        Holds calls (proceed envelope)) →
  Holds (calls + 1) (call (.list name recordType number) >>= proceed))
include listed answered

theorem listPages_rule {left remaining number : Nat} (positive : 0 < number)
    (calls : number + left = listCalls zone)
    (pages : remaining + number = maxPages + 1) :
    Holds (left + 1) (listPages name recordType remaining
      (zone.records.take (pageSize * (number - 1))) number >>= next) := by
  have most : listCalls zone ≤ maxPages := by
    unfold listCalls maxPages
    omega
  induction remaining generalizing number left with
  | zero => omega
  | succ remaining ih =>
    rw [listPages, bind_assoc]
    refine answered left number _ fun envelope result total => ?_
    simp only [result, total, Option.getD_some, take_append_page _ positive]
    cases left with
    | zero =>
      have last : totalPages zone.records ≤ number ∨ maxPages ≤ number := by
        unfold listCalls at calls
        omega
      obtain rfl : number = listCalls zone := calls
      rw [if_pos (by simpa using last), listing_eq]
      exact listed
    | succ left =>
      have more : ¬(totalPages zone.records ≤ number ∨ maxPages ≤ number) := by
        unfold listCalls at calls
        omega
      rw [if_neg (by simpa using more)]
      exact ih (Nat.succ_pos number) (by omega) (by omega)

/-- A listing is a sequence of calls, each of which goes on with the next if
it is answered. -/
theorem list_rule :
    Holds (listCalls zone) (list name recordType >>= next) := by
  have positive : 0 < listCalls zone := by
    unfold listCalls
    omega
  rw [← Nat.sub_add_cancel positive]
  exact listPages_rule listed answered Nat.one_pos
    (Nat.add_sub_cancel' positive) rfl

end Listing

section Judgements

open Program

variable {service : Service} {Allowed : Fate → Prop}
variable {Invariant : World → Prop} {world : World}

theorem call_sat {op : ApiOp}
    {After : Except DnsError (Envelope (ApiResult op)) → World → Prop}
    (judged : ∀ fate, Allowed fate →
      Invariant (perform service op fate world).2 ∧
        After (perform service op fate world).1.outcome
          (perform service op fate world).2) :
    Program.Sat (serviceView service Allowed Invariant) After (call op)
      world := by
  rintro later rfl holds fate allowed
  obtain ⟨kept, after⟩ := judged fate allowed
  refine ⟨kept, trivial, ?_⟩
  rintro final rfl _
  exact after

theorem done_sat {Value : Type} {After : Value → World → Prop}
    {value : Value} (after : After value world) :
    Program.Sat (serviceView service Allowed Invariant) After
      (.done value) world := by
  rintro later rfl _
  exact after

theorem list_sat {name : String} {recordType : RecordType} {Value : Type}
    {next : List CfRecord → Calls Value}
    {After : Except DnsError Value → World → Prop} (holds : Invariant world)
    (failed : ∀ error, After (.error error) world)
    (listed : Program.Sat (serviceView service Allowed Invariant) After
      (next (listing world.zone)) world) :
    Program.Sat (serviceView service Allowed Invariant) After
      (list name recordType >>= next : Calls Value) world := by
  let Holds (_ : Nat) (program : Calls Value) : Prop :=
    Program.Sat (serviceView service Allowed Invariant) After program world
  have start : Holds 0 (next (listing world.zone)) := listed
  refine list_rule start fun calls number proceed rest => ?_
  refine sat_bind_except (call_sat fun fate _ => ⟨holds, ?_⟩)
  simp only [perform]
  cases outcome : (fate.exchange.fill (page world.zone.records number)
      (totalPages world.zone.records)).outcome with
  | error error => exact done_sat (failed error)
  | ok envelope =>
    obtain ⟨result, total⟩ := fill_of_ok outcome
    exact rest envelope result total

/-- The writes of a change leave the records where a part of them does. -/
theorem writes_sat {start : Zone} {changes earlier rest : List Write}
    (split : changes = earlier ++ rest)
    (zone : world.zone = start.applyAll service earlier)
    (reachable : ∀ later : World, ∀ count,
      later.zone = start.applyAll service (changes.take count) →
        Invariant later) :
    Program.Sat (serviceView service Allowed Invariant) (fun _ _ => True)
      (forM rest write : Calls Unit) world := by
  induction rest generalizing world earlier with
  | nil => exact done_sat trivial
  | cons change rest ih =>
    have made : changes.take earlier.length = earlier := by simp [split]
    have next : changes.take (earlier.length + 1) = earlier ++ [change] := by
      simp [split, List.take_append]
    have applied : start.applyAll service (earlier ++ [change]) =
        world.zone.apply service change := by
      simp [Zone.applyAll, zone]
    refine sat_bind_except (sat_bind_except (call_sat ?_))
    intro fate _
    simp only [perform]
    constructor
    · cases fate.takesEffect with
      | true =>
        exact reachable _ (earlier.length + 1) (by rw [next, applied]; rfl)
      | false => exact reachable _ earlier.length (by rw [made, ← zone]; rfl)
    · cases outcome : fate.exchange.outcome with
      | error error => exact done_sat (done_sat trivial)
      | ok envelope =>
        have accepted := takesEffect_eq.1 envelope outcome
        have later : changes = (earlier ++ [change]) ++ rest := by simp [split]
        refine done_sat (ih later ?_)
        simp [accepted, applied]

/-- An invariant that every part of the plan keeps is kept by a change. -/
theorem replace_invariant {Kept : Zone → Prop} {name : String}
    {recordType : RecordType} {expected desired : Option RecordSet}
    {zone : Zone} (start : Kept zone)
    (kept : ∀ count, Kept (zone.applyAll service
      ((plan name recordType (listing zone) desired).take count))) :
    Program.Sat (serviceView service Allowed fun world => Kept world.zone)
      (fun _ _ => True) (replace name recordType expected desired)
      ⟨zone, []⟩ := by
  rw [replace_eq]
  refine list_sat start (fun _ => trivial) ?_
  unfold afterListing
  cases refusal name recordType expected (listing zone) with
  | some reason => exact done_sat trivial
  | none =>
    refine sat_bind_except ((writes_sat (List.nil_append _).symm rfl ?_).mono
      ?_)
    · intro later count same
      rw [same]
      exact kept count
    · rintro (error | _) later - - <;> exact done_sat trivial

end Judgements

section Answers

theorem isOk_fill {Result : Type} (result : Result) (pages : Nat)
    (exchange : Exchange Unit) :
    (exchange.fill result pages).outcome.isOk = exchange.outcome.isOk := by
  rcases exchange with _ | _ | _ | _ | ⟨status, retryAfter, _ | envelope⟩
  case answered.ok | answered.error =>
    simp only [Exchange.fill, Exchange.outcome, readResponse]
    split_ifs <;> rfl
  all_goals rfl

variable (service : Service) {Value : Type} {next : List CfRecord → Calls Value}
variable {world : World} {fates : Nat → Fate} {calls : Nat}
variable {ending : Except DnsError Value × World}

theorem run_call {op : ApiOp} {next : Envelope (ApiResult op) → Calls Value} :
    Program.run (perform service) (call op >>= next : Calls Value) fates world =
      Program.run (perform service)
        (ExceptT.bindCont next (perform service op (fates 0) world).1.outcome)
        (fun index => fates (index + 1))
        (perform service op (fates 0) world).2 :=
  rfl

/-- How a program that starts with a listing goes on. -/
inductive ListingRun (next : List CfRecord → Calls Value) (world : World)
    (fates : Nat → Fate) (calls : Nat) :
    Except DnsError Value × World → Prop where
  | failed {index : Nat} {error : DnsError} (early : index < calls)
      (failing : (fates index).fails = true) :
      ListingRun next world fates calls (.error error, world)
  | listed (smooth : ∀ index < calls, (fates index).fails = false) :
      ListingRun next world fates calls
        (Program.run (perform service) (next (listing world.zone))
          (fun index => fates (index + calls)) world)

variable {service}

theorem ListingRun.later (fine : (fates 0).fails = false)
    (rest : ListingRun service next world
      (fun index => fates (index + 1)) calls ending) :
    ListingRun service next world fates (calls + 1) ending := by
  cases rest with
  | failed early failing => exact .failed (Nat.succ_lt_succ early) failing
  | listed smooth =>
    refine .listed fun index early => ?_
    cases index with
    | zero => exact fine
    | succ index => exact smooth index (Nat.lt_of_succ_lt_succ early)

theorem ListingRun.smooth
    (run : ListingRun service next world fates calls ending)
    (fine : ∀ index, (fates index).fails = false) :
    ending = Program.run (perform service) (next (listing world.zone))
      (fun index => fates (index + calls)) world := by
  cases run with
  | failed _ failing => cases (fine _).symm.trans failing
  | listed => rfl

/-- A listing ends with the first error among the answers to its calls. -/
theorem run_list (service : Service) (name : String) (recordType : RecordType)
    (next : List CfRecord → Calls Value) (world : World) (fates : Nat → Fate) :
    ListingRun service next world fates (listCalls world.zone)
      (Program.run (perform service)
        (list name recordType >>= next : Calls Value) fates world) := by
  let Holds (calls : Nat) (program : Calls Value) : Prop := ∀ fates,
    ListingRun service next world fates calls
      (Program.run (perform service) program fates world)
  have start : Holds 0 (next (listing world.zone)) := fun _ => .listed (by simp)
  refine list_rule start (fun calls number proceed rest fates => ?_) fates
  have answer := isOk_fill (page world.zone.records number)
    (totalPages world.zone.records) (fates 0).exchange
  rw [run_call]
  simp only [perform]
  cases outcome : ((fates 0).exchange.fill (page world.zone.records number)
      (totalPages world.zone.records)).outcome with
  | error error =>
    refine .failed (Nat.succ_pos calls) ?_
    rw [Fate.fails, ← answer, outcome]
    rfl
  | ok envelope =>
    obtain ⟨result, total⟩ := fill_of_ok outcome
    refine .later ?_ (rest envelope result total _)
    rw [Fate.fails, ← answer, outcome]
    rfl

end Answers

section Accepted

variable (service : Service)

/-- With every call accepted, each further call makes one more write. -/
theorem cutOff_forM {Value : Type} {changes : List Write}
    {next : Unit → Calls Value} {count : Nat}
    (within : count ≤ changes.length) (world : World) :
    (Program.cutOff (perform service)
      (forM changes write >>= next : Calls Value)
      (fun _ => Fate.success) count world).zone =
        world.zone.applyAll service (changes.take count) := by
  induction changes generalizing count world with
  | nil =>
    obtain rfl : count = 0 := by simpa using within
    rw [Program.cutOff_zero]
    rfl
  | cons change changes ih =>
    cases count with
    | zero => rfl
    | succ count =>
      exact ih (by simpa using within)
        ⟨world.zone.apply service change, change :: world.writes⟩

theorem list_run {name : String} {recordType : RecordType} {world : World} :
    Program.run (perform service) (list name recordType)
      (fun _ => Fate.success) world = (.ok (listing world.zone), world) := by
  rw [← bind_pure (list name recordType)]
  exact (run_list service name recordType pure world _).smooth fun _ => rfl

/-- A reading that succeeds is one of the listed records. -/
theorem eq_of_get {name : String} {recordType : RecordType} {world : World}
    {fates : Nat → Fate} {found : Option Observed}
    (accepted : (Program.run (perform service) (get name recordType) fates
      world).1 = .ok found) :
    found = observed name recordType (listing world.zone) := by
  have lists := run_list service name recordType
    (fun records => pure (observed name recordType records)) world fates
  unfold get at accepted
  generalize Program.run (perform service) _ fates world =
    ending at accepted lists
  cases lists with
  | failed => cases accepted
  | listed => exact (Except.ok.inj accepted).symm

theorem get_run (name : String) (recordType : RecordType) {world : World}
    (few : world.zone.records.length ≤ pageSize * maxPages) :
    (∀ fates found, (Program.run (perform service) (get name recordType)
        fates world).1 = .ok found →
      found = observed name recordType world.zone.records) ∧
    ∃ fates, (Program.run (perform service) (get name recordType) fates
      world).1 = .ok (observed name recordType world.zone.records) := by
  rw [← listing_of_few few]
  refine ⟨fun fates found => eq_of_get service, fun _ => Fate.success, ?_⟩
  exact congrArg Prod.fst ((run_list service name recordType
    (fun records => pure (observed name recordType records)) world _).smooth
      fun _ => rfl)

/-- A change can be cut off after any number of its writes. -/
theorem exists_cutOff_replace {name : String} {recordType : RecordType}
    {expected desired : Option RecordSet} {zone : Zone}
    (few : zone.records.length ≤ pageSize * maxPages)
    (accepted : refusal name recordType expected zone.records = none)
    {count : Nat}
    (within : count ≤ (plan name recordType zone.records desired).length) :
    ∃ fates calls, (Program.cutOff (perform service)
        (replace name recordType expected desired) fates calls
        ⟨zone, []⟩).zone =
      zone.applyAll service
        ((plan name recordType zone.records desired).take count) := by
  obtain ⟨listing, reached⟩ := Program.exists_cutOff_bind (perform service)
    Fate.success (list name recordType)
    (ExceptT.bindCont (afterListing name recordType expected desired))
      ⟨zone, []⟩
  refine ⟨fun _ => Fate.success, listing + count, ?_⟩
  rw [replace_eq]
  refine (congrArg World.zone (reached count)).trans ?_
  rw [list_run, listing_of_few few]
  simp only [afterListing, ExceptT.bindCont, accepted]
  exact cutOff_forM _ within ⟨zone, []⟩

end Accepted

end SieveTube.Dns.Cloudflare
