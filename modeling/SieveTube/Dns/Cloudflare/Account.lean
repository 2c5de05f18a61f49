import SieveTube.Dns.Challenge
import SieveTube.Dns.Cloudflare.Stage

/-!
# The records of all names

An account holds the records of every name and type.  Solvers and operators
change it call by call, each at any time, so what a listing says may be out
of date when a record is changed by its id.  Ids are never handed out twice,
and a record with a challenge value keeps it as long as the record exists.
-/

namespace SieveTube.Dns.Cloudflare

structure Hosted where
  name : String
  recordType : RecordType
  record : CfRecord

/-- What a record says and where, apart from its settings. -/
def Hosted.entry (hosted : Hosted) : String × RecordType × String :=
  (hosted.name, hosted.recordType, hosted.record.content)

/-- The record gives a TXT value to a name. -/
def Hosted.shows (hosted : Hosted) (name value : String) : Bool :=
  hosted.name = name && hosted.recordType = .txt && valueOf .txt hosted.record =
    some value

theorem Hosted.shows_of_entry {first second : Hosted}
    (same : first.entry = second.entry) (name value : String) :
    first.shows name value = second.shows name value := by
  simp only [Hosted.entry, Prod.mk.injEq] at same
  obtain ⟨name, recordType, content⟩ := same
  unfold Hosted.shows valueOf
  rw [name, recordType, content]

structure Account where
  records : List Hosted
  used : List String
  known : ∀ hosted ∈ records, hosted.record.id ∈ used
  distinct : (records.map fun hosted => hosted.record.id).Nodup

namespace Account

/-- The records of one name and type. -/
def zone (account : Account) (name : String)
    (recordType : RecordType) : Zone where
  records := (account.records.filter fun hosted =>
    hosted.name = name && hosted.recordType = recordType).map (·.record)
  used := account.used
  known := by
    intro record member
    obtain ⟨hosted, found, rfl⟩ := List.mem_map.mp member
    exact account.known hosted (List.mem_of_mem_filter found)
  distinct := by
    rw [List.map_map]
    exact account.distinct.sublist (List.filter_sublist.map _)

/-- Change records in place. -/
def alter (account : Account) (change : Hosted → Hosted)
    (same : ∀ hosted, (change hosted).record.id = hosted.record.id) :
    Account where
  records := account.records.map change
  used := account.used
  known := by
    intro hosted member
    obtain ⟨source, found, rfl⟩ := List.mem_map.mp member
    rw [same]
    exact account.known source found
  distinct := by
    rw [List.map_map]
    have ids : (fun hosted : Hosted => hosted.record.id) ∘ change =
        fun hosted => hosted.record.id := funext same
    rw [ids]
    exact account.distinct

def patch (account : Account) (id : String) (ttl : UInt32)
    (proxied : Option Bool) : Account :=
  account.alter
    (fun hosted =>
      { hosted with record := hosted.record.patched id ttl proxied })
    (fun _ => CfRecord.patched_id ..)

def post (service : Service) (account : Account) (recordType : RecordType)
    (name content : String) (ttl : UInt32) (proxied : Option Bool) :
    Account where
  records := account.records ++
    [{ name
       recordType
       record :=
        { id := service.fresh account.used
          content
          ttl
          proxied := proxied.or service.unproxied } }]
  used := service.fresh account.used :: account.used
  known := by
    intro hosted member
    rcases List.mem_append.mp member with old | new
    · exact List.mem_cons_of_mem _ (account.known hosted old)
    · obtain rfl := List.mem_singleton.mp new
      exact List.mem_cons_self
  distinct := by
    rw [List.map_append, List.nodup_append]
    refine ⟨account.distinct, by simp, ?_⟩
    intro id old other new
    obtain ⟨hosted, member, rfl⟩ := List.mem_map.mp old
    obtain rfl := List.mem_singleton.mp new
    intro same
    have reused : hosted.record.id = service.fresh account.used := same
    exact service.fresh_not_mem account.used
      (reused ▸ account.known hosted member)

def delete (account : Account) (id : String) : Account where
  records := account.records.filter fun hosted => hosted.record.id ≠ id
  used := account.used
  known := fun hosted member =>
    account.known hosted (List.mem_of_mem_filter member)
  distinct := account.distinct.sublist (List.filter_sublist.map _)

def apply (service : Service) (account : Account) : Write → Account
  | .patch id ttl proxied => account.patch id ttl proxied
  | .post recordType name content ttl proxied =>
    account.post service recordType name content ttl proxied
  | .delete id => account.delete id

def perform (service : Service) :
    (op : ApiOp) → Fate → Account → ApiAnswer op × Account
  | .list name recordType number, fate, account =>
    let records := (account.zone name recordType).records
    (fate.exchange.fill (page records number) (totalPages records), account)
  | .write change, fate, account =>
    (fate.exchange,
      if fate.takesEffect then account.apply service change else account)

def has (account : Account) (name value : String) : Bool :=
  account.records.any fun hosted => hosted.shows name value

end Account

/-- Values for challenges: printable text that fits into a record. -/
structure Challenges where
  contains : String → Bool
  printable : ∀ value, contains value → Text.byteLength value.toList ≤ 4000 ∧
      value.toList.any Text.isControl = false

/-- The record shows a challenge value. -/
def Challenges.protects (challenges : Challenges) (hosted : Hosted) : Bool :=
  hosted.recordType =
    .txt && (valueOf .txt hosted.record).any challenges.contains

/-- What operators do.  They replace the text of a record only if it is not a
challenge value; such records they may still delete. -/
inductive AccountEdit where
  | write (change : Write)
  | rewrite (id name : String) (recordType : RecordType) (content : String)

/-- The record with another text. -/
def Hosted.rewritten (challenges : Challenges) (id name : String)
    (recordType : RecordType) (content : String) (hosted : Hosted) :
    Hosted :=
  if hosted.record.id = id ∧ ¬ challenges.protects hosted then
    { name, recordType, record := { hosted.record with content } }
  else hosted

def Account.edit (service : Service) (challenges : Challenges) :
    AccountEdit → Account → Account
  | .write change, account => account.apply service change
  | .rewrite id name recordType content, account =>
    account.alter (Hosted.rewritten challenges id name recordType content)
      (fun hosted => by unfold Hosted.rewritten; split <;> rfl)

/-- A change by Cloudflare is there when its calls were accepted. -/
def changeSynced : ChangeTicket → Calls Bool
  | .immediate => return true
  | .route53 _ =>
    throw (.unsupported "change ticket does not belong to this provider")

def host (service : Service) (challenges : Challenges) : TxtHost where
  Api := ApiOp
  ApiAnswer := ApiAnswer
  ApiFate := Fate
  Zone := Account
  Edit := AccountEdit
  calls := { get, replace, changeSynced }
  perform := Account.perform service
  edit := Account.edit service challenges
  has := Account.has
  Challenge := fun value => challenges.contains value

section Changes

variable {service : Service} {challenges : Challenges}
variable {account : Account} {hosted : Hosted} {name value : String}

theorem Account.has_iff : account.has name value ↔
      ∃ hosted ∈ account.records, hosted.shows name value := by
  simp [Account.has]

variable {change : Write}

theorem Account.mem_apply
    (member : hosted ∈ (account.apply service change).records) :
    (∃ before ∈ account.records,
      before.record.id = hosted.record.id ∧ before.entry = hosted.entry) ∨
      hosted.record.id ∉ account.used := by
  cases change with
  | patch id ttl proxied =>
    obtain ⟨before, stored, rfl⟩ := List.mem_map.mp member
    refine .inl ⟨before, stored, (CfRecord.patched_id ..).symm, ?_⟩
    simp [Hosted.entry]
  | post recordType name content ttl proxied =>
    rcases List.mem_append.mp member with stored | created
    · exact .inl ⟨hosted, stored, rfl, rfl⟩
    · obtain rfl := List.mem_singleton.mp created
      exact .inr (service.fresh_not_mem account.used)
  | delete id => exact .inl ⟨hosted, List.mem_of_mem_filter member, rfl, rfl⟩

theorem Account.exists_apply (member : hosted ∈ account.records)
    (kept : change ≠ .delete hosted.record.id) :
    ∃ later ∈ (account.apply service change).records,
      later.entry = hosted.entry := by
  cases change with
  | patch id ttl proxied =>
    exact ⟨_, List.mem_map_of_mem member, by simp [Hosted.entry]⟩
  | post recordType name content ttl proxied =>
    exact ⟨hosted, List.mem_append_left _ member, rfl⟩
  | delete id =>
    refine ⟨hosted, List.mem_filter.mpr ⟨member, ?_⟩, rfl⟩
    simpa using fun same : hosted.record.id = id => kept (same ▸ rfl)

/-- How an account can change: ids are not used again, and no record with a
challenge value gets another one. -/
structure Evolves (challenges : Challenges) (first later : Account) : Prop where
  used : ∀ id ∈ first.used, id ∈ later.used
  source : ∀ hosted ∈ later.records, hosted.record.id ∈ first.used →
    ∃ before ∈ first.records, before.record.id = hosted.record.id ∧
      (challenges.protects before → before.entry = hosted.entry)

theorem Challenges.protects_of_entry {first second : Hosted}
    (same : first.entry = second.entry) :
    challenges.protects first = challenges.protects second := by
  simp only [Hosted.entry, Prod.mk.injEq] at same
  obtain ⟨_, recordType, content⟩ := same
  unfold Challenges.protects valueOf
  rw [recordType, content]

theorem Evolves.refl (account : Account) :
    Evolves challenges account account where
  used := fun _ member => member
  source := fun hosted member _ => ⟨hosted, member, rfl, fun _ => rfl⟩

theorem Evolves.trans {first second third : Account}
    (one : Evolves challenges first second)
    (two : Evolves challenges second third) :
    Evolves challenges first third where
  used := fun id member => two.used id (one.used id member)
  source := by
    intro hosted member old
    obtain ⟨middle, middleMember, middleId, middleEntry⟩ :=
      two.source hosted member (one.used _ old)
    obtain ⟨before, beforeMember, beforeId, beforeEntry⟩ :=
      one.source middle middleMember (middleId ▸ old)
    refine ⟨before, beforeMember, beforeId.trans middleId, ?_⟩
    intro protects
    have same := beforeEntry protects
    rw [Challenges.protects_of_entry same] at protects
    exact same.trans (middleEntry protects)

theorem Evolves.apply (account : Account) (change : Write) :
    Evolves challenges account (account.apply service change) where
  used := by
    intro id member
    cases change with
    | patch _ _ _ | delete _ => exact member
    | post _ _ _ _ _ => exact List.mem_cons_of_mem _ member
  source := by
    intro hosted member old
    rcases Account.mem_apply member with ⟨before, stored, same, entry⟩ | new
    · exact ⟨before, stored, same, fun _ => entry⟩
    · exact absurd old new

theorem Evolves.edit (edit : AccountEdit) (account : Account) :
    Evolves challenges account (account.edit service challenges edit) := by
  cases edit with
  | write change => exact Evolves.apply account change
  | rewrite id name recordType content =>
    refine ⟨fun _ member => member, ?_⟩
    intro hosted member _
    obtain ⟨before, stored, rfl⟩ := List.mem_map.mp member
    refine ⟨before, stored, ?_, ?_⟩
    · unfold Hosted.rewritten
      split <;> rfl
    · intro protects
      rw [Hosted.rewritten, if_neg (fun both => both.2 protects)]

/-- The record was seen under a name and may have changed since. -/
def Seen (challenges : Challenges) (name : String) (account : Account)
    (record : CfRecord) : Prop :=
  ∃ earlier, Evolves challenges earlier account ∧
    { name, recordType := .txt, record } ∈ earlier.records

variable {record : CfRecord}

section

variable (seen : Seen challenges name account record)
include seen

theorem Seen.evolves {later : Account}
    (evolves : Evolves challenges account later) :
    Seen challenges name later record := by
  obtain ⟨earlier, before, member⟩ := seen
  exact ⟨earlier, before.trans evolves, member⟩

/-- A record that was seen with a challenge value still has it if it is
there. -/
theorem Seen.entry (shown : valueOf .txt record = some value)
    (challenge : challenges.contains value) (member : hosted ∈ account.records)
    (same : hosted.record.id = record.id) :
    hosted.entry = (name, .txt, record.content) := by
  obtain ⟨earlier, evolves, found⟩ := seen
  have old : hosted.record.id ∈ earlier.used := by
    rw [same]
    exact earlier.known _ found
  obtain ⟨before, stored, beforeId, entry⟩ := evolves.source hosted member old
  have unique : before = { name, recordType := .txt, record } :=
    List.inj_on_of_nodup_map earlier.distinct stored found (beforeId.trans same)
  subst unique
  exact (entry (by simp [Challenges.protects, shown, challenge])).symm

/-- Deleting a record that was seen with a challenge value takes no other
value away. -/
theorem Seen.has_delete (shown : valueOf .txt record = some value)
    (challenge : challenges.contains value) {other text : String}
    (held : account.has other text) :
    (account.delete record.id).has other text ∨
      (other = name ∧ text = value) := by
  obtain ⟨hosted, member, shows⟩ := Account.has_iff.mp held
  by_cases same : hosted.record.id = record.id
  · right
    have entry := seen.entry shown challenge member same
    have found : hosted.entry =
        Hosted.entry { name, recordType := .txt, record } := entry
    rw [Hosted.shows_of_entry found] at shows
    simp only [Hosted.shows, decide_true, Bool.and_true, Bool.and_eq_true,
      decide_eq_true_eq, shown, Option.some.injEq] at shows
    exact ⟨shows.1.symm, shows.2.symm⟩
  · left
    exact Account.has_iff.mpr
      ⟨hosted, List.mem_filter.mpr ⟨member, by simpa using same⟩, shows⟩

end

theorem Account.has_apply (kept : ∀ id, change ≠ .delete id)
    (held : account.has name value) :
    (account.apply service change).has name value := by
  obtain ⟨hosted, member, shows⟩ := Account.has_iff.mp held
  obtain ⟨later, laterMember, same⟩ :=
    Account.exists_apply member (kept hosted.record.id)
  rw [← Hosted.shows_of_entry same] at shows
  exact Account.has_iff.mpr ⟨later, laterMember, shows⟩

/-- A challenge value is read back from the record created for it. -/
theorem Challenges.valueOf_content (challenge : challenges.contains value)
    (content : record.content = RecordType.txt.content value) :
    valueOf .txt record = some value := by
  obtain ⟨short, plain⟩ := challenges.printable value challenge
  have read : RecordType.txt.normalizeValue (RecordType.txt.content value) =
      .ok value := by
    simp only [RecordType.normalizeValue, RecordType.content,
      String.toList_ofList, trim_quoteTxt, RecordType.canonicalTxt,
      unquoteTxt_quoteTxt, plain]
    simp [Nat.not_lt.mpr short]
  rw [valueOf, content, read]
  rfl

theorem Account.has_post (challenge : challenges.contains value) {ttl : UInt32}
    {proxied : Option Bool} :
    (account.apply service (.post .txt name (RecordType.txt.content value)
      ttl proxied)).has name value := by
  refine Account.has_iff.mpr
    ⟨_, List.mem_append_right _ (List.mem_singleton_self _), ?_⟩
  simp [Hosted.shows, challenges.valueOf_content challenge]

end Changes

end SieveTube.Dns.Cloudflare
