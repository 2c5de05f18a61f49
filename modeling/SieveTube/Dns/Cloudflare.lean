import Mathlib.Data.Finset.Sort
import Mathlib.Data.String.Basic
import SieveTube.Dns.Value
import SieveTube.Library.Program

/-!
# The Cloudflare adapter

Cloudflare stores one record per value; the adapter presents them as a single
record set and applies the difference value by value.  Its operations are
programs over the calls of the API, run against the records of one name and
type.
-/

namespace SieveTube.Dns.Cloudflare

structure CfRecord where
  id : String
  content : String
  ttl : UInt32
  proxied : Option Bool

structure ApiMessage where
  code : Int
  message : String

structure Envelope (Result : Type) where
  success : Bool
  errors : List ApiMessage
  result : Option Result
  totalPages : Option Nat

/-- A status with the text it is displayed as. -/
structure StatusCode where
  code : Nat
  text : String

/-- What comes back for a request. -/
inductive Exchange (Result : Type) where
  | invalid (detail : String)
  | timedOut
  | failed (detail : String)
  | unreadable (detail : String)
  | answered (status : StatusCode) (retryAfter : Option Nat)
      (body : Except String (Envelope Result))

/-- Error codes meaning "a conflicting record already exists". -/
def conflictCodes : List Int := [81053, 81057, 81058]

def messages (errors : List ApiMessage) : String :=
  "; ".intercalate (errors.map fun error =>
    error.message ++ " (" ++ toString error.code ++ ")")

def rejection (errors : List ApiMessage) : DnsError :=
  if errors.any fun error => conflictCodes.contains error.code then
    .conflict (messages errors)
  else .provider (messages errors)

/-- How `call` reads a response. -/
def readResponse {Result : Type} (status : StatusCode)
    (retryAfter : Option Nat) (body : Except String (Envelope Result)) :
    Except DnsError (Envelope Result) :=
  if status.code = 429 then .error (.rateLimited retryAfter)
  else if status.code = 401 || status.code = 403 then
    .error (.auth (match body with
      | .ok envelope => messages envelope.errors
      | .error _ => status.text))
  else if 500 ≤ status.code && status.code < 600 then
    .error (.provider ("HTTP " ++ status.text))
  else match body with
    | .error detail => .error (.provider
        ("unexpected response (HTTP " ++ status.text ++ "): " ++ detail))
    | .ok envelope =>
      if envelope.success then .ok envelope
      else .error (rejection envelope.errors)

def Exchange.outcome {Result : Type} :
    Exchange Result → Except DnsError (Envelope Result)
  | .invalid detail => .error (.provider ("invalid request: " ++ detail))
  | .timedOut => .error .timeout
  | .failed detail => .error (.provider ("request failed: " ++ detail))
  | .unreadable detail =>
    .error (.provider ("reading response failed: " ++ detail))
  | .answered status retryAfter body => readResponse status retryAfter body

/-- The calls that change records. -/
inductive Write where
  | patch (id : String) (ttl : UInt32) (proxied : Option Bool)
  | post (recordType : RecordType) (name content : String) (ttl : UInt32)
      (proxied : Option Bool)
  | delete (id : String)

inductive ApiOp where
  | list (name : String) (recordType : RecordType) (page : Nat)
  | write (write : Write)

@[reducible]
def ApiResult : ApiOp → Type
  | .list _ _ _ => List CfRecord
  | .write _ => Unit

@[reducible]
def ApiAnswer (op : ApiOp) : Type := Exchange (ApiResult op)

/-- A sequence of calls that ends with the first error. -/
abbrev Calls := ExceptT DnsError (Program ApiOp ApiAnswer)

def call (op : ApiOp) : Calls (Envelope (ApiResult op)) := ExceptT.mk do
    let exchange ← Program.ask op
    return exchange.outcome

def pageSize : Nat := 100

def maxPages : Nat := 1000

def listPages (name : String) (recordType : RecordType) :
    Nat → List CfRecord → Nat → Calls (List CfRecord)
  | 0, records, _ => return records
  | remaining + 1, records, page => do
      let envelope ← call (.list name recordType page)
      let records := records ++ envelope.result.getD []
      if envelope.totalPages.getD 1 ≤ page || maxPages ≤ page then
        return records
      else listPages name recordType remaining records (page + 1)

def list (name : String) (recordType : RecordType) : Calls (List CfRecord) :=
  listPages name recordType maxPages [] 1

def proxiable : RecordType → Bool
  | .a => true
  | .aaaa => true
  | .cname => true
  | .txt => false

def valueOf (recordType : RecordType) (record : CfRecord) : Option String :=
  (recordType.normalizeValue record.content).toOption

def observed (name : String) (recordType : RecordType) :
    List CfRecord → Option Observed
  | [] => none
  | first :: rest =>
    let records := first :: rest
    let values := (records.filterMap (valueOf recordType)).toFinset
    let proxySettings := (records.map (·.proxied)).toFinset
    let unsupported :=
      if values.card ≠ records.length then
        some "duplicate or unparsable record values"
      else if records.any fun record => record.ttl ≠ first.ttl then
        some "records with different TTLs"
      else if 1 < proxySettings.card then
        some "records with different proxy settings"
      else none
    some
      { set :=
          { name
            recordType
            ttl := first.ttl
            values
            proxied := if proxiable recordType then first.proxied else none }
        unsupported }

def get (name : String) (recordType : RecordType) : Calls (Option Observed) :=
  do
  let records ← list name recordType
  return observed name recordType records

def write (change : Write) : Calls Unit := do
  let _ ← call (.write change)
  return ()

def deleteRecords (records : List CfRecord) : Calls Unit :=
  records.forM fun record => write (.delete record.id)

section Replace

variable (name : String) (recordType : RecordType)

/-- The proxy setting in the body of a request. -/
def bodyProxied (proxied : Bool) : Option Bool :=
  if proxiable recordType then some proxied else none

/-- Create the record of a value, or bring an existing one up to date. -/
def applyValue (records : List CfRecord) (desired : RecordSet)
    (proxied : Bool) (value : String) : Calls Unit :=
  match records.find? fun record =>
      valueOf recordType record = some value with
  | some record =>
    let proxyChanged := proxiable recordType && record.proxied ≠ some proxied
    if record.ttl ≠ desired.ttl || proxyChanged then
      write (.patch record.id desired.ttl (bodyProxied recordType proxied))
    else return ()
  | none =>
    write (.post recordType name (recordType.content value) desired.ttl
      (bodyProxied recordType proxied))

instance stringLeTrans : IsTrans String (· ≤ ·) := instIsTransLe

instance stringLeAntisymm : Std.Antisymm (α := String) (· ≤ ·) := instAntisymmLe

def applyValues (records : List CfRecord) (current : Option Observed)
    (desired : Option RecordSet) : Calls Unit :=
  match desired with
  | none => return ()
  | some desired =>
    let proxied := (desired.proxied.or (current.bind (·.set.proxied))).getD
      false
    desired.values.sort.forM (applyValue name recordType records
      desired proxied)

def obsolete (records : List CfRecord) (desired : Option RecordSet) :
    List CfRecord :=
  let keep := (desired.map (·.values)).getD ∅
  records.filter fun record => !(valueOf recordType record).any fun value =>
    value ∈ keep

def replace (expected desired : Option RecordSet) : Calls ChangeTicket := do
  let records ← list name recordType
  let current := observed name recordType records
  match current.bind (·.unsupported) with
  | some reason => throw (.conflict reason)
  | none =>
    if sameOptional (current.map (·.set)) expected then
      let old := obsolete recordType records desired
      if recordType = .cname then deleteRecords old
      applyValues name recordType records current desired
      if recordType ≠ .cname then deleteRecords old
      return .immediate
    else throw (.conflict "record set changed at the provider")

end Replace

/-- What the service decides itself: the id of a new record, and the proxy
setting it reports for records that cannot be proxied. -/
structure Service where
  fresh : List String → String
  fresh_not_mem : ∀ used, fresh used ∉ used
  unproxied : Option Bool

/-- The records of one name and type, and every id handed out so far. -/
structure Zone where
  records : List CfRecord
  used : List String
  known : ∀ record ∈ records, record.id ∈ used
  distinct : (records.map CfRecord.id).Nodup

def CfRecord.patched (id : String) (ttl : UInt32) (proxied : Option Bool)
    (record : CfRecord) : CfRecord :=
  if record.id = id then
    { record with ttl, proxied := proxied.or record.proxied }
  else record

@[simp]
theorem CfRecord.patched_id (id : String) (ttl : UInt32)
    (proxied : Option Bool) (record : CfRecord) :
    (record.patched id ttl proxied).id = record.id := by
  unfold CfRecord.patched
  split <;> rfl

@[simp]
theorem CfRecord.patched_content (id : String) (ttl : UInt32)
    (proxied : Option Bool) (record : CfRecord) :
    (record.patched id ttl proxied).content = record.content := by
  unfold CfRecord.patched
  split <;> rfl

namespace Zone

def patch (zone : Zone) (id : String) (ttl : UInt32)
    (proxied : Option Bool) : Zone where
  records := zone.records.map (CfRecord.patched id ttl proxied)
  used := zone.used
  known := by
    intro record member
    obtain ⟨source, sourceMember, rfl⟩ := List.mem_map.mp member
    rw [CfRecord.patched_id]
    exact zone.known source sourceMember
  distinct := by
    rw [List.map_map]
    have same : CfRecord.id ∘ CfRecord.patched id ttl proxied =
        CfRecord.id := funext (CfRecord.patched_id id ttl proxied)
    rw [same]
    exact zone.distinct

def post (service : Service) (zone : Zone) (content : String)
    (ttl : UInt32) (proxied : Option Bool) : Zone where
  records := zone.records ++
    [{ id := service.fresh zone.used, content, ttl
       proxied := proxied.or service.unproxied }]
  used := service.fresh zone.used :: zone.used
  known := by
    intro record member
    rcases List.mem_append.mp member with old | new
    · exact List.mem_cons_of_mem _ (zone.known record old)
    · obtain rfl := List.mem_singleton.mp new
      exact List.mem_cons_self
  distinct := by
    rw [List.map_append, List.nodup_append]
    refine ⟨zone.distinct, by simp, ?_⟩
    intro id old other new
    obtain ⟨record, member, rfl⟩ := List.mem_map.mp old
    obtain rfl := List.mem_singleton.mp new
    intro same
    have reused : record.id = service.fresh zone.used := same
    exact service.fresh_not_mem zone.used (reused ▸ zone.known record member)

def delete (zone : Zone) (id : String) : Zone where
  records := zone.records.filter fun record => record.id ≠ id
  used := zone.used
  known := fun record member =>
    zone.known record (List.mem_of_mem_filter member)
  distinct := zone.distinct.sublist (List.filter_sublist.map _)

def apply (service : Service) (zone : Zone) : Write → Zone
  | .patch id ttl proxied => zone.patch id ttl proxied
  | .post _ _ content ttl proxied => zone.post service content ttl proxied
  | .delete id => zone.delete id

def applyAll (service : Service) (zone : Zone) (changes : List Write) :
    Zone :=
  changes.foldl (apply service) zone

end Zone

/-- The zone and the changes requested so far, the last one first. -/
structure World where
  zone : Zone
  writes : List Write

/-- How the service treats a call: what it answers, and whether a change was
made although no answer says so. -/
structure Fate where
  exchange : Exchange Unit
  applied : Bool

/-- An answer tells whether the call was carried out. -/
def Fate.takesEffect (fate : Fate) : Bool :=
  match fate.exchange with
  | .answered _ _ (.ok envelope) => envelope.success
  | .invalid _ => false
  | _ => fate.applied

/-- The answer with the result of a successful call filled in. -/
def Exchange.fill {Result : Type} (result : Result) (totalPages : Nat) :
    Exchange Unit → Exchange Result
  | .invalid detail => .invalid detail
  | .timedOut => .timedOut
  | .failed detail => .failed detail
  | .unreadable detail => .unreadable detail
  | .answered status retryAfter (.error detail) =>
    .answered status retryAfter (.error detail)
  | .answered status retryAfter (.ok envelope) =>
    .answered status retryAfter (.ok
      { success := envelope.success
        errors := envelope.errors
        result := if envelope.success then some result else none
        totalPages := if envelope.success then some totalPages else none })

def page (records : List CfRecord) (number : Nat) : List CfRecord :=
  (records.drop (pageSize * (number - 1))).take pageSize

def totalPages (records : List CfRecord) : Nat :=
  (records.length + (pageSize - 1)) / pageSize

def perform (service : Service) :
    (op : ApiOp) → Fate → World → ApiAnswer op × World
  | .list _ _ number, fate, world =>
    (fate.exchange.fill (page world.zone.records number)
      (totalPages world.zone.records), world)
  | .write change, fate, world =>
    (fate.exchange,
      { zone :=
          if fate.takesEffect then world.zone.apply service change
          else world.zone
        writes := change :: world.writes })

end SieveTube.Dns.Cloudflare
