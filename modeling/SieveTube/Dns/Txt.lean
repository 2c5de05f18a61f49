import Mathlib.Data.List.Sort
import SieveTube.Dns.Plan
import SieveTube.Dns.Value
import SieveTube.Library.Program

/-!
# TXT records for DNS-01 validation

Challenge values are added to and removed from record sets one value at a
time.  The solver is written over the calls of its provider, so that it can
be run against providers that change a set in one step and against those
that take several calls.
-/

namespace SieveTube.Dns

open Hostname

/-- A TXT value published for one authorization. -/
structure TxtHandle where
  zone : String
  name : String
  value : String
  domain : String
deriving DecidableEq

/-- The domain a value authorizes, recovered from the challenge name for
journals written before the field existed. -/
def TxtHandle.getDomain (handle : TxtHandle) : Option String :=
  if handle.domain ≠ "" then some handle.domain
  else (Text.stripStart "_acme-challenge.".toList handle.name.toList).map
    String.ofList

/-- What the solver calls of a provider. -/
structure ProviderCalls (Api : Type) (ApiAnswer : Api → Type) where
  get : String → RecordType →
    ExceptT DnsError (Program Api ApiAnswer) (Option Observed)
  replace : String → RecordType → Option RecordSet → Option RecordSet →
    ExceptT DnsError (Program Api ApiAnswer) ChangeTicket
  changeSynced : ChangeTicket → ExceptT DnsError (Program Api ApiAnswer) Bool

/-- `polls` says how often a change is looked at before the deadline. -/
inductive TxtOp (Api : Type) where
  | api (provider : Nat) (op : Api)
  | resolveCname (name : String)
  | journalRead (path : String)
  | journalAdd (path : String) (handle : TxtHandle)
  | journalRemove (path : String) (handle : TxtHandle)
  | polls

@[reducible]
def TxtAnswer {Api : Type} (ApiAnswer : Api → Type) : TxtOp Api → Type
  | .api _ op => ApiAnswer op
  | .resolveCname _ => Option String
  | .journalRead _ => Except String (List TxtHandle)
  | .journalAdd _ _ => Except String Unit
  | .journalRemove _ _ => Except String Unit
  | .polls => Nat

/-- A delegated challenge name must stay inside the allowed zones. -/
def delegationAllowed (target : String) (allowedZones : List String) :
    Bool :=
  allowedZones.any fun zone => isWithinZone target zone

/-- The longer zone is the more specific one. -/
def MoreSpecific (first second : String × Nat) : Prop :=
  second.1.utf8ByteSize ≤ first.1.utf8ByteSize

instance : DecidableRel MoreSpecific :=
  fun first second =>
    inferInstanceAs (Decidable (second.1.utf8ByteSize ≤ first.1.utf8ByteSize))

instance : Std.Total MoreSpecific :=
  ⟨fun first second => Nat.le_total second.1.utf8ByteSize first.1.utf8ByteSize⟩

instance : IsTrans (String × Nat) MoreSpecific :=
  ⟨fun _ _ _ first second => Nat.le_trans second first⟩

/-- Zones with their providers, which are known by number; the most specific
zone comes first. -/
structure TxtSolver where
  providers : List (String × Nat)
  sorted : providers.Pairwise MoreSpecific
  allowedZones : List String
  ttl : UInt32
  journalPath : String
deriving DecidableEq

def maxAttempts : Nat := 6

/-- Steps of the solver that end with the first error. -/
abbrev Solving {Api : Type} (ApiAnswer : Api → Type) :=
  ExceptT String (Program (TxtOp Api) (TxtAnswer ApiAnswer))

namespace TxtSolver

def new (providers : List (String × Nat)) (allowedZones : List String)
    (ttl : UInt32) (journalPath : String) : TxtSolver where
  providers := providers.insertionSort MoreSpecific
  sorted := List.pairwise_insertionSort MoreSpecific providers
  allowedZones
  ttl
  journalPath

def providerFor (solver : TxtSolver) (name : String) : Option (String × Nat) :=
  solver.providers.find? fun entry => isWithinZone name entry.1

def zoneProvider (solver : TxtSolver) (zone : String) : Option Nat :=
  (solver.providers.find? fun entry => entry.1 = zone).map (·.2)

section Programs

variable {Api : Type} {ApiAnswer : Api → Type}

def ask (op : TxtOp Api) : Solving ApiAnswer (TxtAnswer ApiAnswer op) :=
  liftM (Program.ask op : Program (TxtOp Api) (TxtAnswer ApiAnswer) _)

/-- A call of a provider, with its error as a result. -/
def onProvider {Value : Type} (provider : Nat)
    (program : ExceptT DnsError (Program Api ApiAnswer) Value) :
    Solving ApiAnswer (Except DnsError Value) :=
  liftM (Program.embed (.api provider) (fun _ answer => answer)
    (program : Program Api ApiAnswer (Except DnsError Value)) :
      Program (TxtOp Api) (TxtAnswer ApiAnswer) _)

/-- The name to publish for a domain.  Only the first CNAME of the answer
counts. -/
def challengeName (solver : TxtSolver) (domain : String) :
    Solving ApiAnswer String := do
  let name := "_acme-challenge." ++ domain
  match ← ask (.resolveCname name) with
  | none => return name
  | some target =>
    match normalizeDnsName target with
    | .error error =>
      throw ("invalid CNAME target for " ++ name ++ ": " ++ error.message)
    | .ok target =>
      if delegationAllowed target solver.allowedZones then return target
      else throw (name ++ " is delegated to " ++ target ++
        ", which is outside dns.allowed_zones")

variable (calls : ProviderCalls Api ApiAnswer)

def observedSet (provider : Nat) (name : String) :
    Solving ApiAnswer (Option RecordSet) := do
  match ← onProvider provider (calls.get name .txt) with
  | .error error => throw error.toText
  | .ok none => return none
  | .ok (some observed) =>
    match observed.unsupported with
    | some reason =>
      throw ("TXT record set " ++ name ++ " cannot be managed: " ++ reason)
    | none => return some observed.set

/-- The loop of `wait_synced`, with the number of polls that are left. -/
def pollSynced (provider : Nat) (ticket : ChangeTicket) :
    Nat → Solving ApiAnswer Unit
  | 0 => throw "DNS provider did not apply the change in time"
  | polls + 1 => do
      match ← onProvider provider (calls.changeSynced ticket) with
      | .error error => throw error.toText
      | .ok true => return ()
      | .ok false => pollSynced provider ticket polls

def waitSynced (provider : Nat) (ticket : ChangeTicket) :
    Solving ApiAnswer Unit := do
  let polls ← ask .polls
  pollSynced calls provider ticket (polls + 1)

def retryOrFail (error : DnsError) : Solving ApiAnswer Unit :=
  match error with
  | .conflict _ | .rateLimited _ => return ()
  | other => throw other.toText

/-- The record set with a value added. -/
def withValue (solver : TxtSolver) (name value : String)
    (current : Option RecordSet) : RecordSet :=
  let base := current.getD
    { name, recordType := .txt, ttl := solver.ttl, values := ∅
      proxied := none }
  { base with values := insert value base.values }

/-- The loop of `add`. -/
def addAttempts (solver : TxtSolver) (provider : Nat)
    (name value : String) : Nat → Solving ApiAnswer Unit
  | 0 => throw ("could not add TXT value to " ++ name ++
    ": too many concurrent changes")
  | attempts + 1 => do
      let current ← observedSet calls provider name
      if current.any fun set => value ∈ set.values then return ()
      else
        let desired := solver.withValue name value current
        match ← onProvider provider
            (calls.replace name .txt current (some desired)) with
        | .ok ticket => waitSynced calls provider ticket
        | .error error =>
          retryOrFail error
          addAttempts solver provider name value attempts

/-- Add a value to the challenge record set of a domain and wait for the
provider to apply it. -/
def add (solver : TxtSolver) (domain value : String) :
    Solving ApiAnswer TxtHandle := do
  let name ← solver.challengeName domain
  match solver.providerFor name with
  | none => throw ("no DNS provider zone covers " ++ name)
  | some (zone, provider) =>
    let handle : TxtHandle := { zone, name, value, domain }
    match ← ask (.journalAdd solver.journalPath handle) with
    | .error error => throw error
    | .ok () =>
      solver.addAttempts calls provider name value maxAttempts
      return handle

/-- The record set without a value, if any other is left. -/
def withoutValue (value : String) (current : RecordSet) :
    Option RecordSet :=
  let remaining := { current with values := current.values.erase value }
  if remaining.values = ∅ then none else some remaining

/-- The loop of `remove`, which answers whether the value is gone. -/
def removeAttempts (provider : Nat) (name value : String) :
    Nat → Solving ApiAnswer Bool
  | 0 => return false
  | attempts + 1 => do
      match (← observedSet calls provider name).filter fun set => value ∈
          set.values with
      | none => return true
      | some current =>
        match ← onProvider provider
          (calls.replace name .txt (some current)
            (withoutValue value current)) with
        | .ok ticket =>
          waitSynced calls provider ticket
          return true
        | .error error =>
          retryOrFail error
          removeAttempts provider name value attempts

/-- Remove only this value; other values in the record set are kept. -/
def remove (solver : TxtSolver) (handle : TxtHandle) :
    Solving ApiAnswer Unit := do
  match solver.zoneProvider handle.zone with
  | none => throw ("no DNS provider for zone " ++ handle.zone)
  | some provider =>
    if ← removeAttempts calls provider handle.name handle.value maxAttempts then
      match ← ask (.journalRemove solver.journalPath handle) with
      | .error error => throw error
      | .ok () => return ()
    else throw ("could not remove TXT value from " ++ handle.name ++
      ": too many concurrent changes")

end Programs

theorem values_withValue (solver : TxtSolver) (name value : String)
    (current : Option RecordSet) :
    (solver.withValue name value current).values =
      insert value (valuesOf current) := by
  cases current <;> rfl

theorem values_withoutValue (value : String) (current : RecordSet) :
    valuesOf (withoutValue value current) = current.values.erase value := by
  simp only [withoutValue]
  split
  · next empty => exact empty.symm
  · rfl

/-- The provider that is found for a name is found again for its zone. -/
theorem zoneProvider_of_providerFor {solver : TxtSolver} {name zone : String}
    {provider : Nat} (found : solver.providerFor name = some (zone, provider)) :
    solver.zoneProvider zone = some provider := by
  obtain ⟨covers, before, after, split, uncovered⟩ :=
    List.find?_eq_some_iff_append.mp found
  have first : solver.providers.find? (fun entry => entry.1 = zone) =
      some (zone, provider) := by
    refine List.find?_eq_some_iff_append.mpr ⟨by simp, before, after, split, ?_⟩
    intro entry member
    have different : entry.1 ≠ zone := by
      rintro rfl
      have missed := uncovered entry member
      rw [covers] at missed
      cases missed
    simpa using different
  rw [zoneProvider, first]
  rfl

end TxtSolver

end SieveTube.Dns
