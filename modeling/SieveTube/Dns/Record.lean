import Mathlib.Data.Finset.Basic

/-!
# DNS record sets

The values a provider holds for one name and type, and what its adapters
report about them.  Two sets have the same data when everything but an
unspecified proxy setting agrees, so the relation is not transitive.
-/

namespace SieveTube.Dns

inductive RecordType where
  | a
  | aaaa
  | cname
  | txt
deriving DecidableEq

namespace RecordType

def asStr : RecordType → String
  | .a => "A"
  | .aaaa => "AAAA"
  | .cname => "CNAME"
  | .txt => "TXT"

end RecordType

/-- All values for one name and type, normalized. -/
structure RecordSet where
  name : String
  recordType : RecordType
  ttl : UInt32
  values : Finset String
  proxied : Option Bool
deriving DecidableEq

/-- Proxy settings are compared only when both sides specify one. -/
def sameProxied : Option Bool → Option Bool → Bool
  | some first, some second => first == second
  | _, _ => true

@[simp]
theorem sameProxied_refl (proxied : Option Bool) :
    sameProxied proxied proxied := by
  cases proxied <;> simp [sameProxied]

namespace RecordSet

def sameData (first second : RecordSet) : Bool :=
  first.name == second.name && first.recordType == second.recordType &&
    first.ttl == second.ttl && decide (first.values = second.values) &&
    sameProxied first.proxied second.proxied

theorem sameData_iff {first second : RecordSet} : first.sameData second ↔
      first.name = second.name ∧ first.recordType = second.recordType ∧
        first.ttl = second.ttl ∧ first.values = second.values ∧
        sameProxied first.proxied second.proxied := by
  simp [sameData, and_assoc]

@[simp]
theorem sameData_refl (set : RecordSet) : set.sameData set := by
  rw [sameData_iff]
  exact ⟨rfl, rfl, rfl, rfl, sameProxied_refl set.proxied⟩

end RecordSet

def sameOptional : Option RecordSet → Option RecordSet → Bool
  | none, none => true
  | some first, some second => first.sameData second
  | _, _ => false

@[simp]
theorem sameOptional_refl (set : Option RecordSet) :
    sameOptional set set := by
  cases set <;> simp [sameOptional]

theorem sameOptional_none_left {set : Option RecordSet} :
    sameOptional none set ↔ set = none := by
  cases set <;> simp [sameOptional]

theorem sameOptional_none_right {set : Option RecordSet} :
    sameOptional set none ↔ set = none := by
  cases set <;> simp [sameOptional]

/-- A record set as read from a provider. -/
structure Observed where
  set : RecordSet
  unsupported : Option String

inductive DnsError where
  | conflict (reason : String)
  | rateLimited (retryAfter : Option Nat)
  | auth (detail : String)
  | timeout
  | unsupported (detail : String)
  | provider (detail : String)

namespace DnsError

def toText : DnsError → String
  | .conflict reason => "conflict: " ++ reason
  | .rateLimited _ => "rate limited by provider"
  | .auth detail => "authentication failed: " ++ detail
  | .timeout => "provider request timed out"
  | .unsupported detail => "unsupported: " ++ detail
  | .provider detail => "provider error: " ++ detail

def isConflict : DnsError → Bool
  | .conflict _ => true
  | _ => false

/-- Errors after which the provider is left alone for the rest of a pass. -/
def isStop : DnsError → Bool
  | .rateLimited _ => true
  | .auth _ => true
  | _ => false

end DnsError

/-- Identifies a submitted change whose propagation inside the provider can
be tracked. -/
inductive ChangeTicket where
  | immediate
  | route53 (changeId : String)

end SieveTube.Dns
