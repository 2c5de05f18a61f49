import Mathlib.Data.Finset.Basic
import Mathlib.Data.List.Sort
import Mathlib.Data.String.Basic
import SieveTube.Certificate.Validation
import SieveTube.Library.Run

/-!
# The certificate resolver

The certificates that public HTTPS serves: those of the certificate directory
(`byoc`) and those the certificate manager installs.  A scan of the directory
updates each name by itself; a name that is managed is never taken from a
file.
-/

namespace SieveTube.Certificate

inductive DirError where
  | notFound
  | other
deriving DecidableEq

/-- A certificate directory: the names its listing gives, and what reading a
file gives. -/
structure CertDir where
  listing : Except DirError (List String)
  read : String → Except String (List UInt8)

structure CertPair where
  stem : String
  certPath : String
  keyPath : String
deriving DecidableEq

/-- The pair of a file with the extension `crt`. -/
def certPair (path : String) : Option CertPair :=
  match Text.rsplitOnce '.' path.toList with
  | some (stem, ['c', 'r', 't']) =>
    if stem.isEmpty then none
    else some
      { stem := String.ofList stem
        certPath := path
        keyPath := String.ofList (stem ++ ['.', 'k', 'e', 'y']) }
  | _ => none

def listCertPairs (names : List String) : List CertPair :=
  (names.filterMap certPair).insertionSort fun left right => left.stem ≤
    right.stem

/-- Outcome of a directory scan. -/
structure ReloadReport where
  loaded : Nat
  unchanged : Nat
  keptPrevious : Nat
  failed : Nat
  removed : Nat

def ReloadReport.default : ReloadReport :=
  { loaded := 0, unchanged := 0, keptPrevious := 0, failed := 0
    removed := 0 }

abbrev Entries
    (SigningKey : Type) := AList fun _ : String => CertEntry SigningKey

structure CertResolver (SigningKey : Type) where
  entries : Entries SigningKey
  managed : Finset String

/-- The accumulators of a scan. -/
structure Scan (SigningKey : Type) where
  next : Entries SigningKey
  seen : Finset String
  report : ReloadReport

section Scanning

variable {SigningKey : Type} (crypto : Crypto SigningKey)

/-- Read both files of a pair and validate them for `name`. -/
def loadPair (dir : CertDir) (name : String) (now : Int) (pair : CertPair) :
    Except String (CertEntry SigningKey) := do
  let cert ← dir.read pair.certPath
  let key ← dir.read pair.keyPath
  parseAndValidate crypto cert key name .byoc now

/-- The entry of a name if it came from the directory. -/
def byocEntry (current : Entries SigningKey) (name : String) :
    Option (CertEntry SigningKey) :=
  (current.lookup name).filter fun entry => entry.source = .byoc

/-- The loop body of a scan. -/
def scanPair (resolver : CertResolver SigningKey) (dir : CertDir) (now : Int)
    (scan : Scan SigningKey) (pair : CertPair) : Scan SigningKey :=
  match Hostname.normalizeHostnamePattern pair.stem with
  | .error _ =>
    { scan with
      report := { scan.report with failed := scan.report.failed + 1 } }
  | .ok name =>
    let seen := insert name scan.seen
    if name ∈ resolver.managed then
      { scan with
        seen
        report := { scan.report with failed := scan.report.failed + 1 } }
    else
      match loadPair crypto dir name now pair,
          byocEntry resolver.entries name with
      | .ok entry, some previous =>
        if previous.fingerprint = entry.fingerprint then
          { next := scan.next.insert name previous
            seen
            report := { scan.report with
              unchanged := scan.report.unchanged + 1 } }
        else
          { next := scan.next.insert name entry
            seen
            report := { scan.report with
              loaded := scan.report.loaded + 1 } }
      | .ok entry, none =>
        { next := scan.next.insert name entry
          seen
          report := { scan.report with
            loaded := scan.report.loaded + 1 } }
      | .error _, some previous =>
        { next := scan.next.insert name previous
          seen
          report := { scan.report with
            failed := scan.report.failed + 1
            keptPrevious := scan.report.keptPrevious + 1 } }
      | .error _, none =>
        { scan with
          seen
          report := { scan.report with
            failed := scan.report.failed + 1 } }

namespace CertResolver

/-- A new resolver that was told the managed names. -/
def start (managed : Finset String) : CertResolver SigningKey :=
  { entries := ∅, managed }

def get (resolver : CertResolver SigningKey) (name : String) :
    Option (CertEntry SigningKey) :=
  resolver.entries.lookup name

/-- SNI lookup: exact name first, then a covering wildcard. -/
def lookup (resolver : CertResolver SigningKey) (sni : String) :
    Option (CertEntry SigningKey) :=
  Hostname.findPattern resolver.entries sni

/-- The certificates a scan starts from: those that are managed. -/
def installed (resolver : CertResolver SigningKey) : Entries SigningKey :=
  resolver.entries.retain fun _ entry => entry.source ≠ .byoc

def removedCount (resolver : CertResolver SigningKey)
    (seen : Finset String) : Nat :=
  resolver.entries.entries.countP fun entry => entry.2.source =
    .byoc && entry.1 ∉ seen

def scan (resolver : CertResolver SigningKey) (dir : CertDir) (now : Int)
    (names : List String) : Scan SigningKey :=
  (listCertPairs names).foldl (scanPair crypto resolver dir now)
    { next := resolver.installed, seen := ∅, report := .default }

def reloadByoc (resolver : CertResolver SigningKey) (dir : CertDir)
    (now : Int) : ReloadReport × CertResolver SigningKey :=
  match dir.listing with
  | .error error =>
    if error ≠ .notFound || resolver.entries.entries.any fun entry =>
        entry.2.source = .byoc
    then ({ ReloadReport.default with failed := 1 }, resolver)
    else (.default, resolver)
  | .ok names =>
    let scanned := resolver.scan crypto dir now names
    ({ scanned.report with removed := resolver.removedCount scanned.seen },
      { resolver with entries := scanned.next })

/-- Install or replace a managed certificate. -/
def install (resolver : CertResolver SigningKey)
    (entry : CertEntry SigningKey) : Bool × CertResolver SigningKey :=
  if (resolver.get entry.name).any fun present => present.fingerprint =
      entry.fingerprint
  then (false, resolver)
  else
    (true, { resolver with
      entries := resolver.entries.insert entry.name entry })

end CertResolver

end Scanning

/-- The name a pair is for. -/
def CertPair.Names (pair : CertPair) (name : String) : Prop :=
  Hostname.normalizeHostnamePattern pair.stem = .ok name

section Outcome

variable {SigningKey : Type} {crypto : Crypto SigningKey}

/-- What a scan leaves for a name, from its entry of the directory, what its
pair gives, and what else is there. -/
def settle (previous : Option (CertEntry SigningKey))
    (loaded : Except String (CertEntry SigningKey))
    (kept : Option (CertEntry SigningKey)) : Option (CertEntry SigningKey) :=
  match loaded, previous with
  | .ok entry, some previous =>
    if previous.fingerprint = entry.fingerprint then some previous
    else some entry
  | .ok entry, none => some entry
  | .error _, some previous => some previous
  | .error _, none => kept

theorem settle_settle (previous kept : Option (CertEntry SigningKey))
    (loaded : Except String (CertEntry SigningKey)) :
    settle previous loaded (settle previous loaded kept) =
      settle previous loaded kept := by
  cases loaded <;> cases previous <;> rfl

variable {loaded : Except String (CertEntry SigningKey)}

theorem settle_of_error {previous kept : Option (CertEntry SigningKey)}
    (failed : ∀ entry, loaded ≠ .ok entry) :
    settle previous loaded kept = previous.or kept := by
  cases loaded with
  | ok entry => exact absurd rfl (failed entry)
  | error failure => cases previous <;> rfl

theorem eq_of_settle_eq_some {previous kept : Option (CertEntry SigningKey)}
    {entry : CertEntry SigningKey}
    (settled : settle previous loaded kept = some entry) :
    previous = some entry ∨ loaded = .ok entry ∨ kept = some entry := by
  cases loaded with
  | ok fresh =>
    cases previous with
    | none => exact .inr (.inl (congrArg _ (Option.some.inj settled)))
    | some previous =>
      simp only [settle] at settled
      split at settled
      · exact .inl settled
      · exact .inr (.inl (congrArg _ (Option.some.inj settled)))
  | error failure =>
    cases previous with
    | none => exact .inr (.inr settled)
    | some previous => exact .inl settled

variable {resolver : CertResolver SigningKey} {dir : CertDir} {now : Int}
variable {name : String} {pair : CertPair} {pairs : List CertPair}
variable {scan : Scan SigningKey}

theorem validated_of_loadPair {entry : CertEntry SigningKey}
    (loaded : loadPair crypto dir name now pair = .ok entry) :
    ∃ cert key, dir.read pair.certPath = .ok cert ∧
      dir.read pair.keyPath = .ok key ∧
      Validated crypto cert key name .byoc now entry := by
  obtain ⟨cert, certRead, loaded⟩ := Except.bind_eq_ok_iff.mp loaded
  obtain ⟨key, keyRead, loaded⟩ := Except.bind_eq_ok_iff.mp loaded
  exact ⟨cert, key, certRead, keyRead,
    (vetted_of_parseAndValidate loaded).toValidated⟩

theorem lookup_scanPair_of_names (names : pair.Names name)
    (free : name ∉ resolver.managed) :
    (scanPair crypto resolver dir now scan pair).next.lookup name =
      settle (byocEntry resolver.entries name)
        (loadPair crypto dir name now pair) (scan.next.lookup name) := by
  unfold CertPair.Names at names
  unfold scanPair
  simp only [names, free, if_false]
  cases loadPair crypto dir name now pair with
  | ok entry =>
    cases byocEntry resolver.entries name with
    | none => simp [settle]
    | some previous =>
      by_cases same : previous.fingerprint = entry.fingerprint <;>
        simp [settle, same]
  | error failure => cases byocEntry resolver.entries name <;> simp [settle]

theorem lookup_scanPair_of_other
    (other : ¬ pair.Names name ∨ name ∈ resolver.managed) :
    (scanPair crypto resolver dir now scan pair).next.lookup name =
      scan.next.lookup name := by
  unfold scanPair
  split
  · rfl
  · next found normalized =>
    split
    · rfl
    · next free =>
      have different : name ≠ found := by
        rintro rfl
        rcases other with unnamed | managed
        · exact unnamed normalized
        · exact free managed
      repeat' split
      all_goals simp [different]

theorem lookup_foldl_scanPair_of_other
    (other : ∀ pair ∈ pairs, ¬ pair.Names name ∨ name ∈ resolver.managed) :
    (pairs.foldl (scanPair crypto resolver dir now) scan).next.lookup name =
      scan.next.lookup name := by
  induction pairs generalizing scan with
  | nil => rfl
  | cons pair pairs ih =>
    rw [List.foldl_cons, ih fun later member => other later (by simp [member]),
      lookup_scanPair_of_other (other pair (by simp))]

/-- All pairs of a name agree on what they give; the name has a pair. -/
theorem lookup_foldl_scanPair (free : name ∉ resolver.managed)
    (agree : ∀ pair ∈ pairs, pair.Names name → ∀ kept,
      settle (byocEntry resolver.entries name)
          (loadPair crypto dir name now pair) kept =
        settle (byocEntry resolver.entries name) loaded kept)
    (present : ∃ pair ∈ pairs, pair.Names name) :
    (pairs.foldl (scanPair crypto resolver dir now) scan).next.lookup name =
      settle (byocEntry resolver.entries name) loaded
        (scan.next.lookup name) := by
  induction pairs generalizing scan with
  | nil => simp at present
  | cons pair pairs ih =>
    have later := fun pair member => agree pair (List.mem_cons_of_mem _ member)
    rw [List.foldl_cons]
    by_cases here : pair.Names name
    · have first : (scanPair crypto resolver dir now scan pair).next.lookup
          name = settle (byocEntry resolver.entries name) loaded
            (scan.next.lookup name) := by
        rw [lookup_scanPair_of_names here free, agree pair (by simp) here]
      by_cases again : ∃ pair ∈ pairs, pair.Names name
      · rw [ih later again, first, settle_settle]
      · rw [lookup_foldl_scanPair_of_other, first]
        intro other member
        exact .inl fun names => again ⟨other, member, names⟩
    · obtain ⟨found, member, names⟩ := present
      rcases List.mem_cons.mp member with rfl | rest
      · exact absurd names here
      · rw [ih later ⟨found, rest, names⟩, lookup_scanPair_of_other (.inl here)]

end Outcome

end SieveTube.Certificate
