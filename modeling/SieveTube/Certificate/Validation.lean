import SieveTube.Wildcards

/-!
# Certificate validation

What `parse_and_validate` asks of a PEM chain and its key.  The parsers, the
key check and the digest are arguments, since only what is done with their
answers is part of the program.
-/

namespace SieveTube.Certificate

/-- A certificate or a key in its binary form. -/
abbrev Der := List UInt8

inductive CertSource where
  | byoc
  | acme
deriving DecidableEq

inductive GeneralName where
  | dnsName (name : String)
  | other

/-- What is read from a leaf. -/
structure X509 where
  notBefore : Int
  notAfter : Int
  subjectAlternativeName : Except String (Option (List GeneralName))

/-- A chain, the leaf first, and the key that signs for it. -/
structure CertifiedKey (SigningKey : Type) where
  cert : List Der
  key : SigningKey
deriving DecidableEq

/-- The libraries the validation rests on. -/
structure Crypto (SigningKey : Type) where
  pemChain : List UInt8 → Option (List Der)
  pemKey : List UInt8 → Option Der
  fromDer : List Der → Der → Except String SigningKey
  parseX509 : Der → Except String X509
  sha256 : Der → List UInt8

section Digest

variable {SigningKey : Type} (crypto : Crypto SigningKey)

/-- The leaf of a certificate file. -/
def Crypto.leafOf (certPem : List UInt8) : Option Der :=
  (crypto.pemChain certPem).bind List.head?

/-- The leaves of the files have different digests where they differ. -/
def Crypto.TellsApart (certs : List (List UInt8)) : Prop :=
  ∀ first ∈ certs, ∀ second ∈ certs, ∀ leaf ∈ crypto.leafOf first,
    ∀ other ∈ crypto.leafOf second,
      crypto.sha256 leaf = crypto.sha256 other → leaf = other

end Digest

def notBeforeLeewaySecs : Int := 300

def hexDigit (value : Nat) : Char := Nat.digitChar (value % 16)

def hex (bytes : List UInt8) : String :=
  String.ofList (bytes.flatMap fun byte =>
    [hexDigit (byte.toNat / 16), hexDigit byte.toNat])

/-- `trim_end_matches('.')` and lower case. -/
def sanName (name : String) : String :=
  String.ofList (Text.toAsciiLowercase (name.toList.rdropWhile (· = '.')))

def dnsNamesOf (generalNames : List GeneralName) : List String :=
  generalNames.filterMap fun
    | .dnsName name => some (sanName name)
    | .other => none

def isWildcard (name : String) : Bool := ['*', '.'].isPrefixOf name.toList

/-- Whether one of the DNS names of a certificate covers a name.  A wildcard
has to be there literally. -/
def covered (dnsNames : List String) (name : String) : Bool :=
  dnsNames.any fun san =>
    san = name || (!isWildcard name && Hostname.matchesPattern san name)

/-- A certificate chain with its key that was validated for a name. -/
structure CertEntry (SigningKey : Type) where
  name : String
  source : CertSource
  certifiedKey : CertifiedKey SigningKey
  notBefore : Int
  notAfter : Int
  dnsNames : List String
  fingerprint : String
  generation : Option Nat
  covers : covered dnsNames name = true

/-- The `Debug` form of a list of strings. -/
def debugList (names : List String) : String :=
  "[" ++ String.intercalate ", "
    (names.map fun name => Text.debug name.toList) ++ "]"

def parseAndValidate {SigningKey : Type} (crypto : Crypto SigningKey)
    (certPem keyPem : List UInt8) (name : String) (source : CertSource)
    (now : Int) : Except String (CertEntry SigningKey) := do
  let chain ← (crypto.pemChain certPem).elim
      (.error "failed to parse certificate PEM") .ok
  let leaf ← chain.head?.elim (.error "no certificate found") .ok
  let keyDer ← (crypto.pemKey keyPem).elim
      (.error "failed to parse private key PEM") .ok
  let key ← (crypto.fromDer chain keyDer).mapError
      ("unusable certificate/key pair: " ++ ·)
  let parsed ← (crypto.parseX509 leaf).mapError ("invalid certificate: " ++ ·)
  let generalNames ← parsed.subjectAlternativeName.mapError
      ("invalid subjectAltName: " ++ ·)
  let dnsNames := dnsNamesOf (generalNames.getD [])
  if covers : covered dnsNames name = true then
    if parsed.notAfter ≤ now then
      .error ("certificate for " ++ name ++ " expired at " ++
        toString parsed.notAfter)
    else if now + notBeforeLeewaySecs < parsed.notBefore then
      .error ("certificate for " ++ name ++ " is not valid before " ++
        toString parsed.notBefore)
    else
      .ok
        { name, source
          certifiedKey := { cert := chain, key }
          notBefore := parsed.notBefore
          notAfter := parsed.notAfter
          dnsNames
          fingerprint := hex (crypto.sha256 leaf)
          generation := none
          covers }
  else
    .error ("certificate SANs " ++ debugList dnsNames ++
      " do not cover " ++ name)

section Validated

variable {SigningKey : Type} {crypto : Crypto SigningKey}
variable {certPem keyPem : List UInt8} {name : String} {source : CertSource}
variable {now : Int} {entry : CertEntry SigningKey}

/-- What is known of an entry that passed. -/
structure Validated (crypto : Crypto SigningKey)
    (certPem keyPem : List UInt8) (name : String) (source : CertSource)
    (now : Int) (entry : CertEntry SigningKey) : Prop where
  name_eq : entry.name = name
  source_eq : entry.source = source
  chain : crypto.pemChain certPem = some entry.certifiedKey.cert
  key : ∃ keyDer, crypto.pemKey keyPem = some keyDer ∧
    crypto.fromDer entry.certifiedKey.cert keyDer = .ok entry.certifiedKey.key
  fingerprint : ∃ leaf, entry.certifiedKey.cert.head? = some leaf ∧
    entry.fingerprint = hex (crypto.sha256 leaf)
  unexpired : now < entry.notAfter
  begun : entry.notBefore ≤ now + notBeforeLeewaySecs
  generation : entry.generation = none

end Validated

section Dates

variable {SigningKey : Type}

/-- The files pass as the entry at some time. -/
def Parses (crypto : Crypto SigningKey) (certPem keyPem : List UInt8)
    (name : String) (source : CertSource) (entry : CertEntry SigningKey) :
    Prop :=
  ∃ now, parseAndValidate crypto certPem keyPem name source now = .ok entry

/-- What the validation asks of the time. -/
def CertEntry.checkDates (entry : CertEntry SigningKey) (now : Int) :
    Except String (CertEntry SigningKey) :=
  if entry.notAfter ≤ now then
    .error ("certificate for " ++ entry.name ++ " expired at " ++
      toString entry.notAfter)
  else if now + notBeforeLeewaySecs < entry.notBefore then
    .error ("certificate for " ++ entry.name ++ " is not valid before " ++
      toString entry.notBefore)
  else .ok entry

variable {crypto : Crypto SigningKey} {certPem keyPem : List UInt8}
variable {name : String} {source : CertSource} {now : Int}
variable {entry : CertEntry SigningKey}

/-- The leaf decides the fingerprint and the dates, and only the dates are
compared with the time. -/
structure Vetted (crypto : Crypto SigningKey) (certPem keyPem : List UInt8)
    (name : String) (source : CertSource) (now : Int)
    (entry : CertEntry SigningKey) : Prop extends
    Validated crypto certPem keyPem name source now entry where
  leaf : ∃ leaf parsed, crypto.leafOf certPem = some leaf ∧
    crypto.parseX509 leaf = .ok parsed ∧
    entry.fingerprint = hex (crypto.sha256 leaf) ∧
    entry.notBefore = parsed.notBefore ∧ entry.notAfter = parsed.notAfter
  dated : ∀ later, parseAndValidate crypto certPem keyPem name source later =
    entry.checkDates later

theorem vetted_of_parseAndValidate
    (accepted : parseAndValidate crypto certPem keyPem name source now =
      .ok entry) :
    Vetted crypto certPem keyPem name source now entry := by
  obtain ⟨certs, chain, accepted⟩ := Except.bind_eq_ok_iff.mp accepted
  obtain ⟨leaf, first, accepted⟩ := Except.bind_eq_ok_iff.mp accepted
  obtain ⟨keyDer, parsedKey, accepted⟩ := Except.bind_eq_ok_iff.mp accepted
  obtain ⟨key, usable, accepted⟩ := Except.bind_eq_ok_iff.mp accepted
  obtain ⟨parsed, valid, accepted⟩ := Except.bind_eq_ok_iff.mp accepted
  obtain ⟨generalNames, named, accepted⟩ := Except.bind_eq_ok_iff.mp accepted
  dsimp only at accepted
  split at accepted
  · next covers =>
    split at accepted
    · cases accepted
    · next unexpired =>
      split at accepted
      · cases accepted
      · next begun =>
        cases accepted
        have found := Except.elim_error_eq_ok_iff.mp chain
        have head := Except.elim_error_eq_ok_iff.mp first
        have leads : crypto.leafOf certPem = some leaf := by
          rw [Crypto.leafOf, found, Option.bind_some, head]
        refine
          { name_eq := rfl
            source_eq := rfl
            chain := found
            key := ⟨keyDer, Except.elim_error_eq_ok_iff.mp parsedKey,
              Except.mapError_eq_ok_iff.mp usable⟩
            fingerprint := ⟨leaf, head, rfl⟩
            unexpired := Int.not_le.mp unexpired
            begun := Int.not_lt.mp begun
            generation := rfl
            leaf := ⟨leaf, parsed, leads, Except.mapError_eq_ok_iff.mp valid,
              rfl, rfl, rfl⟩
            dated := fun later => ?_ }
        unfold parseAndValidate
        simp only [chain, first, parsedKey, usable, valid, named,
          Except.ok_bind]
        rw [dif_pos covers]
        rfl
  · cases accepted

theorem CertEntry.checkDates_eq_ok_iff {fresh : CertEntry SigningKey} :
    fresh.checkDates now = .ok entry ↔ fresh = entry ∧ now < entry.notAfter ∧
      entry.notBefore ≤ now + notBeforeLeewaySecs := by
  unfold checkDates
  constructor
  · intro passed
    split at passed
    · cases passed
    · next unexpired =>
      split at passed
      · cases passed
      · next begun =>
        cases passed
        exact ⟨rfl, Int.not_le.mp unexpired, Int.not_lt.mp begun⟩
  · rintro ⟨rfl, unexpired, begun⟩
    rw [if_neg (Int.not_le.mpr unexpired), if_neg (Int.not_lt.mpr begun)]

section

variable (parses : Parses crypto certPem keyPem name source entry)
include parses

theorem Parses.eq {other : CertEntry SigningKey}
    (parsesToo : Parses crypto certPem keyPem name source other) :
    entry = other := by
  obtain ⟨earlier, before⟩ := parses
  obtain ⟨now, accepted⟩ := parsesToo
  rw [(vetted_of_parseAndValidate before).dated] at accepted
  exact (CertEntry.checkDates_eq_ok_iff.mp accepted).1

theorem Parses.parseAndValidate (unexpired : now < entry.notAfter)
    (begun : entry.notBefore ≤ now + notBeforeLeewaySecs) :
    parseAndValidate crypto certPem keyPem name source now = .ok entry := by
  obtain ⟨earlier, before⟩ := parses
  rw [(vetted_of_parseAndValidate before).dated]
  exact CertEntry.checkDates_eq_ok_iff.mpr ⟨rfl, unexpired, begun⟩

end

theorem hexDigit_inj {first second : Nat}
    (same : hexDigit first = hexDigit second) : first % 16 = second % 16 := by
  have digits : ∀ left right : Fin 16,
      Nat.digitChar left = Nat.digitChar right → left = right := by decide
  exact congrArg Fin.val (digits ⟨first % 16, Nat.mod_lt _ (by decide)⟩
    ⟨second % 16, Nat.mod_lt _ (by decide)⟩ same)

theorem hex_injective : Function.Injective hex := by
  intro first second same
  replace same := String.ofList_inj.mp same
  induction first generalizing second with
  | nil =>
    cases second with
    | nil => rfl
    | cons byte bytes => cases same
  | cons byte bytes ih =>
    cases second with
    | nil => cases same
    | cons other others =>
      simp only [List.flatMap_cons, List.cons_append, List.nil_append,
        List.cons.injEq] at same
      obtain ⟨high, low, rest⟩ := same
      have highDigit := hexDigit_inj high
      have lowDigit := hexDigit_inj low
      have bound := byte.toNat_lt
      have boundToo := other.toNat_lt
      have sameByte : byte = other := UInt8.toNat_inj.mp (by omega)
      rw [ih rest, sameByte]

/-- Entries with the same fingerprint have the same dates. -/
theorem Parses.dates_eq {certs : List (List UInt8)}
    (distinct : crypto.TellsApart certs)
    {otherCert otherKey : List UInt8} {other : CertEntry SigningKey}
    (listed : certPem ∈ certs) (listedToo : otherCert ∈ certs)
    (parses : Parses crypto certPem keyPem name source entry)
    (parsesToo : Parses crypto otherCert otherKey name source other)
    (same : entry.fingerprint = other.fingerprint) :
    entry.notBefore = other.notBefore ∧ entry.notAfter = other.notAfter := by
  obtain ⟨now, passed⟩ := parses
  obtain ⟨later, passedToo⟩ := parsesToo
  obtain ⟨leaf, parsed, leads, read, print, before, after⟩ :=
    (vetted_of_parseAndValidate passed).leaf
  obtain ⟨otherLeaf, otherParsed, leadsToo, readToo, printToo, beforeToo,
    afterToo⟩ := (vetted_of_parseAndValidate passedToo).leaf
  rw [print, printToo] at same
  obtain rfl := distinct certPem listed otherCert listedToo leaf leads
    otherLeaf leadsToo (hex_injective same)
  cases read.symm.trans readToo
  exact ⟨before.trans beforeToo.symm, after.trans afterToo.symm⟩

end Dates

end SieveTube.Certificate
