import SieveTube.Certificate.Resolver

/-!
# What the resolver serves

Over every sequence of directory scans and installations the entry of a name
was validated for that name, and its source tells whether the name is
managed.  A scan decides each name from the pair of that name alone.
-/

namespace SieveTube.Certificate

/-- An entry the certificate manager may install. -/
structure ManagedEntry (SigningKey : Type) (managed : Finset String) where
  entry : CertEntry SigningKey
  name_mem : entry.name ∈ managed
  source_eq : entry.source = .acme

inductive ServingEvent (SigningKey : Type) (managed : Finset String) where
  | reloadByoc (dir : CertDir) (now : Int)
  | install (entry : ManagedEntry SigningKey managed)

/-- File stems are distinct after normalization. -/
def DistinctStems (names : List String) : Prop :=
  ∀ left ∈ listCertPairs names, ∀ right ∈ listCertPairs names,
    ∀ name, left.Names name → right.Names name → left = right

/-- Both directories have the same files for a name. -/
structure SameFiles (left right : CertDir) (leftNames rightNames : List String)
    (name : String) : Prop where
  listed : ∀ pair : CertPair, pair.Names name →
    (pair ∈ listCertPairs leftNames ↔ pair ∈ listCertPairs rightNames)
  cert : ∀ pair : CertPair, pair.Names name →
    left.read pair.certPath = right.read pair.certPath
  key : ∀ pair : CertPair, pair.Names name →
    left.read pair.keyPath = right.read pair.keyPath

section Serving

variable {SigningKey : Type} {managed : Finset String}

namespace CertResolver

def step (crypto : Crypto SigningKey) (resolver : CertResolver SigningKey) :
    ServingEvent SigningKey managed → CertResolver SigningKey
  | .reloadByoc dir now => (resolver.reloadByoc crypto dir now).2
  | .install managedEntry => (resolver.install managedEntry.entry).2

/-- Every entry was validated for its name, and comes from the directory
exactly if the name is not managed. -/
structure Sound (managed : Finset String)
    (resolver : CertResolver SigningKey) : Prop where
  managed_eq : resolver.managed = managed
  named : ∀ {name entry}, resolver.get name = some entry → entry.name = name
  source : ∀ {name entry}, resolver.get name = some entry →
    (entry.source = .byoc ↔ name ∉ managed)

variable {crypto : Crypto SigningKey} {resolver : CertResolver SigningKey}
variable {dir : CertDir} {now : Int} {name : String} {names : List String}

theorem get_reloadByoc_of_listing_error {error : DirError}
    (unlisted : dir.listing = .error error) :
    (resolver.reloadByoc crypto dir now).2 = resolver := by
  unfold reloadByoc
  rw [unlisted]
  dsimp only
  split <;> rfl

theorem get_reloadByoc (listed : dir.listing = .ok names) :
    (resolver.reloadByoc crypto dir now).2.get name =
      (resolver.scan crypto dir now names).next.lookup name := by
  simp [reloadByoc, listed, get]

@[simp]
theorem managed_reloadByoc :
    (resolver.reloadByoc crypto dir now).2.managed = resolver.managed := by
  unfold reloadByoc
  split
  · split <;> rfl
  · rfl

theorem lookup_installed : resolver.installed.lookup name =
      (resolver.get name).filter fun entry => entry.source ≠ .byoc :=
  AList.lookup_retain ..

/-- A scan leaves a managed name, and a name without a pair, with what was
installed for it. -/
theorem get_reloadByoc_of_other (listed : dir.listing = .ok names)
    (other : ∀ pair ∈ listCertPairs names,
      ¬ pair.Names name ∨ name ∈ resolver.managed) :
    (resolver.reloadByoc crypto dir now).2.get name =
      (resolver.get name).filter fun entry => entry.source ≠ .byoc := by
  rw [get_reloadByoc listed, scan, lookup_foldl_scanPair_of_other other]
  exact lookup_installed

theorem get_reloadByoc_of_names (listed : dir.listing = .ok names)
    (distinct : DistinctStems names) (free : name ∉ resolver.managed)
    {pair : CertPair} (member : pair ∈ listCertPairs names)
    (named : pair.Names name) :
    (resolver.reloadByoc crypto dir now).2.get name =
      settle (byocEntry resolver.entries name)
        (loadPair crypto dir name now pair)
        ((resolver.get name).filter fun entry => entry.source ≠ .byoc) := by
  rw [get_reloadByoc listed, scan,
    lookup_foldl_scanPair free _ ⟨pair, member, named⟩]
  · exact congrArg _ lookup_installed
  · intro other otherMember otherNamed kept
    rw [distinct other otherMember pair member name otherNamed named]

variable {entry : CertEntry SigningKey}

theorem byocEntry_eq_some_iff : byocEntry resolver.entries name = some entry ↔
      resolver.get name = some entry ∧ entry.source = .byoc := by
  unfold byocEntry get
  rw [Option.filter_eq_some_iff, decide_eq_true_eq]

theorem lookup_of_get (found : resolver.get name = some entry) :
    resolver.lookup name = some entry :=
  Hostname.findPattern_of_lookup found

theorem get_eq_byocEntry_or :
    resolver.get name = (byocEntry resolver.entries name).or
      ((resolver.get name).filter fun entry => entry.source ≠ .byoc) := by
  unfold byocEntry get
  cases resolver.entries.lookup name with
  | none => rfl
  | some entry =>
    by_cases byoc : entry.source = .byoc <;> simp [Option.filter, byoc]

/-- A name whose pairs all fail keeps its entry. -/
theorem get_reloadByoc_of_failed (listed : dir.listing = .ok names)
    (free : name ∉ resolver.managed)
    (present : ∃ pair ∈ listCertPairs names, pair.Names name)
    (failed : ∀ pair ∈ listCertPairs names, pair.Names name →
      ∀ entry, loadPair crypto dir name now pair ≠ .ok entry) :
    (resolver.reloadByoc crypto dir now).2.get name = resolver.get name := by
  have nothing : ∀ entry : CertEntry SigningKey,
      (.error "" : Except String (CertEntry SigningKey)) ≠ .ok entry :=
    fun _ same => nomatch same
  rw [get_reloadByoc listed, scan, lookup_foldl_scanPair free _ present,
    settle_of_error nothing, lookup_installed, ← get_eq_byocEntry_or]
  intro pair member named kept
  rw [settle_of_error (failed pair member named), settle_of_error nothing]

theorem sound_start : Sound managed (start managed : CertResolver SigningKey) :=
  { managed_eq := rfl
    named := fun found => by simp [start, get] at found
    source := fun found => by simp [start, get] at found }

/-- What may be stored for a name. -/
def Fitting (managed : Finset String) (entries : Entries SigningKey) : Prop :=
  ∀ {name entry}, entries.lookup name = some entry →
    entry.name = name ∧ (entry.source = .byoc ↔ name ∉ managed)

section

variable (sound : Sound managed resolver)
include sound

theorem Sound.fitting : Fitting managed resolver.entries :=
  fun found => ⟨sound.named found, sound.source found⟩

theorem fitting_scanPair {scan : Scan SigningKey}
    (fitting : Fitting managed scan.next) (pair : CertPair) :
    Fitting managed (scanPair crypto resolver dir now scan pair).next := by
  intro name entry found
  by_cases here : pair.Names name ∧ name ∉ resolver.managed
  · obtain ⟨named, free⟩ := here
    rw [lookup_scanPair_of_names named free] at found
    rcases eq_of_settle_eq_some found with previous | loaded | kept
    · exact sound.fitting (Option.filter_eq_some_iff.mp previous).1
    · obtain ⟨cert, key, -, -, validated⟩ := validated_of_loadPair loaded
      rw [sound.managed_eq] at free
      exact ⟨validated.name_eq, iff_of_true validated.source_eq free⟩
    · exact fitting kept
  · rw [lookup_scanPair_of_other] at found
    · exact fitting found
    · tauto

theorem fitting_foldl_scanPair (pairs : List CertPair) {scan : Scan SigningKey}
    (fitting : Fitting managed scan.next) :
    Fitting managed (pairs.foldl
      (scanPair crypto resolver dir now) scan).next := by
  induction pairs generalizing scan with
  | nil => exact fitting
  | cons pair pairs ih => exact ih (fitting_scanPair sound fitting pair)

theorem Sound.reloadByoc :
    Sound managed (resolver.reloadByoc crypto dir now).2 := by
  cases listed : dir.listing with
  | error error =>
    rw [get_reloadByoc_of_listing_error listed]
    exact sound
  | ok names =>
    have installed : Fitting managed resolver.installed := by
      intro name entry found
      rw [lookup_installed, Option.filter_eq_some_iff] at found
      exact sound.fitting found.1
    have scanned : Fitting managed (resolver.scan crypto dir now names).next :=
      fitting_foldl_scanPair sound _ installed
    exact
      { managed_eq := by rw [managed_reloadByoc, sound.managed_eq]
        named := fun found => by
          rw [get_reloadByoc listed] at found
          exact (scanned found).1
        source := fun found => by
          rw [get_reloadByoc listed] at found
          exact (scanned found).2 }

theorem Sound.install (managedEntry : ManagedEntry SigningKey managed) :
    Sound managed (resolver.install managedEntry.entry).2 := by
  unfold CertResolver.install
  split
  · exact sound
  · have fitting : Fitting managed (resolver.entries.insert
        managedEntry.entry.name managedEntry.entry) := by
      intro name entry found
      rw [AList.lookup_insert_eq] at found
      split at found
      · next same =>
        cases found
        refine ⟨same.symm, iff_of_false ?_ ?_⟩
        · simp [managedEntry.source_eq]
        · simp [same, managedEntry.name_mem]
      · exact sound.fitting found
    exact
      { managed_eq := sound.managed_eq
        named := fun found => (fitting found).1
        source := fun found => (fitting found).2 }

theorem Sound.step (event : ServingEvent SigningKey managed) :
    Sound managed (resolver.step crypto event) := by
  cases event with
  | reloadByoc dir now => exact sound.reloadByoc
  | install managedEntry => exact sound.install managedEntry

end

theorem sound_run {events : List (ServingEvent SigningKey managed)} :
    Sound managed (Run.after (step crypto) (start managed) events) :=
  Run.invariant sound_start (fun _ event sound => sound.step event) events

/-- A looked-up certificate covers the name that was asked for. -/
theorem Sound.covers (sound : Sound managed resolver) {input sni : String}
    (normalized : Hostname.normalizeHostname input = .ok sni)
    (found : resolver.lookup sni = some entry) :
    ∃ san ∈ entry.dnsNames, Hostname.Covers san sni := by
  have normal := Hostname.normalized_of_normalize normalized
  obtain ⟨key, stored, exact | wildcard⟩ := Hostname.key_of_findPattern found
  · subst key
    have named : entry.name = sni := sound.named stored
    obtain ⟨san, member, covering⟩ := List.any_eq_true.mp entry.covers
    refine ⟨san, member, ?_⟩
    rw [named] at covering
    rw [← Hostname.matchesPattern_iff_covers normal]
    simp only [Bool.or_eq_true, decide_eq_true_eq, Bool.and_eq_true] at covering
    rcases covering with same | ⟨-, matched⟩
    · simp [Hostname.matchesPattern_iff, same]
    · exact matched
  · have named : entry.name = key := sound.named stored
    obtain ⟨first, rest, shape, -⟩ :=
      Hostname.wildcardFor_eq_some_iff.mp wildcard
    obtain ⟨san, member, covering⟩ := List.any_eq_true.mp entry.covers
    have literal : isWildcard key = true := by simp [isWildcard, shape]
    rw [named, literal] at covering
    have same : san = key := by simpa using covering
    exact ⟨san, member, same ▸ Hostname.covers_of_wildcardFor normal wildcard⟩

theorem Sound.get_reloadByoc_of_managed (sound : Sound managed resolver)
    (member : name ∈ managed) :
    (resolver.reloadByoc crypto dir now).2.get name = resolver.get name := by
  cases listed : dir.listing with
  | error error => rw [get_reloadByoc_of_listing_error listed]
  | ok names =>
    rw [get_reloadByoc_of_other listed fun _ _ =>
      .inr (sound.managed_eq.symm ▸ member)]
    cases found : resolver.get name with
    | none => rfl
    | some entry =>
      have acme : entry.source ≠ .byoc :=
        fun byoc => (sound.source found).mp byoc member
      simp [Option.filter, acme]

/-- Two scans settle a name alike if both directories have the same files for
it. -/
theorem get_reloadByoc_eq_of_sameFiles {left right : CertDir}
    {leftNames rightNames : List String}
    (leftListed : left.listing = .ok leftNames)
    (rightListed : right.listing = .ok rightNames)
    (leftDistinct : DistinctStems leftNames)
    (rightDistinct : DistinctStems rightNames)
    (same : SameFiles left right leftNames rightNames name) :
    (resolver.reloadByoc crypto left now).2.get name =
      (resolver.reloadByoc crypto right now).2.get name := by
  by_cases here : name ∉ resolver.managed ∧ ∃ pair ∈ listCertPairs leftNames,
    pair.Names name
  · obtain ⟨free, pair, member, named⟩ := here
    rw [get_reloadByoc_of_names leftListed leftDistinct free member named,
      get_reloadByoc_of_names rightListed rightDistinct free
        ((same.listed pair named).mp member) named]
    unfold loadPair
    rw [same.cert pair named, same.key pair named]
  · rw [get_reloadByoc_of_other leftListed, get_reloadByoc_of_other rightListed]
    · intro pair member
      by_cases named : pair.Names name
      · have listed := (same.listed pair named).mpr member
        exact .inr (by_contra fun free => here ⟨free, pair, listed, named⟩)
      · exact .inl named
    · intro pair member
      by_cases named : pair.Names name
      · exact .inr (by_contra fun free => here ⟨free, pair, member, named⟩)
      · exact .inl named

/-- Over every sequence of scans and installations: a served certificate
covers the requested name; a scan neither replaces nor removes a managed
entry; a name whose pair fails keeps its entry; and the files of other names
do not matter. -/
theorem served_certificates (crypto : Crypto SigningKey)
    (events : List (ServingEvent SigningKey managed)) :
    let resolver := Run.after (step crypto) (start managed) events
    (∀ input sni entry, Hostname.normalizeHostname input = .ok sni →
      resolver.lookup sni = some entry → ∃ san ∈ entry.dnsNames,
        Hostname.Covers san sni) ∧
    (∀ dir now, ∀ name ∈ managed,
      (resolver.reloadByoc crypto dir now).2.get name = resolver.get name) ∧
    (∀ dir now name names, dir.listing = .ok names →
      (∃ pair ∈ listCertPairs names, pair.Names name) →
      (∀ pair ∈ listCertPairs names, pair.Names name →
        ∀ entry, loadPair crypto dir name now pair ≠ .ok entry) →
      (resolver.reloadByoc crypto dir now).2.get name = resolver.get name) ∧
    (∀ dir now error, dir.listing = .error error →
      (resolver.reloadByoc crypto dir now).2 = resolver) ∧
    ∀ left right now name leftNames rightNames,
      left.listing = .ok leftNames → right.listing = .ok rightNames →
      DistinctStems leftNames → DistinctStems rightNames →
      SameFiles left right leftNames rightNames name →
      (resolver.reloadByoc crypto left now).2.get name =
        (resolver.reloadByoc crypto right now).2.get name := by
  intro resolver
  have sound : Sound managed resolver := sound_run
  refine ⟨?_, ?_, ?_, ?_, ?_⟩
  · intro input sni entry normalized found
    exact sound.covers normalized found
  · intro dir now name member
    exact sound.get_reloadByoc_of_managed member
  · intro dir now name names listed present failed
    by_cases member : name ∈ managed
    · exact sound.get_reloadByoc_of_managed member
    · exact get_reloadByoc_of_failed listed
        (sound.managed_eq.symm ▸ member) present failed
  · intro dir now error unlisted
    exact get_reloadByoc_of_listing_error unlisted
  · intro left right now name leftNames rightNames leftListed rightListed
      leftDistinct rightDistinct same
    exact get_reloadByoc_eq_of_sameFiles leftListed rightListed leftDistinct
      rightDistinct same

/-- After a scan a name with a valid pair is served with the chain and the
key of that pair, unless its entry of the directory has the same leaf with
another chain or key. -/
theorem reload_serves_disk_iff (crypto : Crypto SigningKey)
    (resolver : CertResolver SigningKey) (dir : CertDir) (now : Int)
    {names : List String} (listed : dir.listing = .ok names)
    (distinct : DistinctStems names) {pair : CertPair}
    (member : pair ∈ listCertPairs names) {name : String}
    (named : pair.Names name) (free : name ∉ resolver.managed)
    {entry : CertEntry SigningKey}
    (valid : loadPair crypto dir name now pair = .ok entry) :
    (∃ served, (resolver.reloadByoc crypto dir now).2.lookup name =
      some served ∧ served.certifiedKey = entry.certifiedKey) ↔
      ∀ previous, resolver.get name = some previous → previous.source = .byoc →
        previous.fingerprint = entry.fingerprint →
        previous.certifiedKey = entry.certifiedKey := by
  have settled : (resolver.reloadByoc crypto dir now).2.get name =
      settle (byocEntry resolver.entries name)
        (loadPair crypto dir name now pair)
        ((resolver.get name).filter fun entry => entry.source ≠ .byoc) :=
    get_reloadByoc_of_names listed distinct free member named
  rw [valid] at settled
  have served_iff : ∀ served,
      (resolver.reloadByoc crypto dir now).2.get name = some served →
        ((∃ served, (resolver.reloadByoc crypto dir now).2.lookup name =
          some served ∧ served.certifiedKey = entry.certifiedKey) ↔
          served.certifiedKey = entry.certifiedKey) := by
    intro served found
    have looked := lookup_of_get found
    simp [looked]
  cases present : byocEntry resolver.entries name with
  | none =>
    rw [present] at settled
    rw [served_iff entry settled]
    refine iff_of_true rfl ?_
    intro previous found byoc
    have listed := byocEntry_eq_some_iff.mpr ⟨found, byoc⟩
    rw [present] at listed
    cases listed
  | some previous =>
    obtain ⟨found, byoc⟩ := byocEntry_eq_some_iff.mp present
    rw [present] at settled
    simp only [settle] at settled
    by_cases same : previous.fingerprint = entry.fingerprint
    · rw [if_pos same] at settled
      rw [served_iff previous settled]
      constructor
      · intro equal other otherFound _ _
        rw [found] at otherFound
        cases otherFound
        exact equal
      · intro all
        exact all previous found byoc same
    · rw [if_neg same] at settled
      rw [served_iff entry settled]
      refine iff_of_true rfl ?_
      intro other otherFound _ otherSame
      rw [found] at otherFound
      cases otherFound
      exact absurd otherSame same

end CertResolver

end Serving

/-- Libraries for which every byte of a file is a certificate. -/
def byteCrypto : Crypto (List UInt8) :=
  { pemChain := fun bytes => some (bytes.map fun byte => [byte])
    pemKey := some
    fromDer := fun _ key => .ok key
    parseX509 := fun _ => .ok
      { notBefore := 0
        notAfter := 100
        subjectAlternativeName := .ok (some [.dnsName "shop.example.com"]) }
    sha256 := id }

/-- A directory with one pair. -/
def oneCertDir (chain key : List UInt8) : CertDir :=
  { listing := .ok ["shop.example.com.crt", "shop.example.com.key"]
    read := fun path =>
      if path = "shop.example.com.crt" then .ok chain
      else if path = "shop.example.com.key" then .ok key
      else .error "No such file or directory" }

def onePair : CertPair :=
  { stem := "shop.example.com"
    certPath := "shop.example.com.crt"
    keyPath := "shop.example.com.key" }

namespace CertResolver

theorem distinctStems_one :
    DistinctStems ["shop.example.com.crt", "shop.example.com.key"] := by
  have pairs : listCertPairs ["shop.example.com.crt", "shop.example.com.key"] =
      [onePair] := by
    decide +kernel
  intro left leftMember right rightMember name _ _
  rw [pairs, List.mem_singleton] at leftMember rightMember
  rw [leftMember, rightMember]

theorem names_onePair : onePair.Names "shop.example.com" := rfl

/-- The first scan of a directory with one pair. -/
def firstScan : List (ServingEvent (List UInt8) ∅) :=
  [.reloadByoc (oneCertDir [1, 2] [9]) 10]

def scannedOnce : CertResolver (List UInt8) :=
  Run.after (step byteCrypto) (start ∅) firstScan

theorem served_certificates_once :
    ∃ entry, scannedOnce.lookup "shop.example.com" = some entry ∧
      ∃ san ∈ entry.dnsNames, Hostname.Covers san "shop.example.com" := by
  have served : (scannedOnce.lookup "shop.example.com").isSome = true := by
    decide +kernel
  obtain ⟨entry, found⟩ := Option.isSome_iff_exists.mp served
  exact ⟨entry, found, (served_certificates byteCrypto firstScan).1
    "shop.example.com" _ entry rfl found⟩

/-- A renewed leaf replaces the one that was loaded before. -/
theorem reload_serves_disk_renewed :
    ∃ entry, loadPair byteCrypto
      (oneCertDir [3, 2] [9]) "shop.example.com" 10 onePair = .ok entry ∧
      ∃ served, (scannedOnce.reloadByoc byteCrypto
          (oneCertDir [3, 2] [9]) 10).2.lookup "shop.example.com" =
            some served ∧
        served.certifiedKey = entry.certifiedKey := by
  have loads : (loadPair byteCrypto (oneCertDir [3, 2] [9])
      "shop.example.com" 10 onePair).toOption.map
      (fun entry => entry.fingerprint) = some "03" := by
    decide +kernel
  have before : (scannedOnce.get "shop.example.com").map
      (fun entry => entry.fingerprint) = some "01" := by
    decide +kernel
  cases valid : loadPair byteCrypto
    (oneCertDir [3, 2] [9]) "shop.example.com" 10 onePair with
  | error failure =>
    rw [valid] at loads
    cases loads
  | ok entry =>
    rw [valid] at loads
    refine ⟨entry, rfl, (reload_serves_disk_iff byteCrypto scannedOnce
      (oneCertDir [3, 2] [9]) 10 rfl distinctStems_one
      (by decide +kernel) names_onePair (by decide +kernel) valid).mpr ?_⟩
    intro previous found _ same
    rw [found] at before
    have old : previous.fingerprint = "01" := Option.some.inj before
    have new : entry.fingerprint = "03" := Option.some.inj loads
    rw [old, new] at same
    exact absurd same (by decide)

/-- The intermediate of a chain is replaced and the leaf stays: the scan goes
on serving the chain it had. -/
theorem reload_keeps_old_chain :
    (loadPair byteCrypto (oneCertDir [1, 3] [9]) "shop.example.com" 10
        onePair).toOption.map (fun entry => entry.certifiedKey) =
      some ⟨[[1], [3]], [9]⟩ ∧
    ((scannedOnce.reloadByoc byteCrypto (oneCertDir [1, 3] [9]) 10).2.lookup
      "shop.example.com").map
      (fun entry => entry.certifiedKey) = some ⟨[[1], [2]], [9]⟩ := by
  constructor <;> decide +kernel

end CertResolver

end SieveTube.Certificate
