import SieveTube.Certificate.Renewal
import SieveTube.Certificate.Serving

/-!
# Orders without need

An Edge that still holds its lease when it starts an order has read the
certificate that is active in the store, since nobody else can have stored one
since it got the lease.  Without the lease the decision may be out of date.
-/

namespace SieveTube.Acme

open Certificate Valkey

section Files

variable {Entry : Type}
variable {parseAndValidate :
  List UInt8 → List UInt8 → Int → Except String Entry}

variable {directory : Directory}

theorem loadGeneration_eq_some_iff {number : Nat} {now : Int} {entry : Entry} :
    loadGeneration parseAndValidate directory number now = some entry ↔
      ∃ cert key, directory.generations.lookup number =
          some { cert := some cert, key := some key } ∧
        parseAndValidate cert key now = .ok entry := by
  unfold loadGeneration
  constructor
  · intro loaded
    obtain ⟨⟨certFile, keyFile⟩, found, loaded⟩ :=
      Option.bind_eq_some_iff.mp loaded
    obtain ⟨cert, rfl, loaded⟩ := Option.bind_eq_some_iff.mp loaded
    obtain ⟨key, rfl, loaded⟩ := Option.bind_eq_some_iff.mp loaded
    refine ⟨cert, key, found, ?_⟩
    cases valid : parseAndValidate cert key now with
    | error message => simp [valid, Except.toOption] at loaded
    | ok entry => simpa [valid, Except.toOption] using loaded
  · rintro ⟨cert, key, found, valid⟩
    simp [found, valid, Except.toOption]

/-- A generation that was complete with these files: its number is used up,
and nothing else can be found under it. -/
structure StoredAs (directory : Directory) (generation : Nat)
    (cert key : List UInt8) : Prop where
  used : ∃ active, directory.current = some active ∧ generation ≤ active
  files : Shrunk (some { cert := some cert, key := some key })
    (directory.generations.lookup generation)

variable {cert key : List UInt8}

theorem StoredAs.reached {request : Request} {later : Directory}
    {generation : Nat} (stored : StoredAs directory generation cert key)
    (reached : Reached parseAndValidate request directory later) :
    StoredAs later generation cert key := by
  obtain ⟨active, current, below⟩ := stored.used
  cases reached with
  | untouched stage =>
    constructor
    · exact ⟨active, stage.current.trans current, below⟩
    · rw [stage.generations]
      exact stored.files
  | renamed admissible stage =>
    have newer := admissible.newer active current
    constructor
    · exact ⟨active, stage.current.trans current, below⟩
    · rw [stage.generations, Request.placed, if_neg (by omega)]
      exact stored.files
  | switched admissible stage =>
    have newer := admissible.newer active current
    have shrunk := stage.shrunk generation
    rw [Request.placed, if_neg (by omega)] at shrunk
    constructor
    · exact ⟨request.generation, stage.current, by omega⟩
    · exact stored.files.trans shrunk

theorem complete_of_shrunk {before : Option GenerationDir}
    (shrunk : Shrunk before (some { cert := some cert, key := some key })) :
    before = some { cert := some cert, key := some key } := by
  cases before with
  | none => exact shrunk.elim
  | some dir =>
    rcases shrunk .cert with gone | sameCert
    · cases gone
    rcases shrunk .key with gone | sameKey
    · cases gone
    simp only [GenerationDir.file] at sameCert sameKey
    cases dir
    simp_all

/-- A complete generation after a store call was there before or is the one
of the call. -/
theorem complete_of_reached {request : Request} {later : Directory}
    (reached : Reached parseAndValidate request directory later) {number : Nat}
    (found : later.generations.lookup number =
      some { cert := some cert, key := some key }) :
    directory.generations.lookup number =
      some { cert := some cert, key := some key } ∨
      request.cert = cert ∧ request.key = key ∧
        ∃ entry, parseAndValidate cert key request.now = .ok entry := by
  have placed : Admissible parseAndValidate request directory →
      request.placed directory number =
        some { cert := some cert, key := some key } →
      directory.generations.lookup number =
        some { cert := some cert, key := some key } ∨
        request.cert = cert ∧ request.key = key ∧
          ∃ entry, parseAndValidate cert key request.now = .ok entry := by
    intro admissible placed
    rcases placed_eq_some placed with ⟨-, same⟩ | earlier
    · cases same
      exact .inr ⟨rfl, rfl, admissible.valid⟩
    · exact .inl earlier
  cases reached with
  | untouched stage => exact .inl (stage.generations ▸ found)
  | renamed admissible stage =>
    exact placed admissible ((stage.generations number).symm.trans found)
  | switched admissible stage =>
    have shrunk := stage.shrunk number
    rw [found] at shrunk
    exact placed admissible (complete_of_shrunk shrunk)

end Files

/-- The certificate file a step hands to the store. -/
def Renewal.cert : Renewal → Option (List UInt8)
  | .store _ call _ => some call.request.cert
  | _ => none

/-- The certificate files of a run.  All leaves that are ever parsed are
theirs. -/
def storedCerts (events : List Renewal) : List (List UInt8) :=
  events.filterMap Renewal.cert

section Loops

variable {SigningKey : Type} {crypto : Crypto SigningKey}
variable {remainingAtRenewal : Int → Int} {domain : String}
variable {certs : List (List UInt8)}

/-- An installed certificate is one of a stored generation. -/
def Genuine (crypto : Crypto SigningKey) (domain : String)
    (certs : List (List UInt8)) (directory : Directory)
    (entry : CertEntry SigningKey) : Prop :=
  ∃ generation, ∃ cert ∈ certs, ∃ key fresh,
    Parses crypto cert key domain .acme fresh ∧
      entry = { fresh with generation := some generation } ∧
      StoredAs directory generation cert key

/-- Every installed certificate of the domain is one of the store. -/
def Manager.Follows (crypto : Crypto SigningKey) (domain : String)
    (certs : List (List UInt8)) (directory : Directory)
    (manager : Manager SigningKey) : Prop :=
  ∀ entry, manager.resolver.get domain = some entry →
    Genuine crypto domain certs directory entry

/-- Whatever is active from now on is installed, up to its files. -/
def Manager.Synced (crypto : Crypto SigningKey) (domain : String)
    (directory : Directory) (now : Int) (manager : Manager SigningKey) :
    Prop :=
  ∀ later entry, now ≤ later →
    activeEntry crypto domain directory later = some entry →
    ∃ installed, manager.resolver.get domain = some installed ∧
      installed.notBefore = entry.notBefore ∧
      installed.notAfter = entry.notAfter

/-- Every complete generation was stored and valid up to now. -/
def Dated (crypto : Crypto SigningKey) (domain : String)
    (certs : List (List UInt8)) (directory : Directory) (now : Int) : Prop :=
  ∀ number cert key, directory.generations.lookup number =
      some { cert := some cert, key := some key } →
    cert ∈ certs ∧ ∃ entry, Parses crypto cert key domain .acme entry ∧
      entry.notBefore ≤ now + notBeforeLeewaySecs

variable {directory : Directory} {now : Int} {entry : CertEntry SigningKey}

theorem activeEntry_eq_some_iff :
    activeEntry crypto domain directory now = some entry ↔
      ∃ current cert key,
        directory.current = some current ∧
          directory.generations.lookup current =
          some { cert := some cert, key := some key } ∧
        acmeEntry crypto domain cert key now = .ok entry := by
  unfold activeEntry
  constructor
  · intro active
    obtain ⟨current, found, loaded⟩ := Option.bind_eq_some_iff.mp active
    obtain ⟨cert, key, files, valid⟩ := loadGeneration_eq_some_iff.mp loaded
    exact ⟨current, cert, key, found, files, valid⟩
  · rintro ⟨current, cert, key, found, files, valid⟩
    rw [found]
    exact loadGeneration_eq_some_iff.mpr ⟨cert, key, files, valid⟩

/-- What is loaded comes from a generation up to the active one. -/
theorem loaded_of_loadReadable {reading : Reading} {number : Nat}
    (loaded : loadReadable crypto domain reading directory now =
      some (number, entry)) :
    ∃ active, directory.current = some active ∧ number ≤ active ∧
      loadGeneration (acmeEntry crypto domain) directory number now =
        some entry := by
  obtain ⟨active, current, loaded⟩ := Option.bind_eq_some_iff.mp loaded
  obtain ⟨generation, listed, found⟩ := List.exists_of_findSome?_eq_some loaded
  split at found
  · cases found
  · obtain ⟨fresh, answer, same⟩ := Option.map_eq_some_iff.mp found
    cases same
    exact ⟨active,
      current, by simpa using (List.mem_filter.mp listed).2, answer⟩

theorem loadReadable_of_complete {reading : Reading}
    (complete : reading.complete = true) :
    loadReadable crypto domain reading directory now =
      loadCurrent (acmeEntry crypto domain) directory now := by
  have none : reading.unreadable = [] := by
    simp only [Reading.complete, Bool.and_eq_true, List.isEmpty_iff] at complete
    exact complete.2
  unfold loadReadable loadCurrent
  simp only [none, List.not_mem_nil, if_false]

theorem genuine_of_loaded {number active : Nat}
    (dated : Dated crypto domain certs directory now)
    (current : directory.current = some active) (below : number ≤ active)
    (loaded : loadGeneration (acmeEntry crypto domain) directory number now =
      some entry) :
    Genuine crypto domain certs directory
      { entry with generation := some number } := by
  obtain ⟨cert, key, files, valid⟩ := loadGeneration_eq_some_iff.mp loaded
  refine ⟨number, cert, (dated number cert key files).1, key, entry,
    ⟨now, valid⟩, rfl, ?_⟩
  refine ⟨⟨active, current, below⟩, ?_⟩
  rw [files]
  exact Shrunk.refl _

theorem Genuine.reached
    {parseAndValidate : List UInt8 → List UInt8 → Int →
      Except String (CertEntry SigningKey)}
    {request : Request} {later : Directory}
    (genuine : Genuine crypto domain certs directory entry)
    (reached : Reached parseAndValidate request directory later) :
    Genuine crypto domain certs later entry := by
  obtain ⟨generation, cert, known, key, fresh, parses, same, stored⟩ := genuine
  exact ⟨generation, cert, known, key, fresh, parses, same,
    stored.reached reached⟩

namespace Manager

variable {manager : Manager SigningKey} {directory : Directory}

variable {entry : CertEntry SigningKey}

/-- Installing keeps the entry of the name or replaces it. -/
theorem get_install {generation : Nat} (named : entry.name = domain) :
    (∃ present, manager.resolver.get domain = some present ∧
        present.fingerprint = entry.fingerprint ∧
        (manager.install generation entry).resolver.get domain = some present) ∨
      (manager.install generation entry).resolver.get domain =
        some { entry with generation := some generation } := by
  subst named
  unfold install CertResolver.install
  split
  · next same =>
    left
    cases found : manager.resolver.get entry.name with
    | none => simp [found] at same
    | some present =>
      refine ⟨present, rfl, ?_, rfl⟩
      simpa [found] using same
  · right
    simp [CertResolver.get]

theorem Follows.install {generation : Nat}
    (follows : manager.Follows crypto domain certs directory)
    (named : entry.name = domain)
    (genuine : Genuine crypto domain certs directory
      { entry with generation := some generation }) :
    (manager.install generation entry).Follows crypto domain certs
      directory := by
  intro installed found
  rcases get_install named with
    ⟨present, before, -, after⟩ | replaced
  · cases after.symm.trans found
    exact follows installed before
  · cases replaced.symm.trans found
    exact genuine

theorem Follows.refreshFromStore {reading : Reading} {now : Int}
    (dated : Dated crypto domain certs directory now)
    (follows : manager.Follows crypto domain certs directory) :
    (manager.refreshFromStore crypto domain reading directory now).Follows
      crypto domain certs directory := by
  unfold Manager.refreshFromStore
  split
  · split
    · exact follows
    · split
      · exact follows
      · split
        · split
          · exact follows
          · next generation entry loaded =>
            split
            · exact follows
            · obtain ⟨active, current, below, loaded⟩ :=
                loaded_of_loadReadable loaded
              obtain ⟨cert, key, -, valid⟩ :=
                loadGeneration_eq_some_iff.mp loaded
              exact follows.install (vetted_of_parseAndValidate valid).name_eq
                (genuine_of_loaded dated current below loaded)
        · exact follows
  · exact follows

theorem installedGeneration_eq_some {generation : Nat}
    (installed : manager.installedGeneration domain = some generation) :
    ∃ entry, manager.resolver.get domain = some entry ∧
      entry.generation = some generation := by
  obtain ⟨entry, found, numbered⟩ := Option.bind_eq_some_iff.mp installed
  exact ⟨entry, (Option.filter_eq_some_iff.mp found).1, numbered⟩

/-- An Edge that can read the store has what is active in it. -/
theorem synced_refreshFromStore (distinct : crypto.TellsApart certs)
    {reading : Reading} (complete : reading.complete = true) {now : Int}
    (dated : Dated crypto domain certs directory now)
    (follows : manager.Follows crypto domain certs directory) :
    (manager.refreshFromStore crypto domain reading directory now).Synced
      crypto domain directory now := by
  intro later entry after active
  obtain ⟨current, cert, key, found, files, valid⟩ :=
    activeEntry_eq_some_iff.mp active
  have parses : Parses crypto cert key domain .acme entry := ⟨later, valid⟩
  have unexpired : now < entry.notAfter :=
    Int.lt_of_le_of_lt after (vetted_of_parseAndValidate valid).unexpired
  obtain ⟨known, other, parsesToo, begun⟩ := dated current cert key files
  rw [← parses.eq parsesToo] at begun
  have loaded : loadGeneration (acmeEntry crypto domain) directory current now =
      some entry :=
    loadGeneration_eq_some_iff.mpr
      ⟨cert, key, files, parses.parseAndValidate unexpired begun⟩
  have newest : loadReadable crypto domain reading directory now =
      some (current, entry) := by
    rw [loadReadable_of_complete complete]
    exact loadCurrent_eq_some_iff.mpr ⟨current, found, Nat.le_refl _, loaded,
      fun newer above within => absurd above (Nat.not_lt.mpr within)⟩
  simp only [Reading.complete, Bool.and_eq_true] at complete
  unfold Manager.refreshFromStore
  rw [if_pos complete.1.1, found]
  dsimp only
  split
  · next installed =>
    obtain ⟨present, here, numbered⟩ :=
      installedGeneration_eq_some installed.symm
    obtain ⟨generation, oldCert, -, oldKey, fresh, parsesToo, rfl, stored⟩ :=
      follows present here
    cases numbered
    have same := stored.files
    rw [files] at same
    cases complete_of_shrunk same
    cases parses.eq parsesToo
    exact ⟨_, here, rfl, rfl⟩
  · next outdated =>
    rw [if_pos complete.1.2, newest]
    dsimp only
    rw [if_neg outdated]
    rcases get_install (vetted_of_parseAndValidate valid).name_eq with
      ⟨present, before, same, kept⟩ | replaced
    · obtain ⟨generation, oldCert, stored, oldKey, fresh, parsesToo, rfl, -⟩ :=
        follows present before
      have dates := parsesToo.dates_eq distinct stored known parses same
      exact ⟨_, kept, dates⟩
    · exact ⟨_, replaced, rfl, rfl⟩

theorem source_of_follows
    (follows : manager.Follows crypto domain certs directory)
    (found : manager.resolver.get domain = some entry) :
    entry.source = .acme := by
  obtain ⟨generation, cert, -, key, fresh, ⟨now, valid⟩, rfl, -⟩ :=
    follows entry found
  exact (vetted_of_parseAndValidate valid).source_eq

/-- A domain that is due for a manager that has what is active is due. -/
theorem Synced.renewable {now : Int}
    (synced : manager.Synced crypto domain directory now)
    (follows : manager.Follows crypto domain certs directory)
    (due : manager.dueAt remainingAtRenewal domain now ≤ now) {later : Int}
    (after : now ≤ later) :
    Renewable crypto remainingAtRenewal domain directory later := by
  intro entry active
  obtain ⟨installed, found, before, expiry⟩ := synced later entry after active
  obtain ⟨current, cert, key, -, -, valid⟩ := activeEntry_eq_some_iff.mp active
  have unexpired : now < installed.notAfter := by
    rw [expiry]
    exact Int.lt_of_le_of_lt after (vetted_of_parseAndValidate valid).unexpired
  have usable : (installed.source = .acme && !isExpired installed now) =
      true := by
    simp [source_of_follows follows found, isExpired, unexpired]
  have renewal : renewalDueAt remainingAtRenewal installed ≤ now := by
    refine Int.le_trans (Int.le_trans ?_ (Int.le_max_left _ _)) due
    rw [found, Option.filter_some, if_pos usable]
    exact Int.le_refl _
  have same : renewalDueAt remainingAtRenewal entry =
      renewalDueAt remainingAtRenewal installed := by
    simp [renewalDueAt, lifetimeSecs, before, expiry]
  rw [same]
  exact Int.le_trans renewal after

end Manager

/-- What the last turn of an Edge that holds its lease rests on. -/
def Ready (crypto : Crypto SigningKey) (remainingAtRenewal : Int → Int)
    (domain : String) (directory : Directory) (now : Int)
    (manager : Manager SigningKey) : Turn → Prop
  | .refreshed => manager.Synced crypto domain directory now
  | .due =>
    ∀ later, now ≤ later →
      Renewable crypto remainingAtRenewal domain directory later
  | .waiting | .ordered => True

theorem Ready.later {later : Int} {manager : Manager SigningKey} {turn : Turn}
    (ready : Ready crypto remainingAtRenewal domain directory now manager
      turn) (after : now ≤ later) :
    Ready crypto remainingAtRenewal domain directory later manager turn := by
  cases turn with
  | refreshed =>
    intro final entry reached
    exact ready final entry (Int.le_trans after reached)
  | due =>
    intro final reached
    exact ready final (Int.le_trans after reached)
  | waiting | ordered => trivial

/-- While an Edge is in its attempt and holds its lease, it is ready. -/
def Prepared (crypto : Crypto SigningKey) (remainingAtRenewal : Int → Int)
    (domain : String) (cluster : Cluster) (now : Int)
    (manager : Manager SigningKey) (edge : String) (turn : Turn) : Prop :=
  ∀ plan generation held, cluster.phases edge = .leased plan generation →
    Holds cluster.server.store (leaseResource domain) edge held →
    Ready crypto remainingAtRenewal domain cluster.directory now manager turn

/-- What holds for the loops in every state. -/
structure Sound (crypto : Crypto SigningKey)
    (remainingAtRenewal : Int → Int) (domain : String)
    (certs : List (List UInt8)) (fleet : Fleet SigningKey) : Prop where
  consistent : Consistent fleet.cluster (leaseResource domain)
  dated : Dated crypto domain certs fleet.cluster.directory fleet.time
  follows : ∀ edge,
    (fleet.managers edge).Follows crypto domain certs fleet.cluster.directory
  prepared : ∀ edge, Prepared crypto remainingAtRenewal domain fleet.cluster
    fleet.time (fleet.managers edge) edge (fleet.turns edge)

section Step

variable {fleet : Fleet SigningKey} {edge : String} {cluster : Cluster}
variable {manager : Manager SigningKey} {turn : Turn}

section

variable (sound : Sound crypto remainingAtRenewal domain certs fleet)
include sound

theorem Sound.advance (consistent : Consistent cluster (leaseResource domain))
    (dated : Dated crypto domain certs cluster.directory fleet.time)
    (follows : ∀ other,
      (fleet.managers other).Follows crypto domain certs cluster.directory)
    (own : manager.Follows crypto domain certs cluster.directory)
    (prepared : Prepared crypto remainingAtRenewal domain cluster fleet.time
      manager edge turn)
    (others : ∀ other, other ≠ edge → ∀ held,
      Holds cluster.server.store (leaseResource domain) other held →
      Holds fleet.cluster.server.store (leaseResource domain) other held ∧
        cluster.directory = fleet.cluster.directory)
    (phases : ∀ other, other ≠ edge →
      cluster.phases other = fleet.cluster.phases other) :
    Sound crypto remainingAtRenewal domain certs
      (fleet.advance edge cluster manager turn) where
  consistent := consistent
  dated := dated
  follows := by
    intro other
    by_cases same : other = edge
    · subst other
      simpa [Fleet.advance] using own
    · simpa [Fleet.advance, same] using follows other
  prepared := by
    intro other
    by_cases same : other = edge
    · subst other
      simpa [Fleet.advance] using prepared
    · intro plan generation held leased holds
      obtain ⟨held, unchanged⟩ := others other same held holds
      have ready := sound.prepared other plan generation _
        ((phases other same).symm.trans leased) held
      simpa [Fleet.advance, same, unchanged] using ready

theorem Sound.move {event : Event} (acts : event.actor = some edge)
    (quiet : event.stores = false)
    (own : manager.Follows crypto domain certs fleet.cluster.directory) :
    Sound crypto remainingAtRenewal domain certs
      (fleet.advance edge (fleet.cluster.step (acmeEntry crypto domain)
        domain event) manager .waiting) := by
  have same : (fleet.cluster.step (acmeEntry crypto domain) domain
      event).directory = fleet.cluster.directory := moves_step.directory quiet
  have differs : ∀ other, other ≠ edge → event.actor ≠ some other := by
    intro other different acting
    exact different (Option.some.inj (acting.symm.trans acts))
  refine sound.advance (moves_step.consistent sound.consistent)
    ?_ ?_ ?_ (fun _ _ _ _ _ => trivial) ?_ ?_
  · rw [same]
    exact sound.dated
  · rw [same]
    exact sound.follows
  · rw [same]
    exact own
  · intro other different held holds
    exact ⟨moves_step.held (differs other different) sound.consistent
      holds, same⟩
  · intro other different
    exact moves_step.phases (differs other different)

/-- A step of one Edge that only it sees. -/
theorem Sound.alone
    (own : manager.Follows crypto domain certs fleet.cluster.directory)
    (prepared : Prepared crypto remainingAtRenewal domain fleet.cluster
      fleet.time manager edge turn) :
    Sound crypto remainingAtRenewal domain certs
      (fleet.advance edge fleet.cluster manager turn) :=
  sound.advance sound.consistent sound.dated sound.follows own prepared
    (fun _ _ _ held => ⟨held, rfl⟩) (fun _ _ => rfl)

end

theorem follows_restarted {status : Option DomainState} :
    (Manager.restarted domain status : Manager SigningKey).Follows crypto
      domain certs directory := by
  intro entry found
  cases found

/-- What a store call leaves is dated by the time of the call. -/
theorem Dated.reached {request : Request} {directory later : Directory}
    (known : request.cert ∈ certs)
    (dated : Dated crypto domain certs directory request.now)
    (reached : Reached (acmeEntry crypto domain) request directory later) :
    Dated crypto domain certs later request.now := by
  intro number cert key found
  rcases complete_of_reached reached found with
    before | ⟨rfl, -, entry, valid⟩
  · exact dated number cert key before
  · exact ⟨known, entry, ⟨request.now, valid⟩,
      (vetted_of_parseAndValidate valid).begun⟩

variable {call : StoreCall}

theorem genuine_of_switched {directory later : Directory}
    {entry : CertEntry SigningKey}
    (known : call.request.cert ∈ certs)
    (switched : Switched call.request directory later)
    (valid : acmeEntry crypto domain call.request.cert call.request.key
      call.request.now = .ok entry) :
    Genuine crypto domain certs later
      { entry with generation := some call.request.generation } := by
  refine ⟨call.request.generation, call.request.cert, known,
    call.request.key, entry, ⟨_, valid⟩, rfl, ?_⟩
  refine ⟨⟨call.request.generation, switched.current, Nat.le_refl _⟩, ?_⟩
  have shrunk := switched.shrunk call.request.generation
  rwa [Request.placed, if_pos rfl] at shrunk

/-- The manager after the store call of its attempt. -/
theorem follows_stored {delay : Nat} (known : call.request.cert ∈ certs)
    (follows : (fleet.managers edge).Follows crypto domain certs
      (call.apply (acmeEntry crypto domain) fleet.cluster.directory)) :
    (fleet.stored crypto domain edge call delay).Follows crypto domain certs
      (call.apply (acmeEntry crypto domain) fleet.cluster.directory) := by
  unfold Fleet.stored
  split
  · exact follows_restarted
  · next finished =>
    split
    · next generation entry succeeded =>
      have stored : Stored (acmeEntry crypto domain) call.request
          fleet.cluster.directory
          (call.result (acmeEntry crypto domain) fleet.cluster.directory) _ :=
        stored_result
      rw [succeeded] at stored
      obtain ⟨switched, rfl, valid⟩ := stored
      have applied : call.apply (acmeEntry crypto domain)
          fleet.cluster.directory = (Program.run perform
            (store (acmeEntry crypto domain) call.request) call.fates
            fleet.cluster.directory).2 := by
        unfold StoreCall.apply
        rw [Option.not_isSome_iff_eq_none.mp finished]
      rw [← applied] at switched
      exact follows.install (vetted_of_parseAndValidate valid).name_eq
        (genuine_of_switched known switched valid)
    · exact follows

theorem Sound.store (sound : Sound crypto remainingAtRenewal domain certs fleet)
    {delay generation : Nat} {plan : Plan}
    (known : call.request.cert ∈ certs)
    (checked : fleet.cluster.phases edge = .checked plan generation)
    (kept : checkLease edge (leaseResource domain) generation
      fleet.cluster.server.store = true) :
    Sound crypto remainingAtRenewal domain certs
      (fleet.advance edge (fleet.cluster.step (acmeEntry crypto domain)
        domain (.store edge (atTime call fleet.time)))
        (fleet.stored crypto domain edge
          (withGeneration (atTime call fleet.time) generation) delay)
        .waiting) := by
  have applied : (fleet.cluster.step (acmeEntry crypto domain) domain
      (.store edge (atTime call fleet.time))).directory =
        (withGeneration (atTime call fleet.time) generation).apply
          (acmeEntry crypto domain) fleet.cluster.directory := by
    simp only [Cluster.step, checked]
  have server : (fleet.cluster.step (acmeEntry crypto domain) domain
      (.store edge (atTime call fleet.time))).server =
        fleet.cluster.server := by
    simp only [Cluster.step, checked]
  have reached : Reached (acmeEntry crypto domain)
      (withGeneration (atTime call fleet.time) generation).request
      fleet.cluster.directory _ := reached_apply
  have follows : ∀ other, (fleet.managers other).Follows crypto domain certs
      ((withGeneration (atTime call fleet.time) generation).apply
        (acmeEntry crypto domain) fleet.cluster.directory) :=
    fun other entry found => (sound.follows other entry found).reached reached
  refine sound.advance (moves_step.consistent sound.consistent)
    ?_ ?_ ?_ (fun _ _ _ _ _ => trivial) ?_ ?_
  · rw [applied]
    have stored : (withGeneration (atTime call fleet.time)
        generation).request.cert ∈ certs := known
    exact Dated.reached stored sound.dated reached
  · rw [applied]
    exact follows
  · rw [applied]
    exact follows_stored known (follows edge)
  · intro other different held holds
    rw [server] at holds
    exact absurd (holds.inj (holds_of_checkLease kept)).1 different
  · intro other different
    refine moves_step.phases fun same => different ?_
    exact (Option.some.inj same).symm

theorem Sound.step (distinct : crypto.TellsApart certs)
    (sound : Sound crypto remainingAtRenewal domain certs fleet)
    {event : Renewal} (known : ∀ cert ∈ event.cert, cert ∈ certs)
    (kept : leaseKept domain fleet event = true)
    (reads : event.reads = true) :
    Sound crypto remainingAtRenewal domain certs
      (fleet.step crypto remainingAtRenewal domain event) := by
  cases event with
  | tick seconds =>
    have after : fleet.time ≤ fleet.time + seconds := by omega
    refine ⟨sound.consistent, ?_, sound.follows, ?_⟩
    · intro number cert key found
      obtain ⟨known, entry, parses, begun⟩ := sound.dated number cert key found
      exact ⟨known, entry, parses, by simp only [Fleet.step]; omega⟩
    · intro edge plan generation held leased holds
      exact (sound.prepared edge plan generation held leased holds).later after
  | refresh edge reading =>
    simp only [Fleet.step]
    split
    · refine sound.alone ((sound.follows edge).refreshFromStore sound.dated) ?_
      intro _ _ _ _ _
      exact Manager.synced_refreshFromStore distinct reads sound.dated
        (sound.follows edge)
    · exact sound
  | consider edge =>
    simp only [Fleet.step]
    split
    · next refreshed =>
      split
      · next due =>
        refine sound.alone (sound.follows edge) ?_
        intro plan generation held leased holds later after
        have synced := sound.prepared edge plan generation held leased holds
        rw [refreshed] at synced
        exact Manager.Synced.renewable synced (sound.follows edge) due after
      · exact sound.move rfl rfl (sound.follows edge)
    · exact sound
  | plan edge _ | acquire edge _ | fail edge _ | release edge _ =>
    simp only [Fleet.step]
    split
    · exact sound.move rfl rfl (sound.follows edge)
    · exact sound
  | order edge =>
    simp only [Fleet.step]
    split
    · exact sound.alone (sound.follows edge) fun _ _ _ _ _ => trivial
    · exact sound
  | check edge reach delay =>
    simp only [Fleet.step]
    split
    · split <;> exact sound.move rfl rfl (sound.follows edge)
    · exact sound
  | store edge call delay =>
    simp only [Fleet.step]
    split
    · next plan generation checked =>
      simp only [leaseKept, checked] at kept
      exact sound.store (known _ rfl) checked kept
    · exact sound
  | crash edge status => exact sound.move rfl rfl follows_restarted
  | elsewhere call =>
    have same : (fleet.cluster.step (acmeEntry crypto domain) domain
        (.elsewhere call)).directory = fleet.cluster.directory :=
      moves_step.directory rfl
    have consistent : Consistent (fleet.cluster.step
        (acmeEntry crypto domain) domain (.elsewhere call))
        (leaseResource domain) := moves_step.consistent sound.consistent
    refine ⟨consistent, ?_, ?_, ?_⟩
    · simpa only [Fleet.step, same] using sound.dated
    · simpa only [Fleet.step, same] using sound.follows
    · intro edge plan generation held leased holds
      have ready := sound.prepared edge plan generation held
        ((moves_step.phases (by simp [Event.actor])).symm.trans leased)
        (moves_step.held (by simp [Event.actor]) sound.consistent holds)
      simpa only [Fleet.step, same] using ready

end Step

theorem sound_run (time : Int) {events : List Renewal}
    (distinct : crypto.TellsApart (storedCerts events))
    (kept : Run.Along (Fleet.step crypto remainingAtRenewal domain)
      (fun fleet event => leaseKept domain fleet event = true ∧
        event.reads = true) (.start domain time) events) :
    Sound crypto remainingAtRenewal domain (storedCerts events)
      (Fleet.run crypto remainingAtRenewal domain time events) := by
  have consistent : Consistent (Cluster.run (acmeEntry crypto domain) domain
      []) (leaseResource domain) := consistent_run []
  refine Run.invariant_along_mem ?_ ?_ kept
  · refine ⟨consistent, ?_, ?_, ?_⟩
    · intro number cert key found
      cases found
    · exact fun edge => follows_restarted
    · exact fun edge _ _ _ _ _ => trivial
  · intro fleet event member sound ⟨kept, reads⟩
    refine sound.step distinct ?_ kept reads
    exact fun cert stored => List.mem_filterMap.mpr ⟨event, member, stored⟩

/-- Edges that can read the store and keep their lease from its check to the
store call, and stored leaves that the digest tells apart: an Edge that still
holds the lease of its attempt when it starts an order does so for a domain
whose active certificate is missing, not valid or due. -/
theorem order_needed (crypto : Crypto SigningKey)
    (remainingAtRenewal : Int → Int) (domain : String) (time : Int)
    (events : List Renewal) (edge : String)
    (distinct : crypto.TellsApart (storedCerts events))
    (kept : Run.Along (Fleet.step crypto remainingAtRenewal domain)
      (fun fleet event => leaseKept domain fleet event = true ∧
        event.reads = true) (.start domain time) events)
    (ordering : (Fleet.run crypto remainingAtRenewal domain time
      events).ordering edge = true)
    (held : (Fleet.run crypto remainingAtRenewal domain time
      events).holdsLease domain edge = true) :
    Renewable crypto remainingAtRenewal domain
      (Fleet.run crypto remainingAtRenewal domain time events).cluster.directory
      (Fleet.run crypto remainingAtRenewal domain time events).time := by
  have sound : Sound crypto remainingAtRenewal domain (storedCerts events)
      (Fleet.run crypto remainingAtRenewal domain time events) :=
    sound_run time distinct kept
  unfold Fleet.ordering at ordering
  split at ordering
  · next plan generation leased due =>
    simp only [Fleet.holdsLease, leased] at held
    have ready := sound.prepared edge plan generation generation leased
      (holds_of_checkLease held)
    rw [due] at ready
    exact ready _ (Int.le_refl _)
  · cases ordering

end Loops

/-- An attempt up to the point where the order starts. -/
def attemptOf (edge : String) : List Renewal :=
  let reading := { pointer := true, listing := true, unreadable := [] }
  [.refresh edge reading, .consider edge, .plan edge true,
    .acquire edge .answered, .refresh edge reading, .consider edge]

/-- The certificate is renewed when a third of its lifetime is left. -/
def aThird (lifetime : Int) : Int := lifetime / 3

/-- A store call for a chain of one certificate. -/
def renewedCall (leaf : UInt8) : StoreCall :=
  { smoothCall 0 with
    request := { (smoothCall 0).request with cert := [leaf], key := [9] } }

/-- Libraries with digests of 32 bytes. -/
def digestCrypto : Crypto (List UInt8) :=
  { byteCrypto with
    sha256 := fun leaf => (leaf ++ List.replicate 32 0).take 32 }

/-- The rest of an attempt that succeeds. -/
def renewalOf (edge : String) (leaf : UInt8) : List Renewal :=
  [.order edge, .check edge .answered 0, .store edge (renewedCall leaf) 0,
    .release edge .answered]

/-- Two Edges renew the certificate one after the other, and the first one
orders again. -/
theorem order_needed_again :
    let events := attemptOf "edge-1" ++ renewalOf "edge-1" 1 ++
      .tick 60 :: attemptOf "edge-2" ++ renewalOf "edge-2" 2 ++
      attemptOf "edge-1"
    let fleet := Fleet.run digestCrypto aThird "shop.example.com" 10 events
    storedCerts events = [[1], [2]] ∧
      fleet.ordering "edge-1" = true ∧
      Renewable digestCrypto aThird "shop.example.com"
        fleet.cluster.directory fleet.time := by
  intro events fleet
  have distinct : digestCrypto.TellsApart (storedCerts events) := by
    unfold Crypto.TellsApart
    decide +kernel
  exact ⟨by decide +kernel, by decide +kernel,
    order_needed digestCrypto aThird "shop.example.com" 10 events "edge-1"
      distinct (by decide +kernel) (by decide +kernel) (by decide +kernel)⟩

/-- The lease of an Edge expires before it starts its order, and another Edge
orders and stores: the first one orders a certificate that is not due for
another 57 seconds. -/
theorem order_after_lost_lease :
    let events := attemptOf "edge-1" ++
      .elsewhere (.expire (leaseKey (leaseResource "shop.example.com"))) ::
      attemptOf "edge-2" ++
      [.order "edge-2", .check "edge-2" .answered 0,
        .store "edge-2" (renewedCall 1) 0]
    let fleet := Fleet.run digestCrypto aThird "shop.example.com" 10 events
    Run.Along (Fleet.step digestCrypto aThird "shop.example.com")
        (fun fleet event =>
          leaseKept "shop.example.com" fleet event = true ∧
            event.reads = true) (.start "shop.example.com" 10) events ∧
      fleet.ordering "edge-1" = true ∧
      fleet.time = 10 ∧
      (activeEntry digestCrypto "shop.example.com" fleet.cluster.directory
        fleet.time).map (renewalDueAt aThird) = some 67 := by
  decide +kernel

end SieveTube.Acme
