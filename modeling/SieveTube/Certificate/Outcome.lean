import SieveTube.Certificate.Store

/-!
# Where a store call can end

Wherever a store call is cut off, it has left the generations alone, or put
the new one beside them, or switched the pointer to it and removed some of
those that are older than the two newest older ones.
-/

namespace SieveTube.Certificate

namespace Directory

section

variable (directory : Directory)
include directory

@[simp]
theorem current_setDir (place : Place) (content : GenerationDir) :
    (directory.setDir place content).current = directory.current := by
  cases place <;> rfl

@[simp]
theorem current_dropDir (place : Place) :
    (directory.dropDir place).current = directory.current := by
  cases place <;> rfl

@[simp]
theorem generations_dropDir_temporary (uuid : Nat) :
    (directory.dropDir (.temporary uuid)).generations = directory.generations :=
  rfl

@[simp]
theorem temporaries_setDir_temporary (uuid : Nat) (content : GenerationDir) :
    (directory.setDir (.temporary uuid) content).temporaries =
      directory.temporaries.insert uuid content :=
  rfl

@[simp]
theorem lookup_setDir_generation (number target : Nat)
    (content : GenerationDir) :
    (directory.setDir (.generation number) content).generations.lookup target =
      if target = number then some content
      else directory.generations.lookup target :=
  AList.lookup_insert_eq ..

@[simp]
theorem lookup_dropDir_generation (number target : Nat) :
    (directory.dropDir (.generation number)).generations.lookup target =
      if target = number then none
      else directory.generations.lookup target :=
  AList.lookup_erase_eq ..

end

theorem mem_newestFirst {directory : Directory} {number : Nat} :
    number ∈ directory.newestFirst ↔
      (directory.generations.lookup number).isSome := by
  unfold newestFirst
  rw [List.mem_insertionSort, AList.lookup_isSome]
  rfl

theorem pairwise_newestFirst (directory : Directory) :
    directory.newestFirst.Pairwise (· > ·) := by
  have sorted : directory.newestFirst.Pairwise (· ≥ ·) :=
    List.pairwise_insertionSort ..
  have distinct : directory.newestFirst.Nodup :=
    (List.perm_insertionSort ..).nodup_iff.mpr directory.generations.keys_nodup
  refine (sorted.and distinct).imp fun both => ?_
  exact Nat.lt_of_le_of_ne both.1 both.2.symm

/-- The generations older than a given one, newest first. -/
def older (directory : Directory) (generation : Nat) : List Nat :=
  directory.newestFirst.filter (· < generation)

theorem older_congr {first second : Directory} {generation : Nat}
    (same : ∀ number < generation, (first.generations.lookup number).isSome =
        (second.generations.lookup number).isSome) :
    first.older generation = second.older generation := by
  have sorted : ∀ directory : Directory,
      (directory.older generation).Pairwise (· > ·) := fun directory =>
    directory.pairwise_newestFirst.filter _
  have members : ∀ number, number ∈ first.older generation ↔
      number ∈ second.older generation := by
    intro number
    simp only [older, List.mem_filter, mem_newestFirst,
      decide_eq_true_eq, and_congr_left_iff]
    intro below
    rw [same number below]
  have permuted := (List.perm_ext_iff_of_nodup
    ((sorted first).imp fun greater => Nat.ne_of_gt greater)
    ((sorted second).imp fun greater => Nat.ne_of_gt greater)).mpr members
  exact permuted.eq_of_pairwise
    (fun _ _ _ _ greater smaller => absurd greater (Nat.lt_asymm smaller))
    (sorted first) (sorted second)

end Directory

/-- Some files of a directory, or the directory itself, are gone. -/
def Shrunk : Option GenerationDir → Option GenerationDir → Prop
  | _, none => True
  | some before, some after =>
    ∀ name, after.file name = none ∨ after.file name = before.file name
  | none, some _ => False

theorem Shrunk.refl (dir : Option GenerationDir) : Shrunk dir dir := by
  cases dir with
  | none => trivial
  | some dir => exact fun name => .inr rfl

theorem Shrunk.trans {first second third : Option GenerationDir}
    (one : Shrunk first second) (two : Shrunk second third) :
    Shrunk first third := by
  cases third with
  | none => trivial
  | some after =>
    cases second with
    | none => exact two.elim
    | some middle =>
      cases first with
      | none => exact one.elim
      | some before =>
        intro name
        rcases two name with gone | same
        · exact .inl gone
        · rw [same]
          exact one name

@[simp]
theorem GenerationDir.file_setFile (dir : GenerationDir)
    (changed name : FileName) (content : Option (List UInt8)) :
    (dir.setFile changed content).file name =
      if name = changed then content else dir.file name := by
  cases changed <;> cases name <;> rfl

theorem Shrunk.unlink {before : Option GenerationDir} {dir : GenerationDir}
    (shrunk : Shrunk before (some dir)) (name : FileName) :
    Shrunk before (some (dir.setFile name none)) := by
  cases before with
  | none => exact shrunk
  | some earlier =>
    intro other
    rw [GenerationDir.file_setFile]
    split
    · exact .inl rfl
    · exact shrunk other

section Reached

variable {Entry : Type}
variable (parseAndValidate :
  List UInt8 → List UInt8 → Int → Except String Entry)
variable (request : Request) (start : Directory)

/-- The generation directories with the new one among them. -/
def Request.placed (number : Nat) : Option GenerationDir :=
  if number = request.generation then some request.dir
  else start.generations.lookup number

structure Untouched (directory : Directory) : Prop where
  current : directory.current = start.current
  generations : directory.generations = start.generations

structure Renamed (directory : Directory) : Prop where
  current : directory.current = start.current
  generations : ∀ number,
    directory.generations.lookup number = request.placed start number

structure Switched (directory : Directory) : Prop where
  current : directory.current = some request.generation
  kept : ∀ number,
    number ∉ (start.older request.generation).drop (keptGenerations - 1) →
    directory.generations.lookup number = request.placed start number
  shrunk : ∀ number,
    Shrunk (request.placed start number) (directory.generations.lookup number)

/-- What a store call has checked before it changes a generation. -/
structure Admissible : Prop where
  valid : ∃ entry,
    parseAndValidate request.cert request.key request.now = .ok entry
  newer : ∀ active, start.current = some active → active < request.generation
  free : start.renamable request.generation = true

/-- Where a store call can end. -/
inductive Reached (directory : Directory) : Prop where
  | untouched (stage : Untouched start directory)
  | renamed (admissible : Admissible parseAndValidate request start)
      (stage : Renamed request start directory)
  | switched (admissible : Admissible parseAndValidate request start)
      (stage : Switched request start directory)

/-- Why a store call refuses its generation. -/
def Explained : StoreError → Prop
  | .stale active => start.current = some active ∧ request.generation ≤ active
  | .alreadyExists =>
    (start.generations.lookup request.generation).isSome = true
  | .invalid _ | .io => True

/-- What a store call answers, and where it has ended then. -/
def Stored : Except StoreError (Nat × Entry) → Directory → Prop
  | .ok (generation, entry), directory =>
    Switched request start directory ∧ generation = request.generation ∧
      parseAndValidate request.cert request.key request.now = .ok entry
  | .error error, _ => Explained request start error

def view : View Op Answer Fate Directory where
  perform := perform
  Allowed := fun _ => True
  Invariant := Reached parseAndValidate request start
  Rely := Eq
  Guarantee := fun _ _ => True
  rely_refl := fun _ => rfl
  rely_trans := Eq.trans

/-- An assertion that removing a directory keeps. -/
structure Removes (place : Place) (Stage : Directory → Prop) : Prop where
  reached : ∀ directory, Stage directory →
    Reached parseAndValidate request start directory
  unlink : ∀ directory dir name, Stage directory →
    directory.dir place = some dir →
    Stage (directory.setDir place (dir.setFile name none))
  remove : ∀ directory, Stage directory → Stage (directory.dropDir place)

variable {parseAndValidate request start}

variable {directory : Directory}

theorem call_sat {op : Op} {After : Answer op → Directory → Prop}
    (each : ∀ fate,
      Reached parseAndValidate request start (perform op fate directory).2 ∧
        After (perform op fate directory).1 (perform op fate directory).2) :
    Program.Sat (view parseAndValidate request start) After (call op)
      directory := by
  rintro later rfl _ fate _
  refine ⟨(each fate).1, trivial, ?_⟩
  rintro final rfl _
  exact (each fate).2

theorem done_sat {Value : Type} {After : Value → Directory → Prop}
    {value : Value} (after : After value directory) :
    Program.Sat (view parseAndValidate request start) After
      (.done value) directory := by
  rintro later rfl _
  exact after

theorem attempt_sat {action : Action} {After : Bool → Directory → Prop}
    (each : ∀ fate,
      Reached parseAndValidate request start (act action fate directory).2 ∧
        After (act action fate directory).1 (act action fate directory).2) :
    Program.Sat (view parseAndValidate request start) After (attempt action)
      directory := by
  exact call_sat each

variable {Stage : Directory → Prop}

section

variable {place : Place}
  (removes : Removes parseAndValidate request start place Stage)
include removes

theorem removeFiles_sat (names : List FileName) (stage : Stage directory) :
    Program.Sat (view parseAndValidate request start)
      (fun _ later => Stage later) (removeFiles place names)
      directory := by
  induction names generalizing directory with
  | nil =>
    refine attempt_sat fun fate => ?_
    have kept : Stage (act (.removeDir place) fate directory).2 := by
      simp only [act]
      split
      · exact removes.remove directory stage
      · exact stage
    exact ⟨removes.reached _ kept, kept⟩
  | cons name names ih =>
    refine Program.sat_bind (attempt_sat fun fate => ?_)
    have kept : Stage (act (.unlink place name) fate directory).2 := by
      simp only [act]
      cases found : directory.dir place with
      | none => exact stage
      | some dir =>
        simp only
        split
        · exact removes.unlink directory dir name stage found
        · exact stage
    refine ⟨removes.reached _ kept, ?_⟩
    split
    · exact ih kept
    · exact done_sat kept

theorem removeDirAll_sat (stage : Stage directory) :
    Program.Sat (view parseAndValidate request start)
      (fun _ later => Stage later) (removeDirAll place) directory := by
  refine Program.sat_bind (call_sat fun fate => ?_)
  refine ⟨removes.reached _ stage, ?_⟩
  split
  · exact done_sat stage
  · next names _ => exact removeFiles_sat removes names stage

end

theorem removes_temporary {uuid : Nat} :
    Removes parseAndValidate request start (.temporary uuid)
      (Untouched start) where
  reached := fun _ stage => .untouched stage
  unlink := fun _ _ _ stage _ => ⟨stage.current, stage.generations⟩
  remove := fun _ stage => ⟨stage.current, stage.generations⟩

theorem removes_generation
    (admissible : Admissible parseAndValidate request start) {number : Nat}
    (member : number ∈
      (start.older request.generation).drop (keptGenerations - 1)) :
    Removes parseAndValidate request start (.generation number)
      (Switched request start) where
  reached := fun _ stage => .switched admissible stage
  unlink := by
    intro directory dir name stage found
    refine ⟨by simpa using stage.current, ?_, ?_⟩
    · intro other outside
      have different : other ≠ number := by
        rintro rfl
        exact outside member
      rw [Directory.lookup_setDir_generation, if_neg different]
      exact stage.kept other outside
    · intro other
      rw [Directory.lookup_setDir_generation]
      split
      · next same =>
        subst other
        have before := stage.shrunk number
        rw [show directory.generations.lookup number =
          some dir from found] at before
        exact before.unlink name
      · exact stage.shrunk other
  remove := by
    intro directory stage
    refine ⟨by simpa using stage.current, ?_, ?_⟩
    · intro other outside
      have different : other ≠ number := by
        rintro rfl
        exact outside member
      rw [Directory.lookup_dropDir_generation, if_neg different]
      exact stage.kept other outside
    · intro other
      rw [Directory.lookup_dropDir_generation]
      split
      · cases request.placed start other <;> trivial
      · exact stage.shrunk other

theorem removeGenerations_sat
    (admissible : Admissible parseAndValidate request start)
    (numbers : List Nat)
    (members : ∀ number ∈ numbers, number ∈
      (start.older request.generation).drop (keptGenerations - 1))
    (stage : Switched request start directory) :
    Program.Sat (view parseAndValidate request start)
      (fun _ later => Switched request start later)
      (removeGenerations numbers) directory := by
  induction numbers generalizing directory with
  | nil => exact done_sat stage
  | cons number numbers ih =>
    simp only [List.forall_mem_cons] at members
    refine Program.sat_bind (Program.Sat.mono ?_ (removeDirAll_sat
      (removes_generation admissible members.1) stage))
    intro _ later _ kept
    exact ih members.2 kept

/-- Nothing was removed yet when the generations are listed for pruning. -/
theorem older_eq_of_placed
    (placed : ∀ number,
      directory.generations.lookup number = request.placed start number) :
    directory.older request.generation = start.older request.generation := by
  apply Directory.older_congr
  intro number below
  rw [placed, Request.placed, if_neg (Nat.ne_of_lt below)]

theorem prune_sat (admissible : Admissible parseAndValidate request start)
    (stage : Switched request start directory)
    (placed : ∀ number,
      directory.generations.lookup number = request.placed start number) :
    Program.Sat (view parseAndValidate request start)
      (fun _ later => Switched request start later)
      (prune request.generation) directory := by
  refine Program.sat_bind (call_sat fun fate => ?_)
  refine ⟨.switched admissible stage, ?_⟩
  simp only [perform]
  cases fate.succeeds with
  | false => exact done_sat stage
  | true =>
    refine removeGenerations_sat admissible _ ?_ stage
    intro number member
    rw [← older_eq_of_placed placed]
    exact member

/-- A step that goes on in the given stage or fails for a reason. -/
def Passed {Value : Type} (request : Request) (start : Directory)
    (Stage : Directory → Prop) : Except StoreError Value → Directory → Prop
  | .ok _, directory => Stage directory
  | .error error, _ => Explained request start error

theorem sat_then {Value Other : Type} {first : StoreM Value}
    {next : Value → StoreM Other}
    {Final : Except StoreError Other → Directory → Prop}
    (judged : Program.Sat (view parseAndValidate request start)
      (Passed request start Stage) first directory)
    (rest : ∀ value later, Stage later →
      Program.Sat (view parseAndValidate request start) Final
        (next value) later)
    (errors : ∀ error later, Explained request start error →
      Final (.error error) later) :
    Program.Sat (view parseAndValidate request start) Final
      (first >>= next : StoreM Other) directory := by
  refine Program.sat_bind_except (Program.Sat.mono ?_ judged)
  intro result later _ passed
  cases result with
  | ok value => exact rest value later passed
  | error error => exact done_sat (errors error later passed)

theorem must_sat {action : Action}
    (each : ∀ fate,
      Reached parseAndValidate request start (act action fate directory).2 ∧
        ((act action fate directory).1 = true →
          Stage (act action fate directory).2)) :
    Program.Sat (view parseAndValidate request start)
      (Passed request start Stage) (must action) directory := by
  refine Program.sat_bind_lift (attempt_sat fun fate => ?_)
  refine ⟨(each fate).1, ?_⟩
  split
  · next succeeded => exact done_sat ((each fate).2 succeeded)
  · exact done_sat trivial

theorem writeFile_succeeded {uuid : Nat} {name : FileName} {data : List UInt8}
    {fate : Fate}
    (succeeded : (act (.writeFile uuid name data) fate directory).1 = true) :
    ∃ dir, directory.temporaries.lookup uuid = some dir ∧
      (act (.writeFile uuid name data) fate directory).2.temporaries.lookup
        uuid = some (dir.setFile name (some data)) := by
  simp only [act] at succeeded ⊢
  cases found : directory.temporaries.lookup uuid with
  | none => simp [found] at succeeded
  | some dir =>
    rw [found] at succeeded
    refine ⟨dir, rfl, ?_⟩
    simp only at succeeded ⊢
    split at succeeded
    · cases succeeded
    · next absent =>
      split at succeeded
      · next wrote => simp [absent, wrote]
      · cases succeeded

section

variable (untouched : Untouched start directory)
include untouched

theorem checkCurrent_sat :
    Program.Sat (view parseAndValidate request start)
      (Passed request start fun later => Untouched start later ∧
        ∀ active, start.current = some active → active < request.generation)
      (checkCurrent request.generation) directory := by
  refine Program.sat_bind_lift (call_sat fun fate => ?_)
  refine ⟨.untouched untouched, ?_⟩
  simp only [perform, untouched.current]
  cases fate.succeeds with
  | false => exact done_sat trivial
  | true =>
    cases current : start.current with
    | none =>
      refine done_sat ⟨untouched, ?_⟩
      intro active found
      cases found
    | some active =>
      simp only [if_true]
      split
      · next stale => exact done_sat ⟨current, stale⟩
      · next newer =>
        refine done_sat ⟨untouched, ?_⟩
        intro other found
        cases found
        exact Nat.lt_of_not_le newer

theorem checkAbsent_sat :
    Program.Sat (view parseAndValidate request start)
      (Passed request start (Untouched start))
      (checkAbsent request.generation) directory := by
  refine Program.sat_bind_lift (call_sat fun fate => ?_)
  refine ⟨.untouched untouched, ?_⟩
  simp only [perform, untouched.generations]
  split
  · next present =>
    exact done_sat (Bool.and_eq_true_iff.mp present).2
  · exact done_sat untouched

theorem createDir_untouched {uuid : Nat} {fate : Fate} :
    Untouched start (act (.createDir uuid) fate directory).2 := by
  simp only [act]
  split
  · split
    · exact untouched
    · exact ⟨untouched.current, untouched.generations⟩
  · exact untouched

theorem writeFile_untouched (uuid : Nat) (name : FileName) (data : List UInt8)
    (fate : Fate) :
    Untouched start (act (.writeFile uuid name data) fate directory).2 := by
  simp only [act]
  split
  · exact untouched
  · split
    · exact untouched
    · split
      · exact ⟨untouched.current, untouched.generations⟩
      · exact ⟨untouched.current, untouched.generations⟩

theorem renameDir_cases (fate : Fate)
    (written : directory.temporaries.lookup request.uuid = some request.dir) :
    act (.renameDir request.uuid request.generation) fate directory =
      (false, directory) ∨
      (act (.renameDir request.uuid request.generation) fate directory).1 =
        true ∧ start.renamable request.generation = true ∧
        Renamed request start (act (.renameDir request.uuid
          request.generation) fate directory).2 := by
  have free : directory.renamable request.generation =
      start.renamable request.generation := by
    unfold Directory.renamable
    rw [untouched.generations]
  simp only [act, written, free]
  split
  · next renames =>
    refine .inr ⟨rfl, (Bool.and_eq_true_iff.mp renames).2, ?_, ?_⟩
    · simpa using untouched.current
    · intro number
      simp [Request.placed, untouched.generations]
  · exact .inl rfl

end

section

variable (valid : ∃ entry,
  parseAndValidate request.cert request.key request.now = .ok entry)
include valid

variable (newer : ∀ active, start.current = some active →
  active < request.generation)
include newer

theorem write_sat (untouched : Untouched start directory) :
    Program.Sat (view parseAndValidate request start)
      (fun written later =>
        if written then Admissible parseAndValidate request start ∧
          Renamed request start later
        else Untouched start later)
      request.write directory := by
  refine Program.sat_bind (attempt_sat fun fate => ?_)
  have first := writeFile_untouched untouched request.uuid .cert request.cert
    fate
  refine ⟨.untouched first, ?_⟩
  split
  · next succeeded =>
    obtain ⟨dir, -, certWritten⟩ := writeFile_succeeded succeeded
    refine Program.sat_bind (attempt_sat fun fate => ?_)
    have second := writeFile_untouched first request.uuid .key request.key fate
    refine ⟨.untouched second, ?_⟩
    split
    · next succeededToo =>
      obtain ⟨before, found, written⟩ := writeFile_succeeded succeededToo
      cases certWritten.symm.trans found
      refine attempt_sat fun fate => ?_
      rcases renameDir_cases second fate written with
        unchanged | ⟨renames, free, renamed⟩
      · rw [unchanged]
        exact ⟨.untouched second, by simpa using second⟩
      · have admissible : Admissible parseAndValidate request start :=
          ⟨valid, newer, free⟩
        exact ⟨.renamed admissible
          renamed, by simpa [renames] using ⟨admissible, renamed⟩⟩
    · exact done_sat (by simpa using second)
  · exact done_sat (by simpa using first)

theorem persist_sat (untouched : Untouched start directory) :
    Program.Sat (view parseAndValidate request start)
      (Passed request start fun later =>
        Admissible parseAndValidate request start ∧ Renamed request start later)
      request.persist directory := by
  refine Program.sat_bind_lift
    (Program.Sat.mono ?_ (write_sat valid newer untouched))
  intro written later _ kept
  cases written with
  | true => exact done_sat kept
  | false =>
    refine Program.sat_bind_lift (Program.Sat.mono ?_ (removeDirAll_sat
      removes_temporary kept))
    intro _ final _ _
    exact done_sat trivial

end

/-- The pointer was switched and nothing is removed yet. -/
structure Activated (request : Request)
    (start directory : Directory) : Prop where
  current : directory.current = some request.generation
  generations : ∀ number,
    directory.generations.lookup number = request.placed start number

theorem Activated.switched (activated : Activated request start directory) :
    Switched request start directory where
  current := activated.current
  kept := fun number _ => activated.generations number
  shrunk := by
    intro number
    rw [activated.generations]
    exact Shrunk.refl _

theorem writePointer_cases {uuid generation : Nat} {fate : Fate}
    (renamed : Renamed request start directory) :
    Renamed request start (act
      (.writePointer uuid generation) fate directory).2 ∧
      ((act (.writePointer uuid generation) fate directory).1 = true →
        (act (.writePointer uuid generation) fate
          directory).2.pointers.lookup uuid = some (some generation)) := by
  simp only [act]
  split
  · exact ⟨renamed, by simp⟩
  · split
    · exact ⟨⟨renamed.current, renamed.generations⟩, by simp⟩
    · exact ⟨⟨renamed.current, renamed.generations⟩, by simp⟩

theorem renamePointer_cases {uuid : Nat} {fate : Fate}
    (renamed : Renamed request start directory)
    (written : directory.pointers.lookup uuid =
      some (some request.generation)) :
    act (.renamePointer uuid) fate directory = (false, directory) ∨
      (act (.renamePointer uuid) fate directory).1 = true ∧
        Activated request start
          (act (.renamePointer uuid) fate directory).2 := by
  simp only [act, written]
  split
  · exact .inr ⟨rfl, rfl, renamed.generations⟩
  · exact .inl rfl

theorem replacePointer_sat
    (admissible : Admissible parseAndValidate request start)
    (renamed : Renamed request start directory) :
    Program.Sat (view parseAndValidate request start)
      (fun replaced later =>
        if replaced then Activated request start later
        else Renamed request start later)
      (replacePointer request.pointerUuid request.generation)
      directory := by
  refine Program.sat_bind (attempt_sat fun fate => ?_)
  obtain ⟨kept, written⟩ := writePointer_cases renamed
  refine ⟨.renamed admissible kept, ?_⟩
  split
  · next succeeded =>
    refine attempt_sat fun fate => ?_
    rcases renamePointer_cases kept
        (written succeeded) with unchanged | ⟨replaced, activated⟩
    · rw [unchanged]
      exact ⟨.renamed admissible kept, by simpa using kept⟩
    · exact ⟨.switched admissible
        activated.switched, by simpa [replaced] using activated⟩
  · exact done_sat (by simpa using kept)

theorem activate_sat (admissible : Admissible parseAndValidate request start)
    (renamed : Renamed request start directory) :
    Program.Sat (view parseAndValidate request start)
      (Passed request start (Activated request start)) request.activate
      directory := by
  have atomic : Program.Sat (view parseAndValidate request start)
      (fun replaced later => replaced = true → Activated request start later)
      (writeAtomic request.pointerUuid request.generation) directory := by
    refine Program.sat_bind (Program.Sat.mono ?_
      (replacePointer_sat admissible renamed))
    intro replaced later _ kept
    cases replaced with
    | true => exact done_sat fun _ => kept
    | false =>
      refine Program.sat_bind (attempt_sat fun fate => ?_)
      refine ⟨.renamed admissible ?_, done_sat (by simp)⟩
      simp only [act]
      split
      · exact ⟨kept.current, kept.generations⟩
      · exact kept
  refine Program.sat_bind_lift (Program.Sat.mono ?_ atomic)
  intro replaced later _ kept
  cases replaced with
  | true => exact done_sat (kept rfl)
  | false => exact done_sat trivial

theorem store_sat (untouched : Untouched start directory) :
    Program.Sat (view parseAndValidate request start)
      (Stored parseAndValidate request start)
      (store parseAndValidate request) directory := by
  have errors : ∀ error later, Explained request start error →
      Stored parseAndValidate request start (.error error) later :=
    fun _ _ explained => explained
  have passes : ∀ action later,
      (∀ fate, Untouched start (act action fate later).2) →
      Program.Sat (view parseAndValidate request start)
        (Passed request start (Untouched start)) (must action) later :=
    fun action later kept => must_sat fun fate =>
      ⟨.untouched (kept fate), fun _ => kept fate⟩
  unfold store Request.validate
  cases validated : parseAndValidate request.cert request.key request.now with
  | error message => exact done_sat trivial
  | ok entry =>
    rw [pure_bind]
    refine sat_then (passes .createNameDir directory fun _ => untouched) ?_
      errors
    intro _ second untouched
    refine sat_then (passes .lock second fun _ => untouched) ?_ errors
    intro _ third untouched
    refine sat_then (checkCurrent_sat untouched) ?_ errors
    rintro _ fourth ⟨untouched, newer⟩
    refine sat_then (checkAbsent_sat untouched) ?_ errors
    intro _ fifth untouched
    refine sat_then (passes (.createDir request.uuid) fifth fun fate =>
      createDir_untouched untouched) ?_ errors
    intro _ sixth untouched
    refine sat_then (persist_sat ⟨entry, validated⟩ newer untouched) ?_ errors
    rintro _ seventh ⟨admissible, renamed⟩
    refine sat_then (activate_sat admissible renamed) ?_ errors
    intro _ eighth activated
    refine Program.sat_bind_lift (attempt_sat fun fate => ?_)
    refine ⟨.switched admissible activated.switched, ?_⟩
    refine Program.sat_bind_lift (Program.Sat.mono ?_
      (prune_sat admissible activated.switched activated.generations))
    intro _ last _ switched
    exact done_sat ⟨switched, rfl, validated⟩

theorem Untouched.refl {start : Directory} : Untouched start start := ⟨rfl, rfl⟩

/-- Wherever a store call is cut off, it is where a call can end. -/
theorem reached_apply {call : StoreCall} {start : Directory} :
    Reached parseAndValidate call.request start
      (call.apply parseAndValidate start) := by
  have judged : Program.Sat (view parseAndValidate call.request start) _
      (store parseAndValidate call.request) start :=
    store_sat Untouched.refl
  have here : Reached parseAndValidate call.request start start :=
    .untouched Untouched.refl
  unfold StoreCall.apply
  split
  · exact (judged.run (fun _ => trivial) here).1
  · next operations _ =>
    exact judged.cutOff (fun _ => trivial) here operations

theorem stored_result {call : StoreCall} {start : Directory} :
    Stored parseAndValidate call.request start
      (call.result parseAndValidate start)
      (Program.run perform (store parseAndValidate call.request) call.fates
        start).2 :=
  ((store_sat Untouched.refl).run (fun _ => trivial)
    (Reached.untouched Untouched.refl)).2

end Reached

end SieveTube.Certificate
