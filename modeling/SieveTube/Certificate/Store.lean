import Mathlib.Algebra.Group.Nat.Defs
import Mathlib.Data.List.Sort
import SieveTube.Library.KeyedMap
import SieveTube.Library.Program

/-!
# The certificate store

The directory of one managed name: generation directories with a certificate
and its key, the pointer to the active generation, and temporary files.  A
store call is a program of file-system operations; a fate says whether an
operation succeeds and what a failed write leaves behind.
-/

namespace SieveTube.Certificate

/-- `fullchain.pem` and `privkey.pem`. -/
inductive FileName where
  | cert
  | key
deriving DecidableEq

structure GenerationDir where
  cert : Option (List UInt8)
  key : Option (List UInt8)
deriving DecidableEq

namespace GenerationDir

def empty : GenerationDir := { cert := none, key := none }

def file (dir : GenerationDir) : FileName → Option (List UInt8)
  | .cert => dir.cert
  | .key => dir.key

def setFile (dir : GenerationDir) (name : FileName)
    (content : Option (List UInt8)) : GenerationDir :=
  match name with
  | .cert => { dir with cert := content }
  | .key => { dir with key := content }

def files (dir : GenerationDir) : List FileName :=
  [.cert, .key].filter fun name => (dir.file name).isSome

end GenerationDir

/-- A directory with the files of a generation: under its final name, or under
a temporary one. -/
inductive Place where
  | temporary (uuid : Nat)
  | generation (number : Nat)

/-- The pointers under temporary names hold nothing if they are torn. -/
structure Directory where
  current : Option Nat
  generations : AList fun _ : Nat => GenerationDir
  temporaries : AList fun _ : Nat => GenerationDir
  pointers : AList fun _ : Nat => Option Nat

namespace Directory

def empty : Directory :=
  { current := none, generations := ∅, temporaries := ∅, pointers := ∅ }

def dir (directory : Directory) : Place → Option GenerationDir
  | .temporary uuid => directory.temporaries.lookup uuid
  | .generation number => directory.generations.lookup number

def setDir (directory : Directory) (place : Place) (content : GenerationDir) :
    Directory :=
  match place with
  | .temporary uuid =>
    { directory with
      temporaries := directory.temporaries.insert uuid content }
  | .generation number =>
    { directory with
      generations := directory.generations.insert number content }

def dropDir (directory : Directory) : Place → Directory
  | .temporary uuid =>
    { directory with temporaries := directory.temporaries.erase uuid }
  | .generation number =>
    { directory with generations := directory.generations.erase number }

/-- All generations on disk, newest first. -/
def newestFirst (directory : Directory) : List Nat :=
  directory.generations.keys.insertionSort (· ≥ ·)

/-- The newest generation on disk or the active one, whichever is newer. -/
def highest (directory : Directory) : Nat :=
  max (directory.newestFirst.head?.getD 0) (directory.current.getD 0)

/-- A `u64`, which wraps around in a release build. -/
def nextGeneration (directory : Directory) : Nat :=
  (directory.highest + 1) % 2 ^ 64

end Directory

inductive Action where
  | createNameDir
  | lock
  | createDir (uuid : Nat)
  | writeFile (uuid : Nat) (name : FileName) (data : List UInt8)
  | renameDir (uuid generation : Nat)
  | writePointer (uuid generation : Nat)
  | renamePointer (uuid : Nat)
  | removePointer (uuid : Nat)
  | unlink (place : Place) (name : FileName)
  | removeDir (place : Place)
  | syncDir

/-- What happens to an operation.  A failed write leaves no file or as many
bytes as were written, and the files of a directory are listed in either
order. -/
structure Fate where
  succeeds : Bool
  written : Option Nat
  reversed : Bool

/-- A rename replaces an empty directory, and only that. -/
def Directory.renamable (directory : Directory) (generation : Nat) : Bool :=
  match directory.generations.lookup generation with
  | none => true
  | some dir => dir = .empty

def act (action : Action) (fate : Fate)
    (directory : Directory) : Bool × Directory :=
  match action with
  | .createNameDir | .lock | .syncDir => (fate.succeeds, directory)
  | .createDir uuid =>
    if fate.succeeds then
      match directory.temporaries.lookup uuid with
      | some _ => (true, directory)
      | none => (true, directory.setDir (.temporary uuid) .empty)
    else (false, directory)
  | .writeFile uuid name data =>
    match directory.temporaries.lookup uuid with
    | none => (false, directory)
    | some dir =>
      if (dir.file name).isSome then (false, directory)
      else if fate.succeeds then
        (true, directory.setDir (.temporary uuid)
          (dir.setFile name (some data)))
      else
        (false, directory.setDir (.temporary uuid)
          (dir.setFile name (fate.written.map data.take)))
  | .renameDir uuid generation =>
    match directory.temporaries.lookup uuid with
    | none => (false, directory)
    | some dir =>
      if fate.succeeds && directory.renamable generation then
        (true, (directory.setDir (.generation generation) dir).dropDir
          (.temporary uuid))
      else (false, directory)
  | .writePointer uuid generation =>
    match directory.pointers.lookup uuid with
    | some _ => (false, directory)
    | none =>
      if fate.succeeds then
        (true, { directory with
          pointers := directory.pointers.insert uuid (some generation) })
      else
        (false, { directory with
          pointers := directory.pointers.insert uuid none })
  | .renamePointer uuid =>
    match directory.pointers.lookup uuid with
    | some (some generation) =>
      if fate.succeeds then
        (true, { directory with
          current := some generation
          pointers := directory.pointers.erase uuid })
      else (false, directory)
    | _ => (false, directory)
  | .removePointer uuid =>
    if fate.succeeds then
      (true, { directory with
        pointers := directory.pointers.erase uuid })
    else (false, directory)
  | .unlink place name =>
    match directory.dir place with
    | none => (false, directory)
    | some dir =>
      if fate.succeeds then
        (true, directory.setDir place (dir.setFile name none))
      else (false, directory)
  | .removeDir place =>
    if fate.succeeds && directory.dir place = some .empty then
      (true, directory.dropDir place)
    else (false, directory)

inductive Op where
  | act (action : Action)
  | readCurrent
  | finalDirExists (generation : Nat)
  | listGenerations
  | listFiles (place : Place)

@[reducible]
def Answer : Op → Type
  | .act _ => Bool
  | .readCurrent => Option (Option Nat)
  | .finalDirExists _ => Bool
  | .listGenerations => Option (List Nat)
  | .listFiles _ => Option (List FileName)

/-- A directory entry that cannot be examined counts as missing. -/
def perform : (op : Op) → Fate → Directory → Answer op × Directory
  | .act action, fate, directory => act action fate directory
  | .readCurrent, fate, directory =>
    (if fate.succeeds then some directory.current else none, directory)
  | .finalDirExists generation, fate, directory =>
    (fate.succeeds &&
      (directory.generations.lookup generation).isSome, directory)
  | .listGenerations, fate, directory =>
    (if fate.succeeds then some directory.newestFirst else none, directory)
  | .listFiles place, fate, directory =>
    (if fate.succeeds then
      (directory.dir place).map fun dir =>
        if fate.reversed then dir.files.reverse else dir.files
    else none, directory)

inductive StoreError where
  | invalid (message : String)
  | io
  | stale (active : Nat)
  | alreadyExists
deriving DecidableEq

/-- The messages of the two refusals; the others carry a cause. -/
def StoreError.message (name : String) (generation : Nat) :
    StoreError → Option String
  | .stale active =>
    some ("refusing to store generation " ++ generation.repr ++ " for " ++
      name ++ ": active generation is " ++ active.repr)
  | .alreadyExists =>
    some ("generation " ++ generation.repr ++ " for " ++ name ++
      " already exists")
  | .invalid message => some message
  | .io => none

/-- A store refuses a generation as stale or as already existing. -/
def StoreError.refusal : StoreError → Bool
  | .stale _ | .alreadyExists => true
  | .invalid _ | .io => false

/-- `KEPT_GENERATIONS`. -/
def keptGenerations : Nat := 3

/-- The generations pruned when `active` is switched to. -/
def pruned (active : Nat) (generations : List Nat) : List Nat :=
  (generations.filter (· < active)).drop (keptGenerations - 1)

abbrev FileM := Program Op Answer

abbrev StoreM := ExceptT StoreError FileM

def call (op : Op) : FileM (Answer op) := .ask op

def attempt (action : Action) : FileM Bool := .ask (Op.act action)

def removeFiles (place : Place) : List FileName → FileM Bool
  | [] => attempt (.removeDir place)
  | name :: names => do
      if ← attempt (.unlink place name) then removeFiles place names
      else return false

/-- `fs::remove_dir_all`, which stops at the first error. -/
def removeDirAll (place : Place) : FileM Bool := do
  match ← call (.listFiles place) with
  | none => return false
  | some names => removeFiles place names

def removeGenerations : List Nat → FileM Unit
  | [] => return
  | generation :: generations => do
      let _ ← removeDirAll (.generation generation)
      removeGenerations generations

def prune (active : Nat) : FileM Unit := do
  match ← call .listGenerations with
  | none => return
  | some generations => removeGenerations (pruned active generations)

def replacePointer (uuid generation : Nat) : FileM Bool := do
  if ← attempt (.writePointer uuid generation) then
    attempt (.renamePointer uuid)
  else return false

/-- `write_atomic` for the pointer. -/
def writeAtomic (uuid generation : Nat) : FileM Bool := do
  if ← replacePointer uuid generation then return true
  else
    let _ ← attempt (.removePointer uuid)
    return false

/-- The arguments of a store call and the names it makes up. -/
structure Request where
  generation : Nat
  cert : List UInt8
  key : List UInt8
  now : Int
  uuid : Nat
  pointerUuid : Nat

/-- The files of a generation that is stored completely. -/
def Request.dir (request : Request) : GenerationDir :=
  { cert := some request.cert, key := some request.key }

/-- Write both files under a temporary name and rename them into place. -/
def Request.write (request : Request) : FileM Bool := do
  if ← attempt (.writeFile request.uuid .cert request.cert) then
    if ← attempt (.writeFile request.uuid .key request.key) then
      attempt (.renameDir request.uuid request.generation)
    else return false
  else return false

def must (action : Action) : StoreM Unit := do
  if ← attempt action then return
  else throw .io

def checkCurrent (generation : Nat) : StoreM Unit := do
  match ← call .readCurrent with
  | none => throw .io
  | some none => return
  | some (some current) =>
    if generation ≤ current then throw (.stale current) else return

def checkAbsent (generation : Nat) : StoreM Unit := do
  if ← call (.finalDirExists generation) then throw .alreadyExists
  else return

def Request.persist (request : Request) : StoreM Unit := do
  if ← request.write then return
  else
    let _ ← removeDirAll (.temporary request.uuid)
    throw .io

def Request.activate (request : Request) : StoreM Unit := do
  if ← writeAtomic request.pointerUuid request.generation then return
  else throw .io

section Store

variable {Entry : Type}
variable (parseAndValidate :
  List UInt8 → List UInt8 → Int → Except String Entry)

def Request.validate (request : Request) : StoreM Entry :=
  match parseAndValidate request.cert request.key request.now with
  | .ok entry => return entry
  | .error message => throw (.invalid message)

/-- `CertStore::store`. -/
def store (request : Request) : StoreM (Nat × Entry) := do
  let entry ← request.validate parseAndValidate
  must .createNameDir
  must .lock
  checkCurrent request.generation
  checkAbsent request.generation
  must (.createDir request.uuid)
  request.persist
  request.activate
  let _ ← attempt .syncDir
  prune request.generation
  return (request.generation, entry)

def loadGeneration (directory : Directory) (generation : Nat) (now : Int) :
    Option Entry := do
  let dir ← directory.generations.lookup generation
  let cert ← dir.cert
  let key ← dir.key
  (parseAndValidate cert key now).toOption

/-- `CertStore::load_current`. -/
def loadCurrent (directory : Directory) (now : Int) : Option (Nat × Entry) := do
  let current ← directory.current
  (directory.newestFirst.filter (· ≤ current)).findSome? fun generation =>
    (loadGeneration parseAndValidate directory generation now).map
      (generation, ·)

/-- A store call under the lock, which may be cut off after a number of
operations. -/
structure StoreCall where
  request : Request
  fates : Nat → Fate
  cutOff : Option Nat

def StoreCall.result (call : StoreCall) (directory : Directory) :
    Except StoreError (Nat × Entry) :=
  (Program.run perform (store parseAndValidate call.request) call.fates
    directory).1

def StoreCall.apply (directory : Directory) (call : StoreCall) : Directory :=
  match call.cutOff with
  | none =>
    (Program.run perform (store parseAndValidate call.request) call.fates
      directory).2
  | some operations => Program.cutOff perform
      (store parseAndValidate call.request) call.fates operations directory

/-- The directory after a sequence of store calls. -/
def Directory.after (calls : List StoreCall) : Directory :=
  Run.after (StoreCall.apply parseAndValidate) .empty calls

theorem Directory.after_concat (calls : List StoreCall) (call : StoreCall) :
    Directory.after parseAndValidate (calls ++ [call]) =
      call.apply parseAndValidate (Directory.after parseAndValidate calls) :=
  Run.after_concat ..

end Store

end SieveTube.Certificate
