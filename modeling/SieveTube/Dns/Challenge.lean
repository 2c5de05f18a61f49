import SieveTube.Dns.Txt

/-!
# Solvers that share challenge names

Any number of solvers add and remove values while operators edit the same
zones.  What the solvers need of a provider are laws of its calls under
interference; they give what holds of every schedule.
-/

namespace SieveTube.Dns

/-- A kind of provider as solvers and operators use it.  Only values that are
challenges are added or removed by solvers. -/
structure TxtHost where
  Api : Type
  ApiAnswer : Api → Type
  ApiFate : Type
  Zone : Type
  Edit : Type
  calls : ProviderCalls Api ApiAnswer
  perform : (op : Api) → ApiFate → Zone → ApiAnswer op × Zone
  edit : Edit → Zone → Zone
  has : Zone → String → String → Bool
  Challenge : String → Prop

inductive TxtTask where
  | add (domain value : String)
  | remove (handle : TxtHandle)
deriving DecidableEq

def TxtTask.value : TxtTask → String
  | .add _ value => value
  | .remove handle => handle.value

/-- One call of a solver; the number tells calls for the same value apart. -/
structure TxtCaller (host : TxtHost) where
  solver : TxtSolver
  task : TxtTask
  number : Nat
  challenge : host.Challenge task.value
deriving DecidableEq

/-- A value under a name of a provider. -/
structure TxtKey where
  provider : Nat
  name : String
  value : String
deriving DecidableEq

/-- The value a handle stands for, as the solver finds it again. -/
def TxtSolver.key (solver : TxtSolver) (handle : TxtHandle) :
    Option TxtKey :=
  (solver.zoneProvider handle.zone).map fun provider =>
    { provider, name := handle.name, value := handle.value }

/-- The value a call is made to remove. -/
def TxtCaller.removes {host : TxtHost} (caller : TxtCaller host) :
    Option TxtKey :=
  match caller.task with
  | .add _ _ => none
  | .remove handle => caller.solver.key handle

structure TxtWorld (host : TxtHost) where
  zones : Nat → host.Zone
  journals : String → List TxtHandle

def TxtWorld.has {host : TxtHost} (world : TxtWorld host) (key : TxtKey) :
    Bool :=
  host.has (world.zones key.provider) key.name key.value

/-- The choices of a call: how the provider treats it, what the resolver
answers, and whether the journal can be used.  A failed update may have been
written. -/
structure TxtFate (host : TxtHost) where
  api : host.ApiFate
  cname : Option String
  failure : Option String
  written : Bool
  polls : Nat

namespace TxtHost

variable (host : TxtHost)

def updateJournal (path : String) (update : List TxtHandle → List TxtHandle)
    (fate : TxtFate host) (world : TxtWorld host) :
    Except String Unit × TxtWorld host :=
  let updated :=
    { world with
      journals := Function.update world.journals path
        (update (world.journals path)) }
  match fate.failure with
  | none => (.ok (), updated)
  | some failure => (.error failure, if fate.written then updated else world)

def performTxt : (op : TxtOp host.Api) → TxtFate host → TxtWorld host →
    TxtAnswer host.ApiAnswer op × TxtWorld host
  | .api provider op, fate, world =>
    let answered := host.perform op fate.api (world.zones provider)
    (answered.1,
      { world with
        zones := Function.update world.zones provider answered.2 })
  | .resolveCname _, fate, world => (fate.cname, world)
  | .journalRead path, fate, world =>
    (match fate.failure with
      | none => .ok (world.journals path)
      | some failure => .error failure, world)
  | .journalAdd path handle, fate, world =>
    host.updateJournal path (fun entries =>
      if handle ∈ entries then entries else entries ++ [handle]) fate world
  | .journalRemove path handle, fate, world =>
    host.updateJournal path (fun entries => entries.filter fun entry => entry ≠
      handle) fate world
  | .polls, fate, world => (fate.polls, world)

/-- What a call runs; an added value is answered with its handle. -/
def program (caller : TxtCaller host) :
    Program (TxtOp host.Api) (TxtAnswer host.ApiAnswer)
      (Except String (Option TxtHandle)) :=
  match caller.task with
  | .add domain value => show Solving host.ApiAnswer (Option TxtHandle) from do
      return some (← caller.solver.add host.calls domain value)
  | .remove handle => show Solving host.ApiAnswer (Option TxtHandle) from do
      caller.solver.remove host.calls handle
      return none

/-- Solvers call their providers while operators edit zones. -/
def machine : Machine (TxtCaller host) Unit (Nat × host.Edit)
    (TxtOp host.Api) (TxtAnswer host.ApiAnswer) (TxtFate host)
    (Except String (Option TxtHandle)) (TxtWorld host) where
  perform := fun _ => host.performTxt
  disturb := fun (provider, edit) world =>
    { world with
      zones := Function.update world.zones provider
        (host.edit edit (world.zones provider)) }
  program := fun caller _ => host.program caller
  finish := fun _ world => world
  crash := fun _ world => world

abbrev Config :=
  Machine.Config (TxtCaller host) (TxtOp host.Api)
    (TxtAnswer host.ApiAnswer) (Except String (Option TxtHandle))
    (TxtWorld host)

abbrev Label := Machine.Label (TxtCaller host) Unit (Nat × host.Edit)
    (TxtFate host)

/-- Nobody has called yet. -/
def start (world : TxtWorld host) : host.Config where
  world
  running := fun _ => none

variable {host}

/-- Steps that may take a value away: those of a call that removes it, and an
edit that deletes it. -/
def Threatens (key : TxtKey) (config : host.Config) : host.Label → Prop
  | .disturb event =>
    config.world.has key ∧ ¬ (host.machine.disturb event config.world).has key
  | .call caller _ => caller.removes = some key
  | .start _ _ => False
  | .crash _ => False

/-- None of the steps threatens the value. -/
def Spared (key : TxtKey) : host.Config → List host.Label → Prop
  | _, [] => True
  | config, label :: labels =>
    ¬ Threatens key config label ∧
      Spared key (host.machine.step config label) labels

/-- Under every schedule a call takes no value away but the one it removes,
and a value that was added stays until it is threatened. -/
def NeverClobbers (host : TxtHost) : Prop :=
  ∀ (world : TxtWorld host) (earlier : List host.Label),
    let config := Run.after host.machine.step (host.start world) earlier
    (∀ caller fate key, config.world.has key →
      (host.machine.step config (.call caller fate)).world.has key ∨
        caller.removes = some key) ∧
    ∀ caller domain value, caller.task = .add domain value →
      config.running caller = none → ∀ during handle,
      let added := Run.after host.machine.step config
        (.start caller () :: during)
      added.running caller = some (.done (.ok (some handle))) →
      ∃ key, caller.solver.key handle = some key ∧ key.value = value ∧
        ∀ later, Spared key config (.start caller () :: during ++ later) →
          (Run.after host.machine.step added later).world.has key

/-- The view of a call on one zone.  Nobody takes away the values that are
kept, and the call itself takes away at most its own. -/
def zoneView (host : TxtHost) (Evolves : host.Zone → host.Zone → Prop)
    (refl : ∀ zone, Evolves zone zone)
    (trans : ∀ {first second third}, Evolves first second →
      Evolves second third → Evolves first third)
    (Kept Own : String → String → Prop) :
    View host.Api host.ApiAnswer host.ApiFate host.Zone where
  perform := host.perform
  Allowed := fun _ => True
  Invariant := fun _ => True
  Rely := fun zone later => Evolves zone later ∧
    ∀ name value, Kept name value → host.has zone name value →
      host.has later name value
  Guarantee := fun zone later => Evolves zone later ∧ ∀ name value,
    host.has zone name value → host.has later name value ∨ Own name value
  rely_refl := fun zone => ⟨refl zone, fun _ _ _ held => held⟩
  rely_trans := fun first second => ⟨trans first.1 second.1,
    fun name value kept held =>
      second.2 name value kept (first.2 name value kept held)⟩

/-- What the solvers need of a provider whose zones change by steps that
`Evolves` describes. -/
structure Lawful (host : TxtHost) where
  Evolves : host.Zone → host.Zone → Prop
  refl : ∀ zone, Evolves zone zone
  trans : ∀ {first second third}, Evolves first second → Evolves second third →
    Evolves first third
  edited : ∀ edit zone, Evolves zone (host.edit edit zone)
  get_sat : ∀ Kept Own name zone,
    Program.Sat (host.zoneView Evolves refl trans Kept Own)
      (fun result zone => ∀ found, result = .ok (some found) →
        ∀ value ∈ found.set.values, Kept name value → host.has zone name value)
      (host.calls.get name .txt) zone
  add_sat : ∀ Kept solver name value current zone, host.Challenge value →
    Program.Sat (host.zoneView Evolves refl trans Kept fun _ _ => False)
      (fun result zone => ∀ ticket, result = .ok ticket →
        Kept name value → host.has zone name value)
      (host.calls.replace name .txt current
        (some (TxtSolver.withValue solver name value current))) zone
  remove_sat : ∀ Kept Own name value current zone, host.Challenge value →
    Own name value →
    Program.Sat (host.zoneView Evolves refl trans Kept Own) (fun _ _ => True)
      (host.calls.replace name .txt (some current)
        (TxtSolver.withoutValue value current)) zone
  synced_sat : ∀ Kept Own ticket zone,
    Program.Sat (host.zoneView Evolves refl trans Kept Own)
      (fun _ _ => True) (host.calls.changeSynced ticket) zone

namespace Lawful

variable (lawful : Lawful host) (Kept Own : TxtKey → Prop)

/-- The view of a call on all zones. -/
def view :
    View (TxtOp host.Api) (TxtAnswer host.ApiAnswer) (TxtFate host)
      (TxtWorld host) where
  perform := host.performTxt
  Allowed := fun _ => True
  Invariant := fun _ => True
  Rely := fun world later =>
    (∀ provider, lawful.Evolves (world.zones provider) (later.zones provider)) ∧
    ∀ key, Kept key → world.has key → later.has key
  Guarantee := fun world later =>
    (∀ provider, lawful.Evolves (world.zones provider) (later.zones provider)) ∧
    ∀ key, world.has key → later.has key ∨ Own key
  rely_refl := fun world =>
    ⟨fun provider => lawful.refl (world.zones provider), fun _ _ held => held⟩
  rely_trans := fun first second =>
    ⟨fun provider => lawful.trans (first.1 provider) (second.1 provider),
      fun key kept held => second.2 key kept (first.2 key kept held)⟩

def zone (provider : Nat) :
    View host.Api host.ApiAnswer host.ApiFate host.Zone :=
  host.zoneView lawful.Evolves lawful.refl lawful.trans
    (fun name value => Kept { provider, name, value })
    (fun name value => Own { provider, name, value })

/-- Each zone is a part of the world. -/
def zonePart (provider : Nat) :
    (lawful.zone Kept Own provider).PartOf (lawful.view Kept Own)
      (.api provider) (fun _ answer => answer) where
  project := fun world => world.zones provider
  choose := fun fate => fate.api
  allowed := fun _ => trivial
  answered := fun _ _ _ => rfl
  changed := fun _ _ _ => Function.update_self ..
  rely := fun relied =>
    ⟨relied.1 provider, fun name value => relied.2 { provider, name, value }⟩
  invariant := fun _ => trivial
  kept := by
    intro op fate world _ _ guaranteed
    refine ⟨trivial, ?_, ?_⟩
    · intro other
      by_cases same : other = provider
      · subst other
        exact guaranteed.1
      · have unchanged : (host.performTxt (.api provider op) fate
            world).2.zones other = world.zones other :=
          Function.update_of_ne same ..
        rw [show (lawful.view Kept Own).perform =
          host.performTxt from rfl, unchanged]
        exact lawful.refl _
    · intro key held
      by_cases same : key.provider = provider
      · subst provider
        exact guaranteed.2 key.name key.value held
      · have unchanged : (host.performTxt (.api provider op) fate
            world).2.zones key.provider = world.zones key.provider :=
          Function.update_of_ne same ..
        left
        show host.has ((host.performTxt (.api provider op) fate
          world).2.zones key.provider) key.name key.value
        rw [unchanged]
        exact held

end Lawful

end TxtHost

end SieveTube.Dns
