import SieveTube.Dns.Challenge

/-!
# Solvers keep the values of others

The programs of a solver are judged once for every lawful provider.  A call
that adds a value takes none away, and a call that removes one takes away no
other; so a value that was added can only be lost to a step that is meant to
remove it.
-/

namespace SieveTube.Dns.TxtHost.Lawful

open TxtSolver

variable {host : TxtHost} {lawful : Lawful host}
variable {Kept Own : TxtKey → Prop} {world : TxtWorld host}
variable {Value Other : Type}

/-- The judgement of a solver's program. -/
abbrev Solves (lawful : Lawful host) (Kept Own : TxtKey → Prop)
    (After : Except String Value → TxtWorld host → Prop)
    (solving : Solving host.ApiAnswer Value) (world : TxtWorld host) :
    Prop :=
  Program.Sat (lawful.view Kept Own) After solving world

/-- What a kept value is known by. -/
def Held (Kept : TxtKey → Prop) (key : TxtKey) (world : TxtWorld host) :
    Prop :=
  Kept key → world.has key

theorem held_stable {key : TxtKey} :
    (lawful.view Kept Own).Stable (Held Kept key) := by
  intro world later held relied _ kept
  exact relied.2 key kept (held kept)

theorem sat_held
    {program : Program (TxtOp host.Api) (TxtAnswer host.ApiAnswer) Value}
    {After : Value → TxtWorld host → Prop} {key : TxtKey}
    (held : Held Kept key world)
    (sat : program.Sat (lawful.view Kept fun _ => False) After world) :
    program.Sat (lawful.view Kept fun _ => False)
      (fun value later => After value later ∧ Held Kept key later) world := by
  apply sat.frame held_stable
  · intro world later held guaranteed kept
    exact (guaranteed.2 key (held kept)).resolve_right id
  · exact held

theorem onProvider_sat {provider : Nat}
    {program : ExceptT DnsError (Program host.Api host.ApiAnswer) Value}
    {Between : Except DnsError Value → host.Zone → Prop}
    {next : Except DnsError Value → Solving host.ApiAnswer Other}
    {After : Except String Other → TxtWorld host → Prop}
    (judged : ∀ zone,
      Program.Sat (lawful.zone Kept Own provider) Between program zone)
    (rest : ∀ result later, Between result (later.zones provider) →
      lawful.Solves Kept Own After (next result) later) :
    lawful.Solves Kept Own After
      (onProvider provider program >>= next) world := by
  apply Program.sat_bind_lift
  refine Program.Sat.mono ?_
    (Program.Sat.embed (lawful.zonePart Kept Own provider)
    (judged (world.zones provider)))
  intro result later _ between
  exact rest result later between

variable {After : Except String Value → TxtWorld host → Prop}

/-- Only calls of providers change zones. -/
theorem ask_sat {op : TxtOp host.Api}
    {next : TxtAnswer host.ApiAnswer op → Solving host.ApiAnswer Value}
    (quiet : ∀ fate world,
      (host.performTxt op fate world).2.zones = world.zones)
    (rest : ∀ answer later, lawful.Solves Kept Own After (next answer) later) :
    lawful.Solves Kept Own After (ask op >>= next) world := by
  apply Program.sat_bind_lift
  intro later _ _ fate _
  refine ⟨trivial, ⟨?_, ?_⟩, ?_⟩
  · intro provider
    show lawful.Evolves _ ((host.performTxt op fate later).2.zones provider)
    rw [quiet]
    exact lawful.refl _
  · intro key held
    left
    show host.has ((host.performTxt op fate later).2.zones key.provider)
      key.name key.value
    rw [quiet]
    exact held
  · exact fun final _ _ => rest _ final

theorem zones_updateJournal {path : String}
    {update : List TxtHandle → List TxtHandle} (fate : TxtFate host)
    (world : TxtWorld host) :
    (host.updateJournal path update fate world).2.zones = world.zones := by
  unfold updateJournal
  cases fate.failure with
  | none => rfl
  | some failure => cases fate.written <;> rfl

theorem error_sat {error : String}
    (after : ∀ world, After (.error error) world) :
    lawful.Solves Kept Own After (throw error) world :=
  fun later _ _ => after later

variable {name value : String} {provider : Nat}

/-- What the solver reads of a name was there. -/
def Reads (Kept : TxtKey → Prop) (provider : Nat) (name : String)
    (result : Except String (Option RecordSet)) (world : TxtWorld host) :
    Prop :=
  ∀ set, result = .ok (some set) → ∀ value ∈ set.values,
    Held Kept { provider, name, value } world

theorem observedSet_sat :
    lawful.Solves Kept Own (Reads Kept provider name)
      (observedSet host.calls provider name) world := by
  refine onProvider_sat (fun zone => lawful.get_sat _ _ name zone) ?_
  intro result later found
  rcases result with error | _ | observed
  · exact error_sat fun _ _ same => (by cases same)
  · exact fun _ _ _ _ same => (by cases same)
  · simp only
    cases observed.unsupported with
    | some reason => exact error_sat fun _ _ same => (by cases same)
    | none =>
      intro final relied holds set same value member
      obtain rfl : observed.set = set := by
        injection same with same
        injection same
      exact held_stable later final (found observed rfl value member) relied
        holds

theorem pollSynced_sat {ticket : ChangeTicket} {polls : Nat} :
    lawful.Solves Kept Own (fun _ _ => True)
      (pollSynced host.calls provider ticket polls) world := by
  induction polls generalizing world with
  | zero => exact error_sat fun _ => trivial
  | succ polls ih =>
    refine onProvider_sat (fun zone => lawful.synced_sat _ _ ticket zone) ?_
    intro result later _
    rcases result with error | synced
    · exact error_sat fun _ => trivial
    · cases synced with
      | true => exact fun _ _ _ => trivial
      | false => exact ih

theorem waitSynced_sat {ticket : ChangeTicket} :
    lawful.Solves Kept Own (fun _ _ => True)
      (waitSynced host.calls provider ticket) world := by
  refine ask_sat (fun _ _ => rfl) ?_
  intro polls later
  exact pollSynced_sat

theorem retryOrFail_sat {error : DnsError} {next : Solving host.ApiAnswer Value}
    (failed : ∀ text world, After (.error text) world)
    (again : lawful.Solves Kept Own After next world) :
    lawful.Solves Kept Own After
      (retryOrFail error >>= fun _ => next) world := by
  cases error with
  | conflict _ | rateLimited _ => exact again
  | auth _ | timeout | unsupported _ | provider _ => exact error_sat (failed _)

theorem bind_sat {first : Solving host.ApiAnswer Value}
    {next : Value → Solving host.ApiAnswer Other}
    {Between : Except String Value → TxtWorld host → Prop}
    {After : Except String Other → TxtWorld host → Prop}
    (judged : lawful.Solves Kept Own Between first world)
    (failed : ∀ text world, After (.error text) world)
    (rest : ∀ result later, Between (.ok result) later →
      lawful.Solves Kept Own After (next result) later) :
    lawful.Solves Kept Own After (first >>= next) world := by
  apply Program.sat_bind_except
  refine Program.Sat.mono ?_ judged
  intro result later _ between
  cases result with
  | error text => exact fun final _ _ => failed text final
  | ok result => exact rest result later between

variable {solver : TxtSolver} {domain : String}

theorem challengeName_sat :
    lawful.Solves Kept Own (fun _ _ => True) (solver.challengeName domain)
      world := by
  refine ask_sat (fun _ _ => rfl) ?_
  intro answer later
  cases answer with
  | none => exact fun _ _ _ => trivial
  | some target =>
    simp only
    cases Hostname.normalizeDnsName target with
    | error failure => exact error_sat fun _ => trivial
    | ok target =>
      simp only
      split
      · exact fun _ _ _ => trivial
      · exact error_sat fun _ => trivial

theorem addAttempts_sat (challenge : host.Challenge value) {attempts : Nat} :
    lawful.Solves Kept (fun _ => False) (fun result later => result.isOk →
        Held Kept { provider, name, value } later)
      (solver.addAttempts host.calls provider name value attempts) world := by
  induction attempts generalizing world with
  | zero => exact error_sat fun _ failed => (by cases failed)
  | succ attempts ih =>
    refine bind_sat observedSet_sat (fun _ _ failed => (by cases failed)) ?_
    intro current later reads
    split
    · next present =>
      cases current with
      | none => cases present
      | some set =>
        have held := reads set rfl value (by simpa using present)
        intro final relied holds _
        exact held_stable later final held relied holds
    · refine onProvider_sat (fun zone => lawful.add_sat _ solver name value
        current zone challenge) ?_
      intro result final added
      cases result with
      | error error =>
        exact retryOrFail_sat (fun _ _ failed => (by cases failed)) ih
      | ok ticket =>
        refine Program.Sat.mono ?_ (sat_held (added ticket rfl) waitSynced_sat)
        exact fun _ _ _ both _ => both.2

/-- What is known of a value that was added. -/
def Added (Kept : TxtKey → Prop) (solver : TxtSolver) (value : String)
    (result : Except String TxtHandle) (world : TxtWorld host) : Prop :=
  ∀ handle, result = .ok handle → ∃ key, solver.key handle = some key ∧
    key.value = value ∧ Held Kept key world

theorem added_of_error (text : String) (world : TxtWorld host) :
    Added Kept solver value (.error text) world :=
  fun _ same => by cases same

theorem solver_add_sat (challenge : host.Challenge value) :
    lawful.Solves Kept (fun _ => False) (Added Kept solver value)
      (solver.add host.calls domain value) world := by
  refine bind_sat challengeName_sat added_of_error ?_
  intro name later _
  cases covered : solver.providerFor name with
  | none => exact error_sat (added_of_error _)
  | some entry =>
    obtain ⟨zone, provider⟩ := entry
    refine ask_sat zones_updateJournal ?_
    intro answer later
    cases answer with
    | error error => exact error_sat (added_of_error _)
    | ok _ =>
      refine bind_sat (addAttempts_sat challenge) added_of_error ?_
      intro _ final held world relied holds handle same
      obtain rfl := Except.ok.inj same
      refine ⟨{ provider, name, value }, ?_, rfl, ?_⟩
      · rw [key, zoneProvider_of_providerFor covered]
        rfl
      · exact held_stable final world (held rfl) relied holds

theorem removeAttempts_sat (challenge : host.Challenge value)
    (own : Own { provider, name, value }) {attempts : Nat} :
    lawful.Solves Kept Own (fun _ _ => True)
      (removeAttempts host.calls provider name value attempts) world := by
  induction attempts generalizing world with
  | zero => exact fun _ _ _ => trivial
  | succ attempts ih =>
    refine bind_sat observedSet_sat (fun _ _ => trivial) ?_
    intro current later _
    split
    · exact fun _ _ _ => trivial
    · next current _ =>
      refine onProvider_sat (fun zone => lawful.remove_sat _ _ name
        value current zone challenge own) ?_
      intro result final _
      cases result with
      | error error => exact retryOrFail_sat (fun _ _ => trivial) ih
      | ok ticket =>
        refine bind_sat waitSynced_sat (fun _ _ => trivial) ?_
        exact fun _ _ _ _ _ _ => trivial

theorem solver_remove_sat {handle : TxtHandle}
    (challenge : host.Challenge handle.value) :
    lawful.Solves Kept (fun key => solver.key handle = some key)
      (fun _ _ => True) (solver.remove host.calls handle) world := by
  unfold TxtSolver.remove
  cases found : solver.zoneProvider handle.zone with
  | none => exact error_sat fun _ => trivial
  | some provider =>
    have own : solver.key handle = some
        { provider, name := handle.name, value := handle.value } := by
      rw [key, found]
      rfl
    refine bind_sat (removeAttempts_sat challenge own) (fun _ _ => trivial) ?_
    intro removed later _
    cases removed with
    | false => exact error_sat fun _ => trivial
    | true =>
      refine ask_sat zones_updateJournal ?_
      intro answer later
      cases answer with
      | error error => exact error_sat fun _ => trivial
      | ok _ => exact fun _ _ _ => trivial

/-- What is known when a call has ended. -/
def Ended (Kept : TxtKey → Prop) (caller : TxtCaller host)
    (result : Except String (Option TxtHandle)) (world : TxtWorld host) :
    Prop :=
  ∀ domain value, caller.task = .add domain value → ∀ handle,
    result = .ok (some handle) → ∃ key, caller.solver.key handle = some key ∧
      key.value = value ∧ Held Kept key world

theorem program_sat {caller : TxtCaller host} :
    Program.Sat (lawful.view Kept fun key => caller.removes = some key)
      (Ended Kept caller) (host.program caller) world := by
  obtain ⟨solver, task, number, challenge⟩ := caller
  cases task with
  | add domain value =>
    have nothing : (fun key : TxtKey => (none : Option TxtKey) = some key) =
        fun _ => False := by
      simp
    show lawful.Solves Kept (fun key => (none : Option TxtKey) = some key)
      (Ended Kept _) (solver.add host.calls domain value >>= _) world
    rw [nothing]
    refine bind_sat (solver_add_sat challenge)
      (fun _ _ _ _ _ _ same => (by cases same)) ?_
    intro handle later added final relied holds _ _ adds _ same
    cases adds
    cases same
    obtain ⟨key, found, own, held⟩ := added handle rfl
    exact ⟨key, found, own, held_stable later final held relied holds⟩
  | remove handle =>
    refine bind_sat (solver_remove_sat challenge)
      (fun _ _ _ _ adds => (by cases adds)) ?_
    intro _ _ _ _ _ _ _ _ adds
    cases adds

theorem disturb_evolves (event : Nat × host.Edit) (provider : Nat) :
    lawful.Evolves (world.zones provider)
      ((host.machine.disturb event world).zones provider) := by
  obtain ⟨edited, edit⟩ := event
  by_cases same : provider = edited
  · subst provider
    show lawful.Evolves _ (Function.update world.zones edited _ edited)
    rw [Function.update_self]
    exact lawful.edited edit _
  · show lawful.Evolves _ (Function.update world.zones edited _ provider)
    rw [Function.update_of_ne same]
    exact lawful.refl _

/-- Nothing but the kind of each step is relied on. -/
def discipline (lawful : Lawful host) : Discipline host.machine where
  Invariant := fun _ => True
  Rely := fun _ => (lawful.view (fun _ => False) fun _ => False).Rely
  Guarantee := fun caller =>
    (lawful.view (fun _ => False) fun key => caller.removes =
      some key).Guarantee
  Idle := fun _ _ => True
  After := fun caller => Ended (fun _ => False) caller
  rely_refl := fun _ => (lawful.view _ _).rely_refl
  rely_trans := fun _ => (lawful.view _ _).rely_trans
  idle_stable := fun _ _ _ _ _ => trivial
  guaranteed := fun _ guaranteed => ⟨guaranteed.1, fun _ kept _ => kept.elim⟩
  disturbed := fun event _ _ => ⟨trivial, fun _ =>
    ⟨disturb_evolves event, fun _ kept => kept.elim⟩⟩
  started := fun _ _ _ _ _ => program_sat
  finished := fun _ _ world _ _ =>
    ⟨trivial, trivial, fun _ _ => (lawful.view _ _).rely_refl world⟩
  crashed := fun _ world _ =>
    ⟨trivial, trivial, fun _ _ => (lawful.view _ _).rely_refl world⟩

theorem holds_start : lawful.discipline.Holds (host.start world) :=
  ⟨trivial, fun _ => trivial⟩

variable {config : host.Config} {key : TxtKey}

section

variable (holds : lawful.discipline.Holds config)
include holds

theorem call_guarantee (caller : TxtCaller host) (fate : TxtFate host) :
    lawful.discipline.Guarantee caller config.world
      (host.machine.step config (.call caller fate)).world := by
  have idle : lawful.discipline.Guarantee caller config.world config.world :=
    ⟨fun provider => lawful.refl _, fun _ held => .inl held⟩
  have own := holds.2 caller
  simp only [Machine.step]
  cases running : config.running caller with
  | none => exact idle
  | some program =>
    cases program with
    | done result => exact idle
    | call op next =>
      rw [running] at own
      exact (own config.world (lawful.discipline.rely_refl caller _) holds.1
        fate trivial).2.1

/-- A step that does not threaten a value can be relied on to keep it. -/
theorem step_rely {label : host.Label} (harmless : ¬ Threatens key config label)
    (Own : TxtKey → Prop) :
    (lawful.view (· = key) Own).Rely config.world
      (host.machine.step config label).world := by
  have unchanged := (lawful.view (· = key) Own).rely_refl config.world
  cases label with
  | disturb event =>
    refine ⟨disturb_evolves event, ?_⟩
    rintro _ rfl held
    by_contra lost
    exact harmless ⟨held, lost⟩
  | start caller task | crash caller =>
    simp only [Machine.step]
    split <;> exact unchanged
  | call caller fate =>
    obtain ⟨evolves, keeps⟩ := call_guarantee holds caller fate
    refine ⟨evolves, ?_⟩
    rintro _ rfl held
    exact (keeps _ held).resolve_right harmless

theorem has_run {labels : List host.Label} (spared : Spared key config labels)
    (held : config.world.has key) :
    (Run.after host.machine.step config labels).world.has key := by
  induction labels generalizing config with
  | nil => exact held
  | cons label labels ih =>
    exact ih (Discipline.holds_step holds) spared.2
      ((step_rely holds spared.1 fun _ => False).2 key rfl held)

/-- A call is judged together with the value as long as that is spared. -/
theorem judged_run (caller : TxtCaller host) {labels : List host.Label}
    (spared : Spared key config labels)
    (judged : Machine.Judged (lawful.view (· = key) fun key =>
      caller.removes = some key) (Ended (· = key) caller) caller config) :
    Machine.Judged (lawful.view (· = key) fun key =>
        caller.removes = some key) (Ended (· = key) caller) caller
      (Run.after host.machine.step config labels) := by
  induction labels generalizing config with
  | nil => exact judged
  | cons label labels ih =>
    refine ih (Discipline.holds_step holds) spared.2 ?_
    exact Machine.judged_step rfl (fun _ => trivial)
      (fun _ _ => program_sat) trivial judged
      label (fun _ => step_rely holds spared.1 _)

end

theorem spared_append {first second : List host.Label} :
    Spared key config (first ++ second) ↔ Spared key config first ∧
      Spared key (Run.after host.machine.step config first) second := by
  induction first generalizing config with
  | nil => simp [Spared]
  | cons label first ih =>
    rw [List.cons_append, Spared, Spared, ih, and_assoc]
    rfl

/-- With a lawful provider the solvers never clobber each other. -/
theorem neverClobbers (lawful : Lawful host) : host.NeverClobbers := by
  intro world earlier config
  have holds : lawful.discipline.Holds config :=
    Discipline.sound holds_start earlier
  refine ⟨fun caller fate key => (call_guarantee holds caller fate).2 key, ?_⟩
  intro caller domain value adds idle during handle added returned
  have holdsAdded : lawful.discipline.Holds added := Discipline.sound holds _
  have own := holdsAdded.2 caller
  rw [returned] at own
  obtain ⟨key, found, keyValue, _⟩ :=
    own added.world (lawful.discipline.rely_refl caller _) trivial domain value
      adds handle rfl
  refine ⟨key, found, keyValue, ?_⟩
  intro later spared
  rw [spared_append] at spared
  have judged := judged_run holds caller spared.1
    (fun program running => by rw [idle] at running; cases running)
  obtain ⟨sameKey, sameFound, _, held⟩ :=
    judged _ returned added.world
      (View.rely_refl _ _) trivial domain value adds handle rfl
  obtain rfl : key = sameKey := by
    rw [found] at sameFound
    exact Option.some.inj sameFound
  exact has_run holdsAdded spared.2 (held rfl)

end SieveTube.Dns.TxtHost.Lawful
