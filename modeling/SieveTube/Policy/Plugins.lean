import SieveTube.Policy.Http

/-!
# Policy plugins

The plugins of a configuration that apply to a hostname are asked in order.
A request gets through when each of them has a free slot and returns zero.
-/

namespace SieveTube

inductive PluginFailure where
  | trap
  | outOfFuel
  | timeout
  | memoryLimit
  | invalidOutput
  | busy
  | inputTooLarge

inductive PluginVerdict where
  | allow
  | deny (plugin : String)
  | failed (plugin : String) (failure : PluginFailure)

/-- The request as plugins see it. -/
structure PluginInput extends RequestContext where
  protocol : String
  method : String
  path : String

/-- A verified module: what running it on an input returns within its
limits, and how many of its concurrency slots are free. -/
structure LoadedPlugin where
  name : String
  appliesTo : List String
  evaluate : PluginInput → Except PluginFailure Int
  permits : Nat

def LoadedPlugin.applies (plugin : LoadedPlugin) (hostname : String) : Bool :=
  plugin.appliesTo.isEmpty ||
    plugin.appliesTo.any fun pattern => Hostname.matchesPattern pattern hostname

/-- A request whose plugins all gave it a slot. -/
structure PluginJob where
  hostname : String
  input : PluginInput

/-- The plugins of one configuration, evaluated in order. -/
structure PluginSet where
  plugins : List LoadedPlugin

namespace PluginSet

def empty : PluginSet := { plugins := [] }

def applicable (set : PluginSet) (hostname : String) : List LoadedPlugin :=
  set.plugins.filter fun plugin => plugin.applies hostname

def prepare (set : PluginSet) (input : PluginInput) :
    Except PluginVerdict (Option PluginJob) :=
  let applicable := set.applicable input.hostname
  match applicable.find? fun plugin => plugin.permits = 0 with
  | some plugin => .error (.failed plugin.name .busy)
  | none =>
    if applicable.isEmpty then .ok none
    else .ok (some { hostname := input.hostname, input })

def evaluateInOrder (input : PluginInput) : List LoadedPlugin → PluginVerdict
  | [] => .allow
  | plugin :: plugins =>
    match plugin.evaluate input with
    | .ok 0 => evaluateInOrder input plugins
    | .ok 1 => .deny plugin.name
    | .ok _ => .failed plugin.name .invalidOutput
    | .error failure => .failed plugin.name failure

def evaluatePrepared (set : PluginSet) (job : PluginJob) : PluginVerdict :=
  evaluateInOrder job.input (set.applicable job.hostname)

end PluginSet

def PluginVerdict.decision : PluginVerdict → Decision
  | .allow => .allow
  | .deny _ => .deny .plugin
  | .failed _ _ => .unavailable .pluginFailure

/-- `decide_plugins` with the plugins it loaded; `finishes` tells whether
the blocking task that runs them does. -/
def decidePlugins (finishes : PluginSet → Bool) (set : PluginSet)
    (input : PluginInput) : Decision :=
  match set.prepare input with
  | .ok none => .allow
  | .ok (some job) =>
    if finishes set then (set.evaluatePrepared job).decision
    else .unavailable .pluginFailure
  | .error busy => busy.decision

theorem PluginVerdict.decision_eq_allow_iff (verdict : PluginVerdict) :
    verdict.decision = .allow ↔ verdict = .allow := by
  cases verdict <;> simp [decision]

theorem PluginSet.evaluateInOrder_eq_allow_iff (input : PluginInput)
    (plugins : List LoadedPlugin) :
    evaluateInOrder input plugins = .allow ↔ ∀ plugin ∈ plugins,
      plugin.evaluate input = .ok 0 := by
  induction plugins with
  | nil => simp [evaluateInOrder]
  | cons plugin plugins ih =>
    rw [evaluateInOrder, List.forall_mem_cons]
    split
    · next passed => simp [passed, ih]
    · next denied => simp [denied]
    · next other _ returned =>
      simp only [returned, reduceCtorEq, Except.ok.injEq, false_iff, not_and]
      intro zero
      exact (other zero).elim
    · next failed => simp [failed]

/-- Plugins let a request pass exactly if each that applies has a free slot
and returns zero. -/
theorem decidePlugins_eq_allow_iff (finishes : PluginSet → Bool)
    (set : PluginSet) (input : PluginInput) :
    decidePlugins finishes set input = .allow ↔
      set.applicable input.hostname = [] ∨
      finishes set ∧ ∀ plugin ∈ set.applicable input.hostname,
        0 < plugin.permits ∧ plugin.evaluate input = .ok 0 := by
  simp only [decidePlugins, PluginSet.prepare]
  cases found : (set.applicable input.hostname).find? fun plugin =>
    plugin.permits = 0 with
  | some plugin =>
    have member := List.mem_of_find?_eq_some found
    have occupied := List.find?_some found
    simp only [decide_eq_true_eq] at occupied
    constructor
    · intro allowed
      cases allowed
    · rintro (nothing | ⟨-, free⟩)
      · rw [nothing] at member
        cases member
      · have positive := (free plugin member).1
        omega
  | none =>
    have free : ∀ plugin ∈ set.applicable input.hostname,
        0 < plugin.permits := by
      intro plugin member
      have occupied := List.find?_eq_none.mp found plugin member
      simpa [Nat.pos_iff_ne_zero] using occupied
    by_cases nothing : set.applicable input.hostname = []
    · simp [nothing]
    · simp only [List.isEmpty_iff, nothing, if_false, false_or]
      cases finishes set with
      | false => simp
      | true =>
        simp only [if_true, true_and, PluginVerdict.decision_eq_allow_iff,
          PluginSet.evaluatePrepared,
          PluginSet.evaluateInOrder_eq_allow_iff]
        constructor
        · intro passed plugin member
          exact ⟨free plugin member, passed plugin member⟩
        · intro passed plugin member
          exact (passed plugin member).2

end SieveTube
