import SieveTube.Library.Run
import SieveTube.Policy.Plugins

/-!
# Reloading the policy while a request is evaluated

The rules and the plugins of a configuration live in two cells.  A reload
stores the plugins and then the rules; an evaluation loads the rules, and
loads the plugins only if the rules let the request pass.  No lock orders
the two stores against the two loads.
-/

namespace SieveTube

/-- A validated configuration; a disabled one loads no plugins. -/
structure Configuration where
  compiled : CompiledPolicy
  plugins : PluginSet
  disabled : compiled.enabled = false → plugins = .empty

/-- The mode in force for a hostname. -/
def CompiledPolicy.enforces (policy : CompiledPolicy) (hostname : String) :
    Bool :=
  ((policy.domain hostname).bind CompiledDomain.mode).getD policy.mode =
    .enforce

/-- What an evaluation was started with. -/
structure Evaluated where
  hash : LimitKey → UInt64
  finishes : PluginSet → Bool
  input : PluginInput
  now : ℚ≥0

/-- How far an evaluation is: it has not loaded the rules, the rules it
loaded let the request pass and it has not loaded the plugins, or it has
returned. -/
inductive EvaluationPhase where
  | entered
  | passedRules (enforced : Bool)
  | returned (verdict : Verdict)
deriving DecidableEq

/-- How far a reload is that has validated its configuration. -/
inductive ReloadPhase where
  | validated
  | pluginsStored
  | compiledStored
deriving DecidableEq

/-- The two cells and the buckets of a policy, one evaluation and one
reload. -/
structure Reloading where
  compiled : CompiledPolicy
  plugins : PluginSet
  buckets : BucketTable
  evaluation : EvaluationPhase
  reload : ReloadPhase

/-- Whose turn it is. -/
inductive Turn where
  | evaluation
  | reload
deriving DecidableEq

namespace Reloading

def evaluationStep (evaluated : Evaluated) (state : Reloading) : Reloading :=
  match state.evaluation with
  | .entered =>
    let policy := state.compiled
    if policy.enabled then
      let (decision, buckets) := decideHttp evaluated.hash policy
        evaluated.input.toRequestContext evaluated.now state.buckets
      let enforced := policy.enforces evaluated.input.hostname
      if decision = .allow then
        { state with buckets, evaluation := .passedRules enforced }
      else
        { state with buckets, evaluation := .returned { decision, enforced } }
    else { state with evaluation := .returned .allow }
  | .passedRules enforced =>
    let decision :=
      decidePlugins evaluated.finishes state.plugins evaluated.input
    { state with evaluation := .returned { decision, enforced } }
  | .returned _ => state

def reloadStep (new : Configuration) (state : Reloading) : Reloading :=
  match state.reload with
  | .validated =>
    { state with plugins := new.plugins, reload := .pluginsStored }
  | .pluginsStored =>
    { state with compiled := new.compiled, reload := .compiledStored }
  | .compiledStored => state

def step (evaluated : Evaluated) (new : Configuration) (state : Reloading) :
    Turn → Reloading
  | .evaluation => evaluationStep evaluated state
  | .reload => reloadStep new state

def start (old : Configuration) (buckets : BucketTable) : Reloading :=
  { compiled := old.compiled
    plugins := old.plugins
    buckets
    evaluation := .entered
    reload := .validated }

def run (evaluated : Evaluated) (old new : Configuration)
    (buckets : BucketTable) (turns : List Turn) : Reloading :=
  Run.after (step evaluated new) (start old buckets) turns

end Reloading

/-- The verdict on a request under rules and plugins that do not change. -/
def Evaluated.verdict (evaluated : Evaluated) (compiled : CompiledPolicy)
    (plugins : PluginSet) (buckets : BucketTable) : Verdict :=
  (evaluateHttp evaluated.hash compiled
    (fun _ => decidePlugins evaluated.finishes plugins evaluated.input)
    evaluated.input.toRequestContext evaluated.now buckets).1

/-- The verdict on a request entirely under one configuration. -/
def Configuration.verdict (configuration : Configuration)
    (evaluated : Evaluated) (buckets : BucketTable) : Verdict :=
  evaluated.verdict configuration.compiled configuration.plugins buckets

/-- The rules are enabled and let the request pass, so that the plugins
decide. -/
def CompiledPolicy.LeavesToPlugins (policy : CompiledPolicy)
    (evaluated : Evaluated) (buckets : BucketTable) : Prop :=
  policy.enabled ∧
    (decideHttp evaluated.hash policy evaluated.input.toRequestContext
      evaluated.now buckets).1 = .allow

variable {evaluated : Evaluated} {old new : Configuration}
variable {compiled : CompiledPolicy} {plugins : PluginSet}
variable {buckets : BucketTable} {state : Reloading}

namespace Evaluated

theorem verdict_of_leavesToPlugins
    (left : compiled.LeavesToPlugins evaluated buckets) :
    evaluated.verdict compiled plugins buckets =
      { decision := decidePlugins evaluated.finishes plugins evaluated.input
        enforced := compiled.enforces evaluated.input.hostname } := by
  simp [verdict, evaluateHttp, CompiledPolicy.enforces, left.1, left.2]

/-- Rules that do not leave a request to the plugins settle it alone. -/
theorem verdict_of_not_leavesToPlugins
    (settled : ¬ compiled.LeavesToPlugins evaluated buckets)
    (first second : PluginSet) :
    evaluated.verdict compiled first buckets =
      evaluated.verdict compiled second buckets := by
  unfold verdict evaluateHttp
  by_cases enabled : compiled.enabled
  · have judged : (decideHttp evaluated.hash compiled
        evaluated.input.toRequestContext evaluated.now buckets).1 ≠ .allow :=
      fun allowed => settled ⟨enabled, allowed⟩
    simp [enabled, judged]
  · simp [enabled]

end Evaluated

namespace Reloading

/-- The rules an evaluation can have loaded by now. -/
def Loadable (old new : Configuration) (state : Reloading)
    (compiled : CompiledPolicy) : Prop :=
  compiled = old.compiled ∨ state.reload = .compiledStored ∧
    compiled = new.compiled

/-- The two cells hold what the stores made so far say, and the evaluation
has seen nothing else. -/
structure Explained (evaluated : Evaluated) (old new : Configuration)
    (buckets : BucketTable) (state : Reloading) : Prop where
  compiled : state.compiled =
    if state.reload = .compiledStored then new.compiled else old.compiled
  plugins : state.plugins =
    if state.reload = .validated then old.plugins else new.plugins
  entered : state.evaluation = .entered → state.buckets = buckets
  passedRules : ∀ enforced, state.evaluation = .passedRules enforced →
    ∃ compiled, Loadable old new state compiled ∧
      compiled.LeavesToPlugins evaluated buckets ∧
      enforced = compiled.enforces evaluated.input.hostname
  returned : ∀ verdict, state.evaluation = .returned verdict →
    verdict = old.verdict evaluated buckets ∨
    verdict = new.verdict evaluated buckets ∨
    verdict = evaluated.verdict old.compiled new.plugins buckets

theorem explained_start :
    Explained evaluated old new buckets (start old buckets) := by
  constructor
  · rfl
  · rfl
  · intro _
    rfl
  · intro enforced passed
    cases passed
  · intro verdict returned
    cases returned

theorem Loadable.eq_old (loadable : Loadable old new state compiled)
    (unstored : state.reload ≠ .compiledStored) :
    compiled = old.compiled :=
  loadable.resolve_right fun stored => unstored stored.1

section

variable (explained : Explained evaluated old new buckets state)
include explained

theorem explained_reloadStep :
    Explained evaluated old new buckets (reloadStep new state) := by
  unfold reloadStep
  cases phase : state.reload with
  | validated =>
    have compiled := explained.compiled
    simp only [phase, reduceCtorEq, if_false] at compiled
    refine ⟨by simpa using compiled, by simp, explained.entered,
      ?_, explained.returned⟩
    intro enforced passed
    obtain ⟨rules, loadable, rest⟩ := explained.passedRules enforced passed
    exact ⟨rules, .inl (loadable.eq_old (by simp [phase])), rest⟩
  | pluginsStored =>
    have plugins := explained.plugins
    simp only [phase, reduceCtorEq, if_false] at plugins
    refine ⟨by simp, by simpa using plugins, explained.entered,
      ?_, explained.returned⟩
    intro enforced passed
    obtain ⟨rules, loadable, rest⟩ := explained.passedRules enforced passed
    exact ⟨rules, .inl (loadable.eq_old (by simp [phase])), rest⟩
  | compiledStored => exact explained

theorem Explained.loadable : Loadable old new state state.compiled := by
  have compiled := explained.compiled
  by_cases stored : state.reload = .compiledStored
  · rw [if_pos stored] at compiled
    exact .inr ⟨stored, compiled⟩
  · rw [if_neg stored] at compiled
    exact .inl compiled

/-- Loading the plugins after rules that were loadable never pairs the new
rules with the old plugins. -/
theorem Explained.verdict_of_loadable
    (loadable : Loadable old new state compiled) :
    evaluated.verdict compiled state.plugins buckets =
      old.verdict evaluated buckets ∨
    evaluated.verdict compiled state.plugins buckets =
      new.verdict evaluated buckets ∨
    evaluated.verdict compiled state.plugins buckets =
        evaluated.verdict old.compiled new.plugins buckets := by
  have plugins := explained.plugins
  rcases loadable with rfl | ⟨stored, rfl⟩
  · by_cases validated : state.reload = .validated
    · rw [if_pos validated] at plugins
      rw [plugins]
      exact .inl rfl
    · rw [if_neg validated] at plugins
      rw [plugins]
      exact .inr (.inr rfl)
  · rw [stored, if_neg (by simp)] at plugins
    rw [plugins]
    exact .inr (.inl rfl)

end

theorem evaluationStep_of_leavesToPlugins
    (entered : state.evaluation = .entered)
    (left : state.compiled.LeavesToPlugins evaluated state.buckets) :
    ∃ spent, evaluationStep evaluated state =
      { state with
        buckets := spent
        evaluation := .passedRules
          (state.compiled.enforces evaluated.input.hostname) } := by
  refine ⟨(decideHttp evaluated.hash state.compiled
    evaluated.input.toRequestContext evaluated.now state.buckets).2, ?_⟩
  simp [evaluationStep, entered, left.1, left.2]

theorem evaluationStep_of_not_leavesToPlugins
    (entered : state.evaluation = .entered)
    (settled : ¬ state.compiled.LeavesToPlugins evaluated state.buckets)
    (plugins : PluginSet) :
    ∃ spent, evaluationStep evaluated state =
      { state with
        buckets := spent
        evaluation :=
          .returned (evaluated.verdict state.compiled plugins state.buckets)
            } := by
  by_cases enabled : state.compiled.enabled
  · have judged : (decideHttp evaluated.hash state.compiled
        evaluated.input.toRequestContext evaluated.now
        state.buckets).1 ≠ .allow :=
      fun allowed => settled ⟨enabled, allowed⟩
    refine ⟨(decideHttp evaluated.hash state.compiled
      evaluated.input.toRequestContext evaluated.now state.buckets).2, ?_⟩
    simp [evaluationStep, entered, enabled, judged, Evaluated.verdict,
      evaluateHttp, CompiledPolicy.enforces]
  · refine ⟨state.buckets, ?_⟩
    simp [evaluationStep, entered, enabled, Evaluated.verdict, evaluateHttp]

theorem Explained.finish (explained : Explained evaluated old new buckets state)
    (spent : BucketTable) {verdict : Verdict}
    (listed : verdict = old.verdict evaluated buckets ∨
      verdict = new.verdict evaluated buckets ∨
      verdict = evaluated.verdict old.compiled new.plugins buckets) :
    Explained evaluated old new buckets
      { state with buckets := spent, evaluation := .returned verdict } := by
  refine ⟨explained.compiled, explained.plugins, ?_, ?_, ?_⟩
  · intro entered
    cases entered
  · intro _ passed
    cases passed
  · intro _ returned
    cases returned
    exact listed

theorem explained_evaluationStep
    (explained : Explained evaluated old new buckets state) :
    Explained evaluated old new buckets (evaluationStep evaluated state) := by
  cases phase : state.evaluation with
  | entered =>
    have unspent := explained.entered phase
    by_cases left : state.compiled.LeavesToPlugins evaluated state.buckets
    · obtain ⟨spent, stepped⟩ := evaluationStep_of_leavesToPlugins phase left
      rw [stepped]
      refine ⟨explained.compiled, explained.plugins, ?_, ?_, ?_⟩
      · intro entered
        cases entered
      · intro _ passed
        cases passed
        exact ⟨state.compiled, explained.loadable, unspent ▸ left, rfl⟩
      · intro _ returned
        cases returned
    · obtain ⟨spent, stepped⟩ :=
        evaluationStep_of_not_leavesToPlugins phase left state.plugins
      rw [stepped, unspent]
      apply explained.finish spent
      exact explained.verdict_of_loadable explained.loadable
  | passedRules enforced =>
    obtain ⟨rules, loadable, left, rfl⟩ := explained.passedRules enforced phase
    have verdict := explained.verdict_of_loadable loadable
    rw [Evaluated.verdict_of_leavesToPlugins left] at verdict
    simp only [evaluationStep, phase]
    exact explained.finish state.buckets verdict
  | returned verdict =>
    simp only [evaluationStep, phase]
    exact explained

theorem explained_run {turns : List Turn} :
    Explained evaluated old new buckets
      (run evaluated old new buckets turns) := by
  apply Run.invariant explained_start
  intro state turn explained
  cases turn with
  | evaluation => exact explained_evaluationStep explained
  | reload => exact explained_reloadStep explained

/-- How many turns an evaluation still needs at most. -/
def remaining : EvaluationPhase → Nat
  | .entered => 2
  | .passedRules _ => 1
  | .returned _ => 0

theorem remaining_evaluationStep (evaluated : Evaluated) (state : Reloading) :
    remaining (evaluationStep evaluated state).evaluation ≤
      remaining state.evaluation - 1 := by
  cases phase : state.evaluation with
  | entered =>
    by_cases left : state.compiled.LeavesToPlugins evaluated state.buckets
    · obtain ⟨_, stepped⟩ := evaluationStep_of_leavesToPlugins phase left
      rw [stepped]
      exact le_refl _
    · obtain ⟨_, stepped⟩ :=
        evaluationStep_of_not_leavesToPlugins phase left state.plugins
      rw [stepped]
      exact Nat.zero_le _
  | passedRules enforced | returned verdict =>
    simp [evaluationStep, phase, remaining]

theorem evaluation_reloadStep :
    (reloadStep new state).evaluation = state.evaluation := by
  unfold reloadStep
  split <;> rfl

/-- An evaluation that gets two turns returns. -/
theorem returned_of_turns {turns : List Turn}
    (enough : 2 ≤ turns.count .evaluation) :
    ∃ verdict, (run evaluated old new buckets turns).evaluation =
      .returned verdict := by
  have bound : remaining (run evaluated old new buckets turns).evaluation ≤
      2 - turns.count .evaluation := by
    apply Run.history_invariant (motive := fun turns (state : Reloading) =>
      remaining state.evaluation ≤ 2 - turns.count Turn.evaluation)
    · exact le_refl 2
    · intro earlier turn bound
      cases turn with
      | evaluation =>
        have decreased := remaining_evaluationStep evaluated
          (Run.after (step evaluated new) (start old buckets) earlier)
        simp only [List.count_append, List.count_singleton_self, step]
        omega
      | reload => simpa [step, evaluation_reloadStep] using bound
  cases phase : (run evaluated old new buckets turns).evaluation with
  | returned verdict => exact ⟨verdict, rfl⟩
  | entered | passedRules enforced =>
    rw [phase, remaining] at bound
    omega

theorem run_mixed (left : old.compiled.LeavesToPlugins evaluated buckets) :
    (run evaluated old new buckets
      [.evaluation, .reload, .evaluation]).evaluation =
        .returned (evaluated.verdict old.compiled new.plugins buckets) := by
  have entered : (start old buckets).evaluation = .entered := rfl
  obtain ⟨spent, stepped⟩ := evaluationStep_of_leavesToPlugins entered left
  have passed : run evaluated old new buckets
      [.evaluation, .reload, .evaluation] =
        evaluationStep evaluated (reloadStep new
          (evaluationStep evaluated (start old buckets))) := rfl
  rw [passed, stepped, Evaluated.verdict_of_leavesToPlugins left]
  rfl

/-- However the loads of an evaluation and the stores of a reload
interleave, the evaluation returns the verdict of one of the two
configurations, or that of the old rules with the new plugins.  It returns
one of the first two in every interleaving exactly if, whenever the old
rules leave the request to the plugins, the new plugins answer it as the
old ones do or their answer under the old mode is the new verdict. -/
theorem reload_atomic_iff (evaluated : Evaluated) (old new : Configuration)
    (buckets : BucketTable) :
    (∀ turns : List Turn, 2 ≤ turns.count .evaluation →
      ∃ verdict, (run evaluated old new buckets turns).evaluation =
        .returned verdict ∧
        (verdict = old.verdict evaluated buckets ∨
          verdict = new.verdict evaluated buckets ∨
          verdict = evaluated.verdict old.compiled new.plugins buckets)) ∧
    ((∀ turns verdict,
      (run evaluated old new buckets turns).evaluation = .returned verdict →
      verdict = old.verdict evaluated buckets ∨
        verdict = new.verdict evaluated buckets) ↔
    (old.compiled.LeavesToPlugins evaluated buckets →
      decidePlugins evaluated.finishes new.plugins evaluated.input =
          decidePlugins evaluated.finishes old.plugins evaluated.input ∨
        new.verdict evaluated buckets =
          { decision := decidePlugins evaluated.finishes new.plugins
              evaluated.input
            enforced := old.compiled.enforces evaluated.input.hostname })) := by
  refine ⟨?_, ?_, ?_⟩
  · intro turns enough
    obtain ⟨verdict, returned⟩ := returned_of_turns enough
    exact ⟨verdict, returned, explained_run.returned verdict returned⟩
  · intro atomic left
    have mixed := atomic _ _ (run_mixed left)
    rw [Configuration.verdict, Evaluated.verdict_of_leavesToPlugins left,
      Evaluated.verdict_of_leavesToPlugins left] at mixed
    rcases mixed with sameAsOld | sameAsNew
    · exact .inl (congrArg Verdict.decision sameAsOld)
    · exact .inr sameAsNew.symm
  · intro agree turns verdict returned
    have explained := explained_run.returned verdict returned
    rcases explained with asOld | asNew | mixed
    · exact .inl asOld
    · exact .inr asNew
    · by_cases left : old.compiled.LeavesToPlugins evaluated buckets
      · rw [Evaluated.verdict_of_leavesToPlugins left] at mixed
        rcases agree left with samePlugins | sameVerdict
        · left
          rw [mixed, samePlugins, Configuration.verdict,
            Evaluated.verdict_of_leavesToPlugins left]
        · right
          rw [mixed, sameVerdict]
      · left
        rw [mixed]
        exact Evaluated.verdict_of_not_leavesToPlugins left _ _

/-- Rules that only block networks. -/
def blocking (blocked : List Inet.IpNet) : CompiledPolicy :=
  { enabled := true
    mode := .enforce
    blocked
    httpRate := none
    key := .clientIp
    domains := ∅
    maxEntries := 0
    idleTtl := 0 }

/-- A configuration whose plugin denies every request. -/
def deniedByPlugin : Configuration :=
  { compiled := blocking []
    plugins :=
      { plugins :=
          [{ name := "deny", appliesTo := [], evaluate := fun _ => .ok 1,
             permits := 1 }] }
    disabled := nofun }

/-- A configuration whose rules block every IPv4 address. -/
def deniedByRules : Configuration :=
  { compiled := blocking [.v4 0 0]
    plugins := .empty
    disabled := nofun }

def anyRequest : Evaluated :=
  { hash := fun _ => 0
    finishes := fun _ => true
    input :=
      { tenantId := "tenant", hostname := "www.example.com",
        clientIp := .v4 0xc0000201, protocol := "https", method := "GET",
        path := "/" }
    now := 0 }

/-- The rules are loaded before the reload and the plugins after it, so
that neither denial is seen. -/
theorem denied_by_both_allowed_during_reload :
    (deniedByPlugin.verdict anyRequest .new).rejects ∧
    (deniedByRules.verdict anyRequest .new).rejects ∧
    (run anyRequest deniedByPlugin deniedByRules .new
      [.evaluation, .reload, .reload, .evaluation]).evaluation =
        .returned .allow := by
  decide +kernel

end Reloading

end SieveTube
