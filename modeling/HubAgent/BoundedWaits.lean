import HubAgent.Handlers
/-!
# Every command is done in time

Two handlers wait: a restart polls its rollout by the system clock, and a drain its pods by the monotone one.  Whatever
they are answered, they give up at their deadline: on clocks that go on, every command returns, after a bounded number of
polls, and has slept no longer than its deadline and one poll (`every_command_returns`).
-/
namespace HubAgent
namespace Executor

open Interaction

/-! ## The clocks -/

def elapses : ApiCall → Nat
  | .sleep secs => secs * 1000000000
  | _ => 0

def systemReading : ApiEvent → Option Nat
  | ⟨.systemTimeNow, t⟩ => some t
  | _ => none

def instantReading : ApiEvent → Option Nat
  | ⟨.instantNow, t⟩ => some t
  | _ => none

/-- **Both clocks go on.**  The monotone one always does; the system clock does where nobody sets it back. -/
def KeepsTime : Rely ApiCall Answer := fun tr op x =>
  GoesOn elapses systemReading tr op x ∧ GoesOn elapses instantReading tr op x

/-! ## The parts that do not sleep -/

section Prompt

variable {α : Type}

/-- A part that returns without sleeping. -/
abbrev Prompt (m : Exec α) : Prop := m.Brief (fun op => elapses op = 0)

theorem compositional_prompt : Compositional (fun op => op.plain = true) (fun {α} (m : Exec α) => Prompt m) :=
  compositional_brief (fun op hop => by cases op <;> first | rfl | cases hop)

theorem Prompt.endsUnder {m : Exec α} (h : Prompt m) (tr : ApiTrace) :
    m.EndsUnder KeepsTime (fun _ tr' => slept elapses tr' = slept elapses tr) tr := by
  refine (Prog.Brief.endsUnder KeepsTime h tr).mono ?_
  rintro a tr' ⟨later, rfl, hlater⟩
  rw [slept_append, slept_eq_zero hlater, Nat.add_zero]

theorem Prompt.endsUnder_bind {β : Type} {m : Exec α} (h : Prompt m) {f : α → Exec β} {bound : Nat} {tr : ApiTrace}
    (hslept : slept elapses tr = 0)
    (hf : ∀ a tr', slept elapses tr' = 0 → (f a).EndsUnder KeepsTime (fun _ tr' => slept elapses tr' ≤ bound) tr') :
    (m >>= f).EndsUnder KeepsTime (fun _ tr' => slept elapses tr' ≤ bound) tr :=
  (h.endsUnder tr).bind (fun a tr' heq => hf a tr' (heq.trans hslept))

theorem Prompt.within {m : Exec α} (h : Prompt m) {bound : Nat} {tr : ApiTrace} (hslept : slept elapses tr ≤ bound) :
    m.EndsUnder KeepsTime (fun _ tr' => slept elapses tr' ≤ bound) tr :=
  (h.endsUnder tr).mono (fun _ _ heq => heq.trans_le hslept)

theorem brief_collectPreflightWarnings {C : ApiCall → Prop} (hhpas : ∀ ns, C (.listHpas ns)) (hvpas : ∀ ns, C (.listVpas ns))
    (hranges : ∀ ns, C (.listLimitRanges ns)) (hquotas : ∀ ns, C (.listResourceQuotas ns))
    (hpdbs : ∀ ns, C (.listPdbs ns)) (spec : WorkloadResourcesSpec) (labels : StrMap String) :
    (collectPreflightWarnings spec labels).Brief C := by
  have hpa : (preflightCheckHpa spec).Brief C :=
    brief_bind (fun list => by cases list <;> exact brief_pure _) (brief_ask (hhpas _))
  have vpa : (preflightCheckVpa spec).Brief C := by
    refine brief_bind (fun list => ?_) (brief_ask (hvpas _))
    cases list with
    | error e => exact brief_pure _
    | ok list =>
      dsimp only
      split <;> exact brief_pure _
  have limitrange : (preflightCheckLimitrange spec).Brief C := by
    refine brief_bind (fun list => ?_) (brief_ask (hranges _))
    cases list with
    | error e => exact brief_pure _
    | ok count =>
      dsimp only
      split <;> exact brief_pure _
  have resourcequota : (preflightCheckResourcequota spec).Brief C := by
    refine brief_bind (fun list => ?_) (brief_ask (hquotas _))
    cases list with
    | error e => exact brief_pure _
    | ok count =>
      dsimp only
      split <;> exact brief_pure _
  have pdb : (preflightCheckPdb spec labels).Brief C :=
    brief_bind (fun list => by cases list <;> exact brief_pure _) (brief_ask (hpdbs _))
  exact brief_bind (fun _ => brief_bind (fun _ => brief_bind (fun _ => brief_bind (fun _ => brief_bind
    (fun _ => brief_pure _) pdb) resourcequota) limitrange) vpa) hpa

theorem prompt_collectPreflightWarnings (spec : WorkloadResourcesSpec) (labels : StrMap String) :
    Prompt (collectPreflightWarnings spec labels) :=
  brief_collectPreflightWarnings (fun _ => rfl) (fun _ => rfl) (fun _ => rfl) (fun _ => rfl) (fun _ => rfl) spec labels

end Prompt

/-! ## The handlers that do not wait -/

section Handlers

theorem prompt_diagnosePostgresql {env : Externals}
    (hdiagnose : ∀ cfg spec, (env.diagnose cfg spec).Brief (fun _ => True)) (cfg : Config) (id : String)
    (spec : PostgresqlDiagnosticSpec) : Prompt (diagnosePostgresql env cfg id spec) := by
  refine diagnosePostgresql_walked compositional_prompt ?_ id
  unfold pluginDiagnosePostgresql
  split
  · exact brief_pure _
  · have hread (r : ReadCall) : elapses (.read r) = 0 := rfl
    exact (hdiagnose cfg spec).lift (fun r _ => hread r)

theorem prompt_runWorkloadResources (cfg : Config) (id : String) (spec : WorkloadResourcesSpec) (dryRun : Bool) :
    Prompt (runWorkloadResources cfg id spec dryRun) := by
  have hpatch (kind : WorkloadKind) (patch : Json) : Prompt (patchWorkloadResources kind spec patch dryRun) := by
    refine brief_bind (fun before => ?_) (brief_ask rfl)
    cases before with
    | error e => exact brief_pure _
    | ok before =>
      dsimp only
      split
      · exact brief_pure _
      refine brief_bind (fun warnings => ?_) (prompt_collectPreflightWarnings _ _)
      refine brief_bind (fun after => ?_) (brief_ask rfl)
      cases after with
      | error e => exact brief_pure _
      | ok after =>
        dsimp only
        split <;> exact brief_pure _
  have hinner : Prompt (executeWorkloadResourcesInner cfg spec dryRun) := by
    refine brief_bind (fun gate => ?_) (ensureEffectivePolicyAllows_walked compositional_prompt _ _ _ _ _)
    cases gate with
    | error e => exact brief_pure _
    | ok e =>
      dsimp only
      split
      · exact brief_pure _
      split
      · exact brief_pure _
      · exact hpatch _ _
  refine brief_bind (fun outcome => ?_) hinner
  cases outcome <;> exact brief_bind (fun _ => brief_pure _) (simple_walked compositional_prompt _ _ _)

theorem prompt_updateAgent (cfg : Config) (id : String) (spec : UpdateAgentSpec) :
    Prompt (updateAgent cfg id spec) := by
  have herr (msg : String) : Prompt (updateAgentError id msg) := updateAgentError_walked compositional_prompt _ _
  refine brief_bind (fun gate => ?_) (ensureEffectivePolicyAllows_walked compositional_prompt _ _ _ _ _)
  cases gate with
  | error e => exact herr _
  | ok e =>
    dsimp only
    split
    · exact herr _
    refine brief_bind (fun before => ?_) (brief_ask rfl)
    cases before with
    | error e => exact herr _
    | ok before =>
      dsimp only
      split
      · exact herr _
      refine brief_bind (fun warnings => ?_) (prompt_collectPreflightWarnings _ _)
      refine brief_bind (fun dry => ?_) (brief_ask rfl)
      cases dry with
      | error e => exact herr _
      | ok w =>
        refine brief_bind (fun after => ?_) (brief_ask rfl)
        cases after with
        | error e => exact herr _
        | ok after =>
          dsimp only
          split
          · exact herr _
          · exact brief_bind (fun _ => brief_pure _) (simple_walked compositional_prompt _ _ _)

end Handlers

/-! ## The two waits -/

section Waits

-- The last instant of the clock is not counted up to.
attribute [local irreducible] systemTimeMax

theorem slept_concat {tr : ApiTrace} {e : ApiEvent} (h : elapses e.call = 0) :
    slept elapses (tr ++ [e]) = slept elapses tr := by
  rw [slept_append]
  simp [slept, h]

theorem earliest_concat_eq {reading : ApiEvent → Option Nat} {tr : ApiTrace} {e : ApiEvent} (h : elapses e.call = 0)
    (hreads : reading e = none) : earliest elapses reading (tr ++ [e]) = earliest elapses reading tr := by
  rw [earliest_concat, h, hreads]
  simp

/-- **A rollout is polled until its deadline**, every two seconds. -/
theorem awaitRollout_ends (deadline start slept₀ : Nat) (kind ns name : String) (fuel : Nat) (tr : ApiTrace)
    (hsince : start + slept elapses tr ≤ earliest elapses systemReading tr + slept₀)
    (hslept : slept elapses tr ≤ slept₀ + (deadline - start) + 2000000000)
    (hfuel : deadline < earliest elapses systemReading tr + fuel * 2000000000) :
    (awaitRollout deadline kind ns name (fuel + 1)).EndsUnder KeepsTime
      (fun _ tr' => slept elapses tr' ≤ slept₀ + (deadline - start) + 2000000000) tr := by
  refine endsUnder_polling (fun fuel (_ : Unit) => awaitRollout deadline kind ns name fuel) ?_ fuel () tr hsince
    hslept hfuel
  intro fuel _ tr hslept hsleep
  refine (endsUnder_ask_bind _ _).2 (fun now hnow => ?_)
  have hread := earliest_read elapses systemReading rfl rfl hnow.1
  split
  · exact (slept_concat rfl).trans_le hslept
  split
  · exact (slept_concat rfl).trans_le hslept
  refine (endsUnder_ask_bind _ _).2 (fun workload _ => ?_)
  have hpolled : slept elapses (tr ++ [⟨.systemTimeNow, now⟩] ++ [⟨.getWorkload _ ns name, workload⟩]) =
      slept elapses tr := (slept_concat rfl).trans (slept_concat rfl)
  cases workload with
  | error e => exact hpolled.trans_le hslept
  | ok workload =>
    dsimp only
    split
    · exact hpolled.trans_le hslept
    refine (endsUnder_ask_bind _ _).2 (fun _ _ => hsleep () _ _ ?_ hpolled ?_ rfl)
    · exact (List.prefix_append _ _).trans (List.prefix_append _ _)
    · rw [earliest_concat_eq rfl rfl, hread]
      omega

/-- **Pods are polled until the deadline of a drain**, every five seconds. -/
theorem awaitDrained_ends (node sel : String) (force : Bool) (deadline start slept₀ : Nat) (fuel : Nat)
    (warnings remaining : List String) (tr : ApiTrace)
    (hsince : start + slept elapses tr ≤ earliest elapses instantReading tr + slept₀)
    (hslept : slept elapses tr ≤ slept₀ + (deadline - start) + 5000000000)
    (hfuel : deadline < earliest elapses instantReading tr + fuel * 5000000000) :
    (awaitDrained node sel force deadline (fuel + 1) warnings remaining).EndsUnder KeepsTime
      (fun _ tr' => slept elapses tr' ≤ slept₀ + (deadline - start) + 5000000000) tr := by
  refine endsUnder_polling (fun fuel (s : List String × List String) =>
    awaitDrained node sel force deadline fuel s.1 s.2) ?_ fuel (warnings, remaining) tr hsince hslept hfuel
  rintro fuel ⟨warnings, remaining⟩ tr hslept hsleep
  refine (endsUnder_ask_bind _ _).2 (fun podList _ => ?_)
  have hlisted : slept elapses (tr ++ [⟨.listPods sel, podList⟩]) = slept elapses tr := slept_concat rfl
  cases podList with
  | error e => exact hlisted.trans_le hslept
  | ok pods =>
    dsimp only
    split
    · exact hlisted.trans_le hslept
    split
    · exact hlisted.trans_le hslept
    refine (endsUnder_ask_bind _ _).2 (fun now hnow => ?_)
    have hread := earliest_read elapses instantReading rfl rfl hnow.2
    have hpolled : slept elapses (tr ++ [⟨.listPods sel, .ok pods⟩] ++ [⟨.instantNow, now⟩]) = slept elapses tr :=
      (slept_concat rfl).trans hlisted
    split
    · exact hpolled.trans_le hslept
    refine (endsUnder_ask_bind _ _).2 (fun _ _ => hsleep (_, _) _ _ ?_ hpolled ?_ rfl)
    · exact (List.prefix_append _ _).trans (List.prefix_append _ _)
    · rw [hread]
      omega

/-- The polls that suffice for every wait: a drain of an hour is polled every five seconds. -/
def enoughPolls : Nat := 722

theorem waitForRolloutCompletion_ends {fuel : Nat} (hfuel : enoughPolls ≤ fuel) (kind ns name : String) (tr : ApiTrace)
    (hslept : slept elapses tr = 0) {bound : Nat} (hbound : 122 * 1000000000 ≤ bound) :
    (waitForRolloutCompletion fuel kind ns name).EndsUnder KeepsTime
      (fun _ tr' => slept elapses tr' ≤ bound) tr := by
  have hnow : systemTimeNow.EndsUnder KeepsTime (fun now tr' =>
      earliest elapses systemReading tr' = now ∧ slept elapses tr' = slept elapses tr) tr :=
    fun _ hkeeps => ⟨earliest_read elapses systemReading rfl rfl hkeeps.1, slept_concat rfl⟩
  unfold waitForRolloutCompletion
  refine hnow.bind ?_
  rintro now tr' ⟨hread, hstarted⟩
  obtain ⟨polls, rfl⟩ : ∃ polls, fuel = polls + 1 := ⟨fuel - 1, by unfold enoughPolls at hfuel; omega⟩
  unfold enoughPolls at hfuel
  generalize hdeadline : now + 120 * 1000000000 = deadline
  split
  · exact (hstarted.trans hslept).trans_le (Nat.zero_le _)
  refine (awaitRollout_ends deadline now 0 kind ns name polls _ ?_ ?_ ?_).mono (fun _ tr' h => ?_)
  · omega
  · omega
  · rw [hread]
    omega
  · omega

theorem rolloutRestart_ends {fuel : Nat} (hfuel : enoughPolls ≤ fuel) (cfg : Config) (id : String)
    (spec : RolloutRestartSpec) {tr : ApiTrace} (hslept : slept elapses tr = 0) {bound : Nat}
    (hbound : 122 * 1000000000 ≤ bound) :
    (rolloutRestart fuel cfg id spec).EndsUnder KeepsTime (fun _ tr' => slept elapses tr' ≤ bound) tr := by
  have herr (msg : String) {tr : ApiTrace} (h : slept elapses tr = 0) :
      (commandError id spec.execution.mode msg).EndsUnder KeepsTime (fun _ tr' => slept elapses tr' ≤ bound) tr :=
    (commandError_walked compositional_prompt _ _ _).within (h.trans_le (Nat.zero_le _))
  refine Prompt.endsUnder_bind (ensureEffectivePolicyAllows_walked compositional_prompt _ _ _ _ _) hslept (fun gate tr₁ h₁ => ?_)
  cases gate with
  | error msg => exact herr _ h₁
  | ok e =>
    refine Prompt.endsUnder_bind (m := nowRfc3339) (brief_ask rfl) h₁ (fun restartAt tr₂ h₂ => ?_)
    refine Prompt.endsUnder_bind (simple_walked compositional_prompt _ _ _) h₂ (fun result tr₃ h₃ => ?_)
    refine Prompt.endsUnder_bind (applyRolloutRestartPatch_walked compositional_prompt _ _ _ _ _) h₃ (fun dry tr₄ h₄ => ?_)
    cases dry with
    | error msg => exact herr _ h₄
    | ok before =>
      dsimp only
      split
      · exact h₄.trans_le (Nat.zero_le _)
      refine Prompt.endsUnder_bind (applyRolloutRestartPatch_walked compositional_prompt _ _ _ _ _) h₄ (fun applied tr₅ h₅ => ?_)
      cases applied with
      | error msg => exact herr _ h₅
      | ok after =>
        have hwait := waitForRolloutCompletion_ends hfuel spec.target.kind spec.target.namespace_ spec.target.name tr₅ h₅
          hbound
        dsimp only
        refine hwait.bind ?_
        intro verified tr₆ h₆
        cases verified <;> exact h₆

theorem drainTimeoutDuration_le {spec : DrainNodeSpec} {secs : Nat} (h : drainTimeoutDuration spec = .ok secs) :
    secs ≤ drainNodeMaxTimeoutSeconds := by
  unfold drainTimeoutDuration at h
  dsimp only at h
  split_ifs at h with hzero hmax
  cases h
  omega

theorem drainTimeoutDuration_eq {spec : DrainNodeSpec} {secs : Nat} (h : drainTimeoutDuration spec = .ok secs) :
    secs = spec.timeoutSeconds.getD drainNodeDefaultTimeoutSeconds := by
  unfold drainTimeoutDuration at h
  dsimp only at h
  split_ifs at h
  exact (Except.ok.inj h).symm

theorem cordonAndEvict_ends {fuel : Nat} (hfuel : enoughPolls ≤ fuel) (id node sel : String) (force : Bool)
    {secs : Nat} (hsecs : secs ≤ drainNodeMaxTimeoutSeconds) (opts : Option DeleteOptions) (before : Bool)
    (classes : PodClasses) {tr : ApiTrace} (hslept : slept elapses tr = 0) {bound : Nat}
    (hbound : (secs + 5) * 1000000000 ≤ bound) :
    (cordonAndEvict fuel id node sel force secs opts before classes).EndsUnder KeepsTime
      (fun _ tr' => slept elapses tr' ≤ bound) tr := by
  have herr (msg : Option String) {tr : ApiTrace} (h : slept elapses tr ≤ bound) :
      (simple id .error msg).EndsUnder KeepsTime (fun _ tr' => slept elapses tr' ≤ bound) tr :=
    (simple_walked compositional_prompt _ _ _).within h
  refine Prompt.endsUnder_bind (m := patchNode node false cordonPatch) (brief_ask rfl) hslept (fun cordoned tr₁ h₁ => ?_)
  cases cordoned with
  | error e => exact herr _ (h₁.trans_le (Nat.zero_le _))
  | ok n =>
    refine Prompt.endsUnder_bind (evictPods_walked compositional_prompt _ _ _ _) h₁ (fun evictions tr₂ h₂ => ?_)
    cases evictions with
    | error msg => exact herr _ (h₂.trans_le (Nat.zero_le _))
    | ok evicted =>
      have hnow : instantNow.EndsUnder KeepsTime (fun now tr' =>
          earliest elapses instantReading tr' = now ∧ slept elapses tr' = slept elapses tr₂) tr₂ :=
        fun _ hkeeps => ⟨earliest_read elapses instantReading rfl rfl hkeeps.2, slept_concat rfl⟩
      refine hnow.bind ?_
      rintro start tr₃ ⟨hread, hstarted⟩
      obtain ⟨polls, rfl⟩ : ∃ polls, fuel = polls + 1 := ⟨fuel - 1, by unfold enoughPolls at hfuel; omega⟩
      unfold enoughPolls at hfuel
      unfold drainNodeMaxTimeoutSeconds at hsecs
      generalize hdeadline : start + secs * 1000000000 = deadline
      refine (awaitDrained_ends node sel force deadline start 0 polls _ _ _ ?_ ?_ ?_).bind (fun waited tr₄ h₄ => ?_)
      · omega
      · omega
      · rw [hread]
        omega
      · have hwaited : slept elapses tr₄ ≤ bound := by omega
        cases waited with
        | error msg => exact herr _ hwaited
        | ok p => exact ((simple_walked compositional_prompt _ _ _).within hwaited).bind (fun _ _ h => h)

end Waits

/-! ## Every command -/

def longestWait (cmd : Command) : Nat :=
  match cmd.kind with
  | "rollout_restart" => 122 * 1000000000
  | "drain_node" =>
    match parseSpec Decode.drainNodeSpec cmd with
    | .ok spec => (spec.timeoutSeconds.getD drainNodeDefaultTimeoutSeconds + 5) * 1000000000
    | .error _ => 0
  | _ => 0

section Commands

attribute [local irreducible] systemTimeMax

theorem drainNode_ends {fuel : Nat} (hfuel : enoughPolls ≤ fuel) (cfg : Config) (id : String) (spec : DrainNodeSpec)
    {tr : ApiTrace} (hslept : slept elapses tr = 0) {bound : Nat}
    (hbound : (spec.timeoutSeconds.getD drainNodeDefaultTimeoutSeconds + 5) * 1000000000 ≤ bound) :
    (drainNode fuel cfg id spec).EndsUnder KeepsTime (fun _ tr' => slept elapses tr' ≤ bound) tr := by
  have herr (msg : Option String) {tr : ApiTrace} (h : slept elapses tr = 0) :
      (simple id .error msg).EndsUnder KeepsTime (fun _ tr' => slept elapses tr' ≤ bound) tr :=
    (simple_walked compositional_prompt _ _ _).within (h.trans_le (Nat.zero_le _))
  unfold drainNode
  dsimp only
  split
  · exact herr _ hslept
  refine Prompt.endsUnder_bind (ensureClusterActionAllowed_walked compositional_prompt _ _) hslept (fun gate tr₁ h₁ => ?_)
  cases gate with
  | error msg => exact herr _ h₁
  | ok e =>
    dsimp only
    split
    · exact herr _ h₁
    rename_i secs hsecs
    split
    · exact herr _ h₁
    refine Prompt.endsUnder_bind (m := getNode _) (brief_ask rfl) h₁ (fun node tr₂ h₂ => ?_)
    cases node with
    | error e => exact herr _ h₂
    | ok node =>
      refine Prompt.endsUnder_bind (m := listPods _) (brief_ask rfl) h₂ (fun podList tr₃ h₃ => ?_)
      cases podList with
      | error e => exact herr _ h₃
      | ok pods =>
        dsimp only
        split
        · exact herr _ h₃
        have htimeout : secs = spec.timeoutSeconds.getD drainNodeDefaultTimeoutSeconds := drainTimeoutDuration_eq hsecs
        exact cordonAndEvict_ends hfuel _ _ _ _ (drainTimeoutDuration_le hsecs) _ _ _ h₃ (htimeout ▸ hbound)

theorem dispatch_ends {α : Type} {cmd : Command} {enabled : Bool} {off : String} {d : Decoder α}
    {handler : α → Exec CommandResult} {bound : Nat}
    (h : ∀ spec, parseSpec d cmd = .ok spec →
      (handler spec).EndsUnder KeepsTime (fun _ tr' => slept elapses tr' ≤ bound) []) :
    (dispatch enabled off d cmd handler).EndsUnder KeepsTime (fun _ tr' => slept elapses tr' ≤ bound) [] := by
  have hsimple : ∀ s msg, (simple cmd.id s msg).EndsUnder KeepsTime (fun _ tr' => slept elapses tr' ≤ bound) [] :=
    fun _ _ => (simple_walked compositional_prompt _ _ _).within (Nat.zero_le _)
  unfold dispatch
  split
  · exact hsimple _ _
  split
  · exact h _ ‹_›
  · exact hsimple _ _

-- What is known of these handlers is in their lemmas.
attribute [local irreducible] drainNode rolloutRestart getResourceYaml diagnosePostgresql

theorem executeInner_ends {env : Externals} (hdiagnose : ∀ cfg spec, (env.diagnose cfg spec).Brief (fun _ => True))
    {fuel : Nat} (hfuel : enoughPolls ≤ fuel) (cfg : Config) (cmd : Command) :
    (executeInner env fuel cfg cmd).EndsUnder KeepsTime (fun _ tr' => slept elapses tr' ≤ longestWait cmd) [] := by
  have hprompt {m : Exec CommandResult} (h : Prompt m) :
      m.EndsUnder KeepsTime (fun _ tr' => slept elapses tr' ≤ longestWait cmd) [] := h.within (Nat.zero_le _)
  unfold executeInner
  dsimp only
  split
  · exact dispatch_ends (fun spec _ => hprompt (getResourceYaml_walked compositional_prompt env cfg cmd.id spec))
  · exact dispatch_ends (fun spec _ => hprompt (prompt_diagnosePostgresql hdiagnose cfg cmd.id spec))
  · exact dispatch_ends (fun spec _ => hprompt (prompt_runWorkloadResources cfg cmd.id spec true))
  · exact dispatch_ends (fun spec _ => hprompt (prompt_runWorkloadResources cfg cmd.id spec false))
  · rename_i hkind
    have hbound : 122 * 1000000000 ≤ longestWait cmd := by simp [longestWait, hkind]
    exact dispatch_ends (fun spec _ => rolloutRestart_ends hfuel cfg cmd.id spec rfl hbound)
  · exact dispatch_ends (fun spec _ => hprompt (scaleWorkload_walked compositional_prompt cfg cmd.id spec))
  · rename_i hkind
    refine dispatch_ends (fun spec hparsed => drainNode_ends hfuel cfg cmd.id spec rfl ?_)
    simp [longestWait, hkind, hparsed]
  · exact dispatch_ends (fun spec _ => hprompt (selfUpdate_walked compositional_prompt cfg cmd.id spec))
  · exact dispatch_ends (fun spec _ => hprompt (prompt_updateAgent cfg cmd.id spec))
  · exact hprompt (simple_walked compositional_prompt _ _ _)

/-- **Every command is answered, in bounded time.**  Whatever the configuration, the command and the answers, so long as
both clocks go on and the diagnosis comes back: the command returns a result after so many polls, and has slept for two
minutes and one poll of a rollout, or for the timeout and one poll of a drain, at most; and not at all where its kind
does not wait. -/
theorem every_command_returns {env : Externals} (hdiagnose : ∀ cfg spec, (env.diagnose cfg spec).Brief (fun _ => True))
    {fuel : Nat} (hfuel : enoughPolls ≤ fuel) (cfg : Config) (cmd : Command) {o : ApiOracle}
    (ho : ∀ tr op, KeepsTime tr op (o tr op)) :
    ∃ result, ((executeInner env fuel cfg cmd).run o []).1 = some result ∧
      slept elapses ((executeInner env fuel cfg cmd).trace o) ≤ longestWait cmd :=
  run_endsUnder ho (executeInner_ends hdiagnose hfuel cfg cmd)

end Commands

/-- An API server on whose clocks only the time that is slept passes. -/
def steadyOracle (policies : List SentinellaHubActionPolicy) : ApiOracle := fun tr op =>
  match op with
  | .systemTimeNow => earliest elapses systemReading tr
  | .instantNow => earliest elapses instantReading tr
  | op => calmOracle 5 policies tr op

theorem keepsTime_steadyOracle (policies : List SentinellaHubActionPolicy) (tr : ApiTrace) (op : ApiCall) :
    KeepsTime tr op (steadyOracle policies tr op) := by
  constructor
  · intro t ht
    cases op <;> first | cases ht; done | exact (Option.some.inj ht).le
  · intro t ht
    cases op <;> first | cases ht; done | exact (Option.some.inj ht).le

def unreadyRestart : Command :=
  { id := "1", kind := "rollout_restart"
    spec := .obj [("execution", .obj [("mode", .str "execute")]),
      ("target", .obj [("kind", .str "Deployment"), ("namespace", .str "app"), ("name", .str "api")])] }

/-- The rollout of this restart is never ready. -/
theorem every_command_returns_restart : ∃ result,
    ((executeInner noExternals enoughPolls actingConfig unreadyRestart).run
      (steadyOracle [readyPolicy 0 ["rollout_restart"] ["Deployment"] ["app"]]) []).1 = some result ∧
    slept elapses ((executeInner noExternals enoughPolls actingConfig unreadyRestart).trace
      (steadyOracle [readyPolicy 0 ["rollout_restart"] ["Deployment"] ["app"]])) ≤ longestWait unreadyRestart :=
  have hdiagnose (cfg : Config) (spec : PostgresqlDiagnosticSpec) :
      (noExternals.diagnose cfg spec).Brief (fun _ => True) := trivial
  every_command_returns hdiagnose (Nat.le_refl _) actingConfig unreadyRestart (keepsTime_steadyOracle _)

end Executor
end HubAgent
