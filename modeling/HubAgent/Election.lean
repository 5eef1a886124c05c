import Mathlib.Logic.Function.Basic
import HubAgent.Environment
import HubAgent.Leader
import HubAgent.Lib.Transition
/-!
# Leaders of one lease (`leader.rs`, `collector_loop`)

Every pod of the agent runs the loop of the election and the loop that sends snapshots.  They meet in one Lease, and in
nothing else: two pods can be leaders at once, as the source says.  It says *briefly*; what holds in every run is that the
flag of one of the two is a leftover (`snapshots_by_one_leader`).

The lock is a parameter, of which only what is documented is known (`LeaseLock.Documented`): an attempt is decided at one
moment, by what the Lease holds at it, and a Lease that another pod holds is not granted before it has run out.  The pods
read one clock, in nanoseconds.  An attempt can fail before it was decided and after.
-/
namespace HubAgent
namespace Leader

open Transition (Steps)

/-! ## The pods and the Lease -/

variable {Pod : Type}

structure Lease (Pod : Type) where
  holder : Pod
  renewTime : Nat

/-- An attempt that returned, with the moment at which it was decided. -/
structure Answer extends Attempt where
  decidedAt : Nat

inductive Phase where
  | sleeping (wake : Nat)
  | asking
  | decided (result : LeaseLockResult) (decidedAt : Nat)

structure PodState where
  answers : List Answer := []
  phase : Phase := .sleeping 0
  sending : Bool := false

structure Agents (Pod : Type) where
  now : Nat
  lease : Option (Lease Pod)
  pods : Pod → PodState

inductive AgentEvent (Pod : Type) where
  | wait (nanos : Nat)
  | ask (pod : Pod)
  | decide (pod : Pod)
  | answer (pod : Pod)
  | fail (pod : Pod) (error : String)
  | skip (pod : Pod)
  | send (pod : Pod)
  | sent (pod : Pod)

/-- `LeaseLock::try_acquire_or_renew` at the moment at which it is decided: for a pod, at a time, by the Lease that is
there. -/
structure LeaseLock (Pod : Type) where
  tryAcquireOrRenew : Pod → Nat → Option (Lease Pod) → LeaseLockResult × Option (Lease Pod)

/-- **What is documented of the lock** with a ttl. -/
structure LeaseLock.Documented (lock : LeaseLock Pod) (leaseTtl : Duration) : Prop where
  /-- Who acquires the Lease holds it, renewed at that moment. -/
  acquires : ∀ pod now lease, (lock.tryAcquireOrRenew pod now lease).1 = .acquired →
    (lock.tryAcquireOrRenew pod now lease).2 = some ⟨pod, now⟩
  /-- Who does not leaves it as it is. -/
  leaves : ∀ pod now lease, (lock.tryAcquireOrRenew pod now lease).1 = .notAcquired →
    (lock.tryAcquireOrRenew pod now lease).2 = lease
  /-- What another pod holds is not acquired before it has run out. -/
  waits : ∀ pod now (lease : Lease Pod), lease.holder ≠ pod → now < lease.renewTime + leaseTtl.asNanos →
    (lock.tryAcquireOrRenew pod now (some lease)).1 = .notAcquired

section Step

variable [DecidableEq Pod] (lock : LeaseLock Pod) (leaseTtl : Duration)

/-- What the election has made of a pod. -/
def PodState.leader (pod : PodState) : LeaderState := runLeaderLoop leaseTtl (pod.answers.map Answer.toAttempt)

def PodState.take (pod : PodState) (a : Answer) : PodState :=
  { pod with
    answers := pod.answers ++ [a]
    phase := .sleeping (a.time + (turn leaseTtl (pod.leader leaseTtl) a.toAttempt).2) }

def Agents.set (c : Agents Pod) (i : Pod) (pod : PodState) : Agents Pod := { c with pods := Function.update c.pods i pod }

def next (c : Agents Pod) : AgentEvent Pod → Option (Agents Pod)
  | .wait nanos => some { c with now := c.now + nanos }
  | .ask i => match (c.pods i).phase with
    | .sleeping wake => if wake ≤ c.now then some (c.set i { c.pods i with phase := .asking }) else none
    | _ => none
  | .decide i => match (c.pods i).phase with
    | .asking =>
      let decision := lock.tryAcquireOrRenew i c.now c.lease
      some { c.set i { c.pods i with phase := .decided decision.1 c.now } with lease := decision.2 }
    | _ => none
  | .answer i => match (c.pods i).phase with
    | .decided result decidedAt => some (c.set i ((c.pods i).take leaseTtl ⟨⟨c.now, .ok result⟩, decidedAt⟩))
    | _ => none
  | .fail i error => match (c.pods i).phase with
    | .sleeping _ => none
    | _ => some (c.set i ((c.pods i).take leaseTtl ⟨⟨c.now, .error error⟩, c.now⟩))
  | .skip i =>
    if (c.pods i).sending = false ∧ ((c.pods i).leader leaseTtl).isLeader = false then some c else none
  | .send i =>
    if (c.pods i).sending = false ∧ ((c.pods i).leader leaseTtl).isLeader = true then
      some (c.set i { c.pods i with sending := true })
    else none
  | .sent i => if (c.pods i).sending = true then some (c.set i { c.pods i with sending := false }) else none

def AgentStep (c : Agents Pod) (e : AgentEvent Pod) (c' : Agents Pod) : Prop := next lock leaseTtl c e = some c'

end Step

/-- The pods as they start; there is no Lease yet, or one of earlier pods. -/
def started (now : Nat) (lease : Option (Lease Pod)) : Agents Pod := ⟨now, lease, fun _ => {}⟩

/-! ## What a pod was granted -/

/-- The lease was granted to the pod at this moment, whether it knows it yet or not. -/
def PodState.Granted (pod : PodState) (decidedAt : Nat) : Prop :=
  pod.phase = .decided .acquired decidedAt ∨ ∃ a ∈ pod.answers, a.Acquired ∧ a.decidedAt = decidedAt

/-- A grant is still on the Lease, or it had run out when the Lease was last taken. -/
def Covered (leaseTtl : Duration) (c : Agents Pod) (i : Pod) (decidedAt : Nat) : Prop :=
  ∃ lease, c.lease = some lease ∧ lease.renewTime ≤ c.now ∧
    (lease.holder = i ∧ decidedAt ≤ lease.renewTime ∨ decidedAt + leaseTtl.asNanos ≤ lease.renewTime)

def AllCovered (leaseTtl : Duration) (c : Agents Pod) : Prop :=
  ∀ i decidedAt, (c.pods i).Granted decidedAt → Covered leaseTtl c i decidedAt

section Grants

variable {lock : LeaseLock Pod} {leaseTtl : Duration} {c c' : Agents Pod} {pod : PodState} {i : Pod}

theorem granted_ask {decidedAt : Nat} (h : PodState.Granted { pod with phase := .asking } decidedAt) :
    pod.Granted decidedAt := by
  rcases h with hphase | hanswer
  · cases hphase
  · exact .inr hanswer

theorem granted_take {a : Answer} {decidedAt : Nat} (ha : a.Acquired → pod.Granted a.decidedAt)
    (h : (pod.take leaseTtl a).Granted decidedAt) : pod.Granted decidedAt := by
  rcases h with hphase | ⟨b, hb, hacquired, rfl⟩
  · cases hphase
  · rcases List.mem_append.1 hb with hold | hnew
    · exact .inr ⟨b, hold, hacquired, rfl⟩
    · obtain rfl := List.mem_singleton.1 hnew
      exact ha hacquired

theorem AllCovered.frame (h : AllCovered leaseTtl c) (hlease : c'.lease = c.lease) (hnow : c.now ≤ c'.now)
    (hpods : ∀ j decidedAt, (c'.pods j).Granted decidedAt → (c.pods j).Granted decidedAt) :
    AllCovered leaseTtl c' := by
  intro j decidedAt hgranted
  obtain ⟨lease, hc, hrenewed, hcovers⟩ := h j decidedAt (hpods j decidedAt hgranted)
  exact ⟨lease, hlease.trans hc, Nat.le_trans hrenewed hnow, hcovers⟩

variable [DecidableEq Pod]

@[simp] theorem set_pods_self : (c.set i pod).pods i = pod := by simp [Agents.set]

theorem set_pods_of_ne {j : Pod} (hj : j ≠ i) : (c.set i pod).pods j = c.pods j := by
  simp [Agents.set, hj]

theorem AllCovered.set (h : AllCovered leaseTtl c)
    (hpod : ∀ decidedAt, pod.Granted decidedAt → (c.pods i).Granted decidedAt) : AllCovered leaseTtl (c.set i pod) := by
  refine h.frame rfl (Nat.le_refl _) (fun j decidedAt hgranted => ?_)
  by_cases hj : j = i
  · subst hj
    rw [set_pods_self] at hgranted
    exact hpod decidedAt hgranted
  · rwa [set_pods_of_ne hj] at hgranted

/-- A decision that grants the Lease to a pod was made when it was that pod's, or nobody's, or had run out. -/
theorem LeaseLock.Documented.free (documented : lock.Documented leaseTtl) {now : Nat} {lease : Lease Pod}
    (h : (lock.tryAcquireOrRenew i now (some lease)).1 = .acquired) :
    lease.holder = i ∨ lease.renewTime + leaseTtl.asNanos ≤ now := by
  by_contra hheld
  rw [not_or, not_le] at hheld
  rw [documented.waits i now lease hheld.1 hheld.2] at h
  cases h

/-- **A decision keeps what is covered**: the Lease is taken over only when it ran out. -/
theorem AllCovered.decide (documented : lock.Documented leaseTtl) (h : AllCovered leaseTtl c) (i : Pod) :
    AllCovered leaseTtl { c.set i { c.pods i with
        phase := .decided (lock.tryAcquireOrRenew i c.now c.lease).1 c.now } with
      lease := (lock.tryAcquireOrRenew i c.now c.lease).2 } := by
  have hkept : ∀ j decidedAt, (c.pods j).Granted decidedAt → ∃ lease,
      (lock.tryAcquireOrRenew i c.now c.lease).2 = some lease ∧ lease.renewTime ≤ c.now ∧
        (lease.holder = j ∧ decidedAt ≤ lease.renewTime ∨ decidedAt + leaseTtl.asNanos ≤ lease.renewTime) := by
    intro j decidedAt hgranted
    obtain ⟨lease, hc, hrenewed, hcovers⟩ := h j decidedAt hgranted
    rw [hc]
    cases hresult : (lock.tryAcquireOrRenew i c.now (some lease)).1 with
    | notAcquired => exact ⟨lease, documented.leaves _ _ _ hresult, hrenewed, hcovers⟩
    | acquired =>
      refine ⟨_, documented.acquires _ _ _ hresult, Nat.le_refl _, ?_⟩
      rcases hcovers with ⟨hholder, hle⟩ | hout
      · rcases documented.free hresult with hown | hexpired
        · exact .inl ⟨hown.symm.trans hholder, Nat.le_trans hle hrenewed⟩
        · exact .inr (by dsimp only; omega)
      · exact .inr (Nat.le_trans hout hrenewed)
  intro j decidedAt hgranted
  by_cases hj : j = i
  · subst hj
    change ((c.set j _).pods j).Granted decidedAt at hgranted
    rw [set_pods_self] at hgranted
    rcases hgranted with hphase | hanswer
    · -- the grant of this very decision
      injection hphase with hresult hat
      subst hat
      exact ⟨_, documented.acquires _ _ _ hresult, Nat.le_refl _, .inl ⟨rfl, Nat.le_refl _⟩⟩
    · exact hkept j decidedAt (.inr hanswer)
  · change ((c.set i _).pods j).Granted decidedAt at hgranted
    rw [set_pods_of_ne hj] at hgranted
    exact hkept j decidedAt hgranted

/-- **Every step keeps what is covered.** -/
theorem allCovered_step (documented : lock.Documented leaseTtl) {e : AgentEvent Pod} (h : AllCovered leaseTtl c)
    (hstep : AgentStep lock leaseTtl c e c') : AllCovered leaseTtl c' := by
  unfold AgentStep at hstep
  cases e with
  | wait nanos =>
    cases hstep
    exact h.frame rfl (Nat.le_add_right _ _) (fun _ _ hgranted => hgranted)
  | ask i =>
    simp only [next] at hstep
    split at hstep
    · split_ifs at hstep
      cases hstep
      exact h.set (fun _ => granted_ask)
    · cases hstep
  | decide i =>
    simp only [next] at hstep
    split at hstep
    · cases hstep
      exact h.decide documented i
    · cases hstep
  | answer i =>
    simp only [next] at hstep
    split at hstep
    · rename_i result decidedAt hphase
      cases hstep
      refine h.set (fun _ => granted_take fun hacquired => ?_)
      obtain rfl : result = .acquired := Except.ok.inj hacquired
      exact .inl hphase
    · cases hstep
  | fail i error =>
    simp only [next] at hstep
    split at hstep
    · cases hstep
    · cases hstep
      exact h.set (fun _ => granted_take fun hacquired => by cases hacquired)
  | skip i =>
    simp only [next] at hstep
    split_ifs at hstep
    cases hstep
    exact h
  | send i =>
    simp only [next] at hstep
    split_ifs at hstep
    cases hstep
    exact h.set (fun _ hgranted => hgranted)
  | sent i =>
    simp only [next] at hstep
    split_ifs at hstep
    cases hstep
    exact h.set (fun _ hgranted => hgranted)

theorem allCovered_run (documented : lock.Documented leaseTtl) {now : Nat} {lease : Option (Lease Pod)}
    {es : List (AgentEvent Pod)} (hrun : Steps (AgentStep lock leaseTtl) (started now lease) es c) :
    AllCovered leaseTtl c := by
  have hstarted : AllCovered leaseTtl (started now lease : Agents Pod) := by
    rintro i decidedAt (hphase | ⟨a, ha, -⟩)
    · cases hphase
    · cases ha
  induction hrun with
  | refl => exact hstarted
  | snoc _ hlast ih => exact allCovered_step documented ih hlast

end Grants

/-! ## Two leaders -/

section Leaders

variable {leaseTtl : Duration} {c : Agents Pod} {i j : Pod}

/-- **The flag is a leftover**: the lease that set it has run out, and every attempt since has failed. -/
def Leftover (leaseTtl : Duration) (c : Agents Pod) (i : Pod) : Prop :=
  ∃ before a failures, (c.pods i).answers = before ++ a :: failures ∧ a.Acquired ∧ (∀ e ∈ failures, e.Failed) ∧
    a.decidedAt + leaseTtl.asNanos ≤ c.now

def IsLeader (leaseTtl : Duration) (c : Agents Pod) (i : Pod) : Prop := ((c.pods i).leader leaseTtl).isLeader = true

theorem exists_acquired (h : IsLeader leaseTtl c i) : ∃ before a failures,
    (c.pods i).answers = before ++ a :: failures ∧ a.Acquired ∧ ∀ e ∈ failures, e.Failed := by
  obtain ⟨before', a', failures', hsplit, hacquired, hfailed⟩ := (isLeader_iff _ _).1 h
  obtain ⟨before, rest, hanswers, -, hrest⟩ := List.map_eq_append_iff.1 hsplit
  obtain ⟨a, failures, rfl, rfl, rfl⟩ := List.map_eq_cons_iff.1 hrest
  exact ⟨before, a, failures, hanswers, hacquired, fun e he => hfailed _ (List.mem_map_of_mem he)⟩

/-- **Of two leaders, one is a leftover.** -/
theorem leftover_of_two (h : AllCovered leaseTtl c) (hne : i ≠ j) (hi : IsLeader leaseTtl c i)
    (hj : IsLeader leaseTtl c j) : Leftover leaseTtl c i ∨ Leftover leaseTtl c j := by
  obtain ⟨before, a, failures, ha, hacquired, hfailed⟩ := exists_acquired hi
  obtain ⟨before', b, failures', hb, hacquired', hfailed'⟩ := exists_acquired hj
  obtain ⟨lease, hlease, hrenewed, hcovers⟩ := h i a.decidedAt (.inr ⟨a, by simp [ha], hacquired, rfl⟩)
  obtain ⟨lease', hlease', -, hcovers'⟩ := h j b.decidedAt (.inr ⟨b, by simp [hb], hacquired', rfl⟩)
  obtain rfl : lease = lease' := Option.some.inj (hlease.symm.trans hlease')
  rcases hcovers with ⟨hholder, -⟩ | hout
  · rcases hcovers' with ⟨hholder', -⟩ | hout'
    · exact absurd (hholder.symm.trans hholder') hne
    · exact .inr ⟨before', b, failures', hb, hacquired', hfailed', Nat.le_trans hout' hrenewed⟩
  · exact .inl ⟨before, a, failures, ha, hacquired, hfailed, Nat.le_trans hout hrenewed⟩

/-- **Snapshots come from the leader, or from what is left of one.**  Any number of pods elect each other over one Lease,
by any lock that does what is documented, attempts failing before or after they were decided, and whatever Lease there was
before.  In every run, a pod that begins a snapshot has its flag set; and where another pod has its flag set too, the lease
of one of the two has run out, and all its attempts since then have failed. -/
theorem snapshots_by_one_leader [DecidableEq Pod] {lock : LeaseLock Pod} (documented : lock.Documented leaseTtl)
    {now : Nat} {lease : Option (Lease Pod)} {es pre post : List (AgentEvent Pod)} {c : Agents Pod}
    (hrun : Steps (AgentStep lock leaseTtl) (started now lease) es c)
    (hs : es = pre ++ .send i :: post) : ∃ c₁, Steps (AgentStep lock leaseTtl) (started now lease) pre c₁ ∧
      IsLeader leaseTtl c₁ i ∧ ∀ j, j ≠ i → IsLeader leaseTtl c₁ j → Leftover leaseTtl c₁ i ∨ Leftover leaseTtl c₁ j := by
  obtain ⟨c₁, c₂, hpre, hstep⟩ := hrun.split_at hs
  have hflag : IsLeader leaseTtl c₁ i := by
    unfold AgentStep at hstep
    simp only [next] at hstep
    split_ifs at hstep with hsends
    exact hsends.2
  exact ⟨c₁, hpre, hflag, fun j hne hj => leftover_of_two (allCovered_run documented hpre) hne.symm hflag hj⟩

end Leaders

/-- A lock that renews what the pod holds, and acquires what has run out. -/
def plainLock [DecidableEq Pod] (leaseTtl : Duration) : LeaseLock Pod where
  tryAcquireOrRenew pod now
    | none => (.acquired, some ⟨pod, now⟩)
    | some lease =>
      if lease.holder = pod ∨ lease.renewTime + leaseTtl.asNanos ≤ now then (.acquired, some ⟨pod, now⟩)
      else (.notAcquired, some lease)

theorem plainLock_documented [DecidableEq Pod] (leaseTtl : Duration) :
    (plainLock leaseTtl : LeaseLock Pod).Documented leaseTtl where
  acquires pod now lease h := by
    cases lease with
    | none => rfl
    | some lease =>
      unfold plainLock at h ⊢
      dsimp only at h ⊢
      split_ifs at h ⊢
      rfl
  leaves pod now lease h := by
    cases lease with
    | none => cases h
    | some lease =>
      unfold plainLock at h ⊢
      dsimp only at h ⊢
      split_ifs at h ⊢
      rfl
  waits pod now lease hholder hnow := by
    have hheld : ¬ (lease.holder = pod ∨ lease.renewTime + leaseTtl.asNanos ≤ now) := by
      rw [not_or, not_le]
      exact ⟨hholder, hnow⟩
    unfold plainLock
    dsimp only
    rw [if_neg hheld]

/-- One pod acquires the lease and then only fails; another takes it over when it has run out. -/
def takenOver : List (AgentEvent Bool) :=
  [.ask true, .decide true, .answer true, .send true, .sent true, .wait 30000000000, .ask true, .fail true "timed out",
    .ask false, .decide false, .answer false]

def thirtySecs : Duration := .fromSecs 30

/-- Both are leaders then. -/
theorem snapshots_by_one_leader_taken_over : ∃ c c₁,
    Steps (AgentStep (plainLock thirtySecs) thirtySecs) (started 0 none) (takenOver ++ [.send false]) c ∧
      (IsLeader thirtySecs c₁ true ∧ IsLeader thirtySecs c₁ false) ∧
      (Leftover thirtySecs c₁ false ∨ Leftover thirtySecs c₁ true) := by
  have hrun : ∃ c, (takenOver ++ [AgentEvent.send false]).foldlM (next (plainLock thirtySecs) thirtySecs) (started 0 none) = some c := ⟨_, rfl⟩
  obtain ⟨c, hrun⟩ := hrun
  have hsteps : Steps (AgentStep (plainLock thirtySecs) thirtySecs) (started 0 none) (takenOver ++ [.send false]) c :=
    Transition.steps_iff_foldlM.2 hrun
  obtain ⟨c₁, hpre, hfalse, hone⟩ := snapshots_by_one_leader (plainLock_documented thirtySecs) hsteps rfl
  have htrue : (takenOver.foldlM (next (plainLock thirtySecs) thirtySecs) (started 0 none)).map
      (fun c => ((c.pods true).leader thirtySecs).isLeader) = some true := rfl
  rw [Transition.steps_iff_foldlM.1 hpre] at htrue
  have hleader : IsLeader thirtySecs c₁ true := Option.some.inj htrue
  exact ⟨c, c₁, hsteps, ⟨hleader, hfalse⟩, hone true (by decide) hleader⟩

end Leader
end HubAgent
