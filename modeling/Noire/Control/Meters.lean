import Noire.Control.Service
import Noire.Lib.Mutex

namespace Noire

/-!
# Meters run while they are subscribed to

The set of subscribers, the `meter_monitoring` flag and the engine's meters must agree, though
three methods change them, any of the changes may fail, and clients go away without a word.

* `Meters` — what the subscribers' lock protects, and `NoireService.metersMutex`, the lock as
  one of the service's system;
* `MetersAgree` — the flag is the engine's state; subscribers have meters; meters without a
  subscriber are left by a prune that failed to stop them;
* `subscribeMeters_owned` and its siblings — each method leaves them so;
* `meters_agree` — so they agree in every run, whenever the lock is free, and a prune that finds
  no subscriber stops meters that still run.

The lock makes each method atomic as far as meters go, except that the three methods let go of
nothing else: a call for meters is made inside the lock, and so are the changes of the set and of
the flag.  So the invariant is one of the mutex library, with `MetersAgree` as what the lock
protects, and each method is proved alone, from where it takes the lock to where it lets it go,
with every failure on the way.  The run law is then the library's.
-/

open Lib

/-- The engine's meters: `set_meter_monitoring` sets them, or fails and leaves them. -/
structure AudioEngine.MetersContract {ε : Type} (engine : AudioEngine ε)
    (monitoring : ε → Bool) : Prop where
  ok : ∀ enabled e e', engine.setMeterMonitoring enabled e = (.ok (), e') →
    monitoring e' = enabled
  error : ∀ enabled e error e', engine.setMeterMonitoring enabled e = (.error error, e') →
    monitoring e' = monitoring e

/-- What the subscribers' lock protects: the set and the flag, the engine's meters, and the last
    call that was made for them. -/
structure Meters where
  subscribers : List String
  flag : Bool
  monitoring : Bool
  last : Option MeterCall

/-- The calls that subscribe, unsubscribe and prune. -/
def ServiceCall.isMeters : ServiceCall → Bool
  | .pruneMeterSubscribers _ | .subscribeMeters _ | .unsubscribeMeters _ => true
  | _ => false

/-- A prune has failed to stop the meters. -/
def MeterCall.FailedPrune (call : MeterCall) : Prop :=
  (∃ bus, call.call = .pruneMeterSubscribers bus) ∧ call.enabled = false ∧ call.accepted = false

/-- The set, the flag and the engine agree. -/
structure MetersAgree (meters : Meters) : Prop where
  flag : meters.flag = meters.monitoring
  metered : meters.subscribers ≠ [] → meters.flag = true
  idle : meters.subscribers = [] → meters.flag = true →
    ∃ call, meters.last = some call ∧ call.FailedPrune

/-- Meters that run for a subscriber. -/
theorem MetersAgree.running {subscribers : List String} {last : Option MeterCall}
    (h : subscribers ≠ []) : MetersAgree ⟨subscribers, true, true, last⟩ :=
  ⟨rfl, fun _ => rfl, fun hnil => absurd hnil h⟩

/-- Meters that do not run, for nobody. -/
theorem MetersAgree.stopped (last : Option MeterCall) : MetersAgree ⟨[], false, false, last⟩ :=
  ⟨rfl, fun h => absurd rfl h, fun _ h => absurd h Bool.false_ne_true⟩

/-- Without the flag nobody has subscribed. -/
theorem MetersAgree.nil_of_not {subscribers : List String} {monitoring : Bool}
    {last : Option MeterCall} (h : MetersAgree ⟨subscribers, false, monitoring, last⟩) :
    subscribers = [] :=
  by_contra fun hne => absurd (h.metered hne) Bool.false_ne_true

namespace NoireService

variable {ε : Type} {engine : AudioEngine ε} {monitoring : ε → Bool}

/-- What the lock protects. -/
def meters (monitoring : ε → Bool) (s : NoireService ε) : Meters where
  subscribers := s.meterSubscribers
  flag := s.meterMonitoring
  monitoring := monitoring s.daemon.engine
  last := s.lastMeterCall

/-- The part an operation plays.  The three methods hold the daemon only for its meters. -/
def metersRole : ServiceOp → Mutex.Role
  | .lockSubscribers => .acquire
  | .unlockSubscribers => .release
  | .emit _ | .shouldEmit _ _ => .free
  | .locked (.setMeterMonitoring _) => .guarded
  | .locked _ => .never
  | _ => .guarded

/-- What an operation under the lock returns and leaves. -/
def metersEffect (call : ServiceCall) : (o : ServiceOp) → Meters → o.Res → Meters → Prop
  | .locked (.setMeterMonitoring enabled), v, (result : Except ControlError Unit), v' =>
    v' = { v with
      monitoring := if result.isOk then enabled else v.monitoring
      last := some { call, enabled, accepted := result.isOk } }
  | .subscribers, v, r, v' => r = v.subscribers ∧ v' = v
  | .insertSubscriber caller, v, r, v' => r = decide (caller ∉ v.subscribers) ∧
    v' = { v with subscribers := v.subscribers.insert caller }
  | .removeSubscriber caller, v, r, v' => r = decide (caller ∈ v.subscribers) ∧
    v' = { v with subscribers := v.subscribers.filter (· ≠ caller) }
  | .noSubscribers, v, r, v' => r = v.subscribers.isEmpty ∧ v' = v
  | .loadMonitoring, v, r, v' => r = v.flag ∧ v' = v
  | .storeMonitoring enabled, v, _, v' => v' = { v with flag := enabled }
  | _, _, _, _ => True

/-- The daemon's meters are set, or left where that fails. -/
theorem setMeterMonitoring_monitoring (contract : engine.MetersContract monitoring)
    (d : Daemon ε) (enabled : Bool) :
    monitoring (Daemon.setMeterMonitoring engine d enabled).2.engine =
      if (Daemon.setMeterMonitoring engine d enabled).1.isOk then enabled
      else monitoring d.engine := by
  unfold Daemon.setMeterMonitoring
  split
  · rename_i error e hmeters
    exact contract.error _ _ _ _ hmeters
  · rename_i e hmeters
    exact contract.ok _ _ _ hmeters

/-- What asking for meters leaves. -/
theorem setMeterMonitoring_effect (contract : engine.MetersContract monitoring) (i : ℕ)
    (call : ServiceCall) (enabled : Bool) (s : NoireService ε) :
    metersEffect call (.locked (.setMeterMonitoring enabled)) (meters monitoring s)
      (exec engine i call (.locked (.setMeterMonitoring enabled)) s).1
      (meters monitoring (exec engine i call (.locked (.setMeterMonitoring enabled)) s).2) := by
  have hset := setMeterMonitoring_monitoring contract s.daemon enabled
  simp only [exec, Daemon.hold, metersEffect, meters]
  rw [hset]
  rfl

/-- The subscribers' lock. -/
def metersMutex (contract : engine.MetersContract monitoring) :
    Mutex (system engine) Meters where
  holder := (·.subscribersLock)
  view := meters monitoring
  role := metersRole
  effect := metersEffect
  acquires i call o s hrole hready := by
    cases o with
    | lockSubscribers => exact ⟨by simpa [system, ready] using hready, rfl, rfl⟩
    | locked hold => cases hold <;> cases hrole
    | _ => cases hrole
  releases i call o s hrole := by
    cases o with
    | unlockSubscribers => exact ⟨rfl, rfl⟩
    | locked hold => cases hold <;> cases hrole
    | _ => cases hrole
  guards i call o s hrole := by
    cases o with
    | locked hold =>
      cases hold with
      | setMeterMonitoring enabled =>
        exact ⟨rfl, setMeterMonitoring_effect contract i call enabled s⟩
      | _ => cases hrole
    | lockSubscribers | unlockSubscribers | emit | shouldEmit => cases hrole
    | subscribers => exact ⟨rfl, rfl, rfl⟩
    | insertSubscriber caller => exact ⟨rfl, rfl, rfl⟩
    | removeSubscriber caller => exact ⟨rfl, rfl, rfl⟩
    | noSubscribers => exact ⟨rfl, rfl, rfl⟩
    | loadMonitoring => exact ⟨rfl, rfl, rfl⟩
    | storeMonitoring enabled => exact ⟨rfl, rfl⟩
  frees i call o s hrole := by
    cases o with
    | emit | shouldEmit => exact ⟨rfl, rfl⟩
    | locked hold => cases hold <;> cases hrole
    | _ => cases hrole

/-! ## The methods

Inside the lock a method may break the agreement, and has to restore it before the end, also where
the engine refuses.
-/

variable (contract : engine.MetersContract monitoring) {call : ServiceCall}

/-- A method, started without the lock, keeps the meters in order and ends without it. -/
def KeepsMeters {α : Type} (call : ServiceCall) (p : ServiceProg α) : Prop :=
  (metersMutex contract).Owned MetersAgree call p none fun _ held => held = none

/-- `subscribe_meters`. -/
theorem subscribeMeters_owned (sender : Option String) :
    KeepsMeters contract call (subscribeMeters sender) := by
  unfold subscribeMeters
  split
  · exact rfl
  rename_i caller _
  refine .acquire rfl fun _ ⟨subscribers, flag, running, last⟩ hv =>
    .guarded rfl fun inserted v₁ h => ?_
  obtain ⟨rfl, rfl⟩ := h
  by_cases hmem : caller ∈ subscribers
  · -- a subscriber already: nothing changes
    simp only [hmem, not_true_eq_false, decide_false, List.insert_of_mem]
    exact .release rfl hv fun _ => rfl
  have hinsert : subscribers.insert caller ≠ [] := List.ne_nil_of_mem List.mem_insert_self
  simp only [hmem, not_false_eq_true, decide_true]
  obtain rfl : flag = running := hv.flag
  refine .guarded rfl fun loaded v₂ h => ?_
  obtain ⟨rfl, rfl⟩ := h
  cases loaded with
  | true =>
    -- the meters run for another subscriber
    exact .release rfl (.running hinsert) fun _ => rfl
  | false =>
    refine .guarded rfl fun (result : Except ControlError Unit) v₃ h => ?_
    subst h
    cases result with
    | error error =>
      -- the first subscriber is taken out again
      refine .guarded rfl fun _ v₄ h => ?_
      obtain ⟨-, rfl⟩ := h
      refine .release rfl ?_ fun _ => rfl
      obtain rfl := hv.nil_of_not
      simpa [List.insert, Except.isOk, Except.toBool] using MetersAgree.stopped _
    | ok =>
      refine .guarded rfl fun _ v₄ h => ?_
      subst h
      exact .release rfl (.running hinsert) fun _ => rfl

/-- `unsubscribe_meters`. -/
theorem unsubscribeMeters_owned (sender : Option String) :
    KeepsMeters contract call (unsubscribeMeters sender) := by
  unfold unsubscribeMeters
  split
  · exact rfl
  rename_i caller _
  refine .acquire rfl fun _ ⟨subscribers, flag, running, last⟩ hv =>
    .guarded rfl fun removed v₁ h => ?_
  obtain ⟨rfl, rfl⟩ := h
  by_cases hmem : caller ∈ subscribers
  swap
  · -- no subscriber: nothing changes
    have hsame : subscribers.filter (· ≠ caller) = subscribers :=
      List.filter_eq_self.mpr fun name hname => by
        simpa using fun heq : name = caller => hmem (heq ▸ hname)
    simp only [hmem, decide_false, hsame]
    exact .release rfl hv fun _ => rfl
  -- A subscriber has meters.
  obtain rfl : flag = true := hv.metered (List.ne_nil_of_mem hmem)
  obtain rfl : true = running := hv.flag
  simp only [hmem, decide_true]
  refine .guarded rfl fun lastSubscriber v₂ h => ?_
  obtain ⟨rfl, rfl⟩ := h
  dsimp only
  cases hrest : subscribers.filter (· ≠ caller) with
  | cons name rest =>
    exact .release rfl (.running (List.cons_ne_nil _ _)) fun _ => rfl
  | nil =>
    refine .guarded rfl fun loaded v₃ h => ?_
    obtain ⟨rfl, rfl⟩ := h
    refine .guarded rfl fun (result : Except ControlError Unit) v₄ h => ?_
    subst h
    cases result with
    | error error =>
      -- the last subscriber is put back
      refine .guarded rfl fun _ v₅ h => ?_
      obtain ⟨-, rfl⟩ := h
      exact .release rfl (.running (List.ne_nil_of_mem List.mem_insert_self)) fun _ => rfl
    | ok =>
      refine .guarded rfl fun _ v₅ h => ?_
      subst h
      exact .release rfl (.stopped _) fun _ => rfl

/-- Removing subscribers changes nothing else, and adds none. -/
theorem removeSubscribers_owned {Q : Unit → Option Meters → Prop} (removed : List String)
    (v : Meters)
    (hQ : ∀ subscribers, (v.subscribers = [] → subscribers = []) →
      Q () (some { v with subscribers })) :
    (metersMutex contract).Owned MetersAgree call (removeSubscribers removed) (some v) Q := by
  induction removed generalizing v with
  | nil => exact hQ v.subscribers id
  | cons subscriber rest ih =>
    refine .guarded rfl fun _ v₁ h => ?_
    obtain ⟨-, rfl⟩ := h
    refine ih _ fun subscribers hnil => hQ subscribers fun hv => hnil ?_
    dsimp only
    rw [hv]
    rfl

/-- Pruning, once the bus has answered. -/
theorem pruned_owned {bus : Bus} (hcall : call = .pruneMeterSubscribers bus)
    (removed : List String) : KeepsMeters contract call (pruned removed) := by
  refine .acquire rfl fun _ ⟨subscribers, flag, running, last⟩ hv =>
    .bind (removeSubscribers_owned contract removed _ fun rest hrest => ?_)
  obtain rfl : flag = running := hv.flag
  refine .guarded rfl fun idle v₁ h => ?_
  obtain ⟨rfl, rfl⟩ := h
  dsimp only
  cases rest with
  | cons name rest =>
    -- somebody is left, who has meters
    obtain rfl : flag = true := hv.metered fun hnil => List.cons_ne_nil _ _ (hrest hnil)
    exact .release rfl (.running (List.cons_ne_nil _ _)) fun _ => rfl
  | nil =>
    refine .guarded rfl fun loaded v₂ h => ?_
    obtain ⟨rfl, rfl⟩ := h
    cases loaded with
    | false => exact .release rfl (.stopped _) fun _ => rfl
    | true =>
      refine .guarded rfl fun (result : Except ControlError Unit) v₃ h => ?_
      subst h
      cases result with
      | error error =>
        -- the meters run on, and the next prune tries again
        exact .release rfl ⟨rfl, fun _ => rfl, fun _ _ => ⟨_, rfl, ⟨bus, hcall⟩, rfl, rfl⟩⟩
          fun _ => rfl
      | ok =>
        refine .guarded rfl fun _ v₄ h => ?_
        subst h
        exact .release rfl (.stopped _) fun _ => rfl

/-- `prune_meter_subscribers`. -/
theorem pruneMeterSubscribers_owned (bus : Bus) :
    KeepsMeters contract (.pruneMeterSubscribers bus) (pruneMeterSubscribers bus) := by
  refine .acquire rfl fun _ v hv => .guarded rfl fun (subscribers : List String) v₁ h => ?_
  obtain ⟨-, rfl⟩ := h
  refine .release rfl hv fun _ => ?_
  change (metersMutex contract).Owned _ _ (if subscribers = [] then _ else _) _ _
  split
  · exact pruned_owned contract rfl _
  split
  · exact pruned_owned contract rfl _
  · exact rfl

/-! ## Pruning tries again

A second discipline, on one call: what a prune does once it has found nobody.
-/

/-- Whether there are subscribers was looked at; if there are none, the flag was; and if that was
    set, the meters were to be stopped. -/
def Retries (done : List ((o : ServiceOp) × o.Res)) : Prop :=
  ∃ idle : Bool, ⟨.noSubscribers, idle⟩ ∈ done ∧
    (idle = true → ∃ flag : Bool, ⟨.loadMonitoring, flag⟩ ∈ done ∧
      (flag = true → ∃ result, ⟨.locked (.setMeterMonitoring false), result⟩ ∈ done))

/-- The end of a prune does so. -/
theorem pruned_retries {removed : List String} {done : List ((o : ServiceOp) × o.Res)}
    (h : (pruned removed).Returns done ()) : Retries done := by
  unfold pruned at h
  obtain ⟨_, locked, rfl, h₁⟩ := Prog.Returns.of_call h
  obtain ⟨removals, removed, _, rfl, -, h₂⟩ := Prog.Returns.of_bind h₁
  obtain ⟨(idle : Bool), looked, rfl, h₃⟩ := Prog.Returns.of_call h₂
  refine ⟨idle, by simp, fun hidle => ?_⟩
  subst hidle
  obtain ⟨(flag : Bool), loaded, rfl, h₄⟩ := Prog.Returns.of_call h₃
  refine ⟨flag, by simp, fun hflag => ?_⟩
  subst hflag
  obtain ⟨result, stopped, rfl, -⟩ := Prog.Returns.of_call h₄
  exact ⟨result, by simp⟩

/-- **A prune that finds no subscriber** does so. -/
theorem pruneMeterSubscribers_retries {bus : Bus} {done : List ((o : ServiceOp) × o.Res)}
    (h : (pruneMeterSubscribers bus).Returns done ())
    (hnone : ⟨.subscribers, []⟩ ∈ done) : Retries done := by
  have hmore : ∀ calls rest, Retries rest → Retries (calls ++ rest) :=
    fun calls rest ⟨idle, hidle, hrest⟩ => ⟨idle, List.mem_append_right _ hidle, fun h =>
      let ⟨flag, hflag, hstop⟩ := hrest h
      ⟨flag, List.mem_append_right _ hflag, fun h =>
        let ⟨result, hresult⟩ := hstop h
        ⟨result, List.mem_append_right _ hresult⟩⟩⟩
  unfold pruneMeterSubscribers at h
  obtain ⟨copied, rest, subscribers, rfl, hcopy, hrest⟩ := Prog.Returns.of_bind h
  refine hmore copied rest ?_
  split at hrest
  · exact pruned_retries hrest
  rename_i hsome
  split at hrest
  · exact pruned_retries hrest
  · -- the bus cannot be asked: then there was a subscriber
    obtain ⟨rfl, -⟩ := Prog.Returns.of_pure hrest
    unfold copySubscribers at hcopy
    obtain ⟨_, locked, rfl, h₁⟩ := Prog.Returns.of_call hcopy
    obtain ⟨found, read, rfl, h₂⟩ := Prog.Returns.of_call h₁
    obtain ⟨_, unlocked, rfl, h₃⟩ := Prog.Returns.of_call h₂
    obtain ⟨rfl, rfl⟩ := Prog.Returns.of_pure h₃
    simp only [List.append_nil, List.mem_cons, List.not_mem_nil, or_false] at hnone
    rcases hnone with heq | heq | heq
    · cases heq
    · cases heq
      exact absurd rfl hsome
    · cases heq

/-! ## Runs

The mutex of the subscribers protects the set, the flag, and whether the engine meters.
-/

/-- Only these three methods are called. -/
def MetersOnly (_ : Pool ServiceOp.Res ServiceCall (NoireService ε))
    (event : Pool.Event ServiceCall) : Prop :=
  match event with
  | .start call => call.isMeters = true
  | .advance _ => True

/-- **Meters and subscribers agree.** In every run of subscriptions, their ends and prunes, over
    an engine that starts without meters: whenever the subscribers' lock is free, the flag is the
    engine's state, whoever has subscribed has meters, and if nobody has and they run, the last
    call for meters was a prune's and failed; and a prune that finds no subscriber looks again
    and stops meters that run. -/
theorem meters_agree {engine : AudioEngine ε} {monitoring : ε → Bool} {d : Daemon ε}
    {events : List (Pool.Event ServiceCall)}
    {p : Pool ServiceOp.Res ServiceCall (NoireService ε)}
    (contract : engine.MetersContract monitoring) (hoff : monitoring d.engine = false)
    (run : Served engine MetersOnly d events p) :
    (p.shared.subscribersLock = none → MetersAgree (meters monitoring p.shared)) ∧
      ∀ task ∈ p.tasks, (∃ bus, task.call = .pruneMeterSubscribers bus) →
        task.completed = true → ⟨.subscribers, []⟩ ∈ task.done → Retries task.done := by
  constructor
  · -- every method is owned, so the lock protects what it has to
    refine Mutex.protects (M := metersMutex contract) (fun p call hcall => ?_) rfl ?_ run
    · have hmeters : call.isMeters = true := hcall
      cases call with
      | pruneMeterSubscribers bus => exact pruneMeterSubscribers_owned contract bus
      | subscribeMeters sender => exact .bind (subscribeMeters_owned contract sender)
      | unsubscribeMeters sender => exact .bind (unsubscribeMeters_owned contract sender)
      | _ => cases hmeters
    · change MetersAgree ⟨[], false, monitoring d.engine, none⟩
      rw [hoff]
      exact .stopped _
  · intro task htask ⟨bus, hcall⟩ hcompleted hnone
    obtain ⟨i, hi⟩ := List.mem_iff_getElem?.mp htask
    -- A completed prune has run to its end, and the end is where it tries again.
    have hrest : task.rest.Returns [] () := by
      unfold Pool.Task.completed at hcompleted
      split at hcompleted
      · rename_i hpure
        rw [hpure]
        exact .pure ()
      · cases hcompleted
    have hreturns := run.returns hi hrest
    rw [hcall, List.append_nil] at hreturns
    exact pruneMeterSubscribers_retries hreturns hnone

/-- An engine whose meters can be started and not stopped: its state is whether they run. -/
def stuckMeters : AudioEngine Bool where
  apply := fun _ e => (.ok {}, e)
  retry := fun _ e => (.ok {}, e)
  observe := fun previous e => (.ok previous, e)
  setMeterMonitoring := fun enabled e =>
    if enabled then (.ok (), true)
    else (.error ⟨"audio-meter-unavailable", "stuck", "Retry.", true⟩, e)
  inputs := fun e => (.ok [], e)

theorem stuckMeters_contract : stuckMeters.MetersContract id := by
  constructor
  · intro enabled e e' h
    cases enabled <;> simp_all [stuckMeters]
  · intro enabled e error e' h
    cases enabled <;> simp_all [stuckMeters]

/-- A daemon over such an engine. -/
def metersOff : Daemon Bool where
  config := {}
  writable := true
  revision := 1
  deviceRevision := 0
  devices := []
  engine := false
  observation := {}
  lastError := none

/-- A client subscribes and goes away; the prune that finds it gone cannot stop the meters. -/
theorem meters_agree_stuck :
    ∃ p : Pool ServiceOp.Res ServiceCall (NoireService Bool),
      p.shared.meterSubscribers = [] ∧ p.shared.meterMonitoring = true ∧
        ∃ call, p.shared.lastMeterCall = some call ∧ call.FailedPrune := by
  let events : List (Pool.Event ServiceCall) :=
    [.start (.subscribeMeters (some ":1.7")), .advance 0, .advance 0, .advance 0, .advance 0,
      .advance 0, .advance 0,
      .start (.pruneMeterSubscribers { nameHasOwner := fun _ => some false }), .advance 1,
      .advance 1, .advance 1, .advance 1, .advance 1, .advance 1, .advance 1, .advance 1,
      .advance 1]
  obtain ⟨p, hp, hfree, hnone, hflag⟩ :
      ∃ p, events.foldlM (Pool.step (system stuckMeters)) ⟨new metersOff, []⟩ = some p ∧
        p.shared.subscribersLock = none ∧ p.shared.meterSubscribers = [] ∧
        p.shared.meterMonitoring = true := ⟨_, rfl, rfl, rfl, rfl⟩
  have hfold : Served stuckMeters Free metersOff events p :=
    Run.of_foldlM _ (fun _ _ _ hstep => ⟨trivial, hstep⟩) hp
  have run : Served stuckMeters MetersOnly metersOff events p :=
    hfold.of_inputs (by simp [events, MetersOnly, ServiceCall.isMeters])
  exact ⟨p, hnone, hflag, ((meters_agree stuckMeters_contract rfl run).1 hfree).idle hnone hflag⟩

end NoireService

end Noire
