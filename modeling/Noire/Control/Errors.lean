import Noire.Control.Service
import Noire.Lib.Limiter
import Mathlib.Data.List.Perm.Subperm

namespace Noire

/-!
# Failures are told, and not too often

A client whose request fails is answered, and all clients are told by a signal, unless they were
told of a failure of the same kind just before.

* `ControlError.event` / `errorEvents` — the kinds of failures, fewer than the limiter has room for;
* `shouldEmit_last` / `shouldEmit_keys` — the limiter of the service is one of `Lib.Limited`;
* `Telling` / `telling` — how far a call is with telling of its failure, as a discipline;
  `program_telling`: every call keeps to it;
* `ErrorsTold` — who is told of what; `errors_told`: it holds in every run, however calls and ticks
  of the monitor interleave.

Two accounts are kept and tied together.  Each call runs a small automaton (`Telling`): a request is
answered, the limiter is asked about the failure, clients are told.  `program_telling` says that
every method follows it, so what a call has done can be read off how far it is (`Account`).  Beside
it, `Recorded` accounts for the service: what the limiter remembers of an event is the last time it
let one through, and every signal of a failure was let through by one call.

Methods that have nothing to do with a failure are `Mute`, and are dealt with once.  An operation of
a run is then one of four: it is silent, answers, asks, or tells.
-/

open Lib

/-! ## The limiter

The limiter lets nothing new through when it is full.  There are fewer kinds of failures than
places, so with only these in it there is always room, and it decides by the time alone.
-/

/-- The event that an error is logged as. -/
def ControlError.event (error : ControlError) : String := (publicError error 0).1

/-- The events of `public_error`. -/
def errorEvents : List String :=
  ["control.conflict", "control.invalid", "audio.unavailable", "config.persistence",
    "config.rollback-failed", "config.read-only", "systemd.manager"]

theorem ControlError.event_mem (error : ControlError) : error.event ∈ errorEvents := by
  cases error <;> simp [errorEvents, event, publicError]

theorem publicError_event (error : ControlError) (unixMillis : ℕ) :
    (publicError error unixMillis).1 = error.event := by
  cases error <;> rfl

namespace EventRateLimiter

variable {limiter : EventRateLimiter} {event : String} {now : ℕ}

/-- When an event was last emitted. -/
def latest (limiter : EventRateLimiter) (event : String) : Option ℕ := limiter.last.lookup event

theorem lookup_entry (last : List (String × ℕ)) (key event : String) (time : ℕ) :
    ((key, time) :: last).lookup event = if event = key then some time else last.lookup event := by
  rw [List.lookup_cons]
  by_cases h : event = key
  · rw [if_pos h, h, beq_self_eq_true]
  · rw [if_neg h, beq_eq_false_iff_ne.mpr h]

/-- Replacing the time of one event replaces no other. -/
theorem lookup_replaced (last : List (String × ℕ)) (event other : String) (now : ℕ) :
    (last.map fun entry => if entry.1 = event then (event, now) else entry).lookup other =
      if other = event then (last.lookup event).map fun _ => now else last.lookup other := by
  induction last with
  | nil => simp
  | cons entry last ih =>
    obtain ⟨key, time⟩ := entry
    rw [List.map_cons, lookup_entry, lookup_entry]
    by_cases hkey : key = event
    · subst hkey
      rw [if_pos rfl, if_pos rfl, lookup_entry, ih]
      by_cases hother : other = key
      · simp [hother]
      · simp [hother]
    · rw [if_neg hkey, if_neg (Ne.symm hkey), lookup_entry, ih]
      by_cases hother : other = event
      · subst hother
        simp [Ne.symm hkey]
      · simp [hother]

/-- **With room, the limiter lets an event through where its interval has passed**, and then
    remembers the time. -/
theorem shouldEmit_last (hinterval : 0 < limiter.interval)
    (hroom : limiter.last.length < maxEventKeys) (event : String) (now : ℕ) :
    (limiter.shouldEmit event now).1 = due limiter.interval (limiter.latest event) now ∧
      (limiter.shouldEmit event now).2.latest =
        if due limiter.interval (limiter.latest event) now then
          Function.update limiter.latest event (some now) else limiter.latest := by
  unfold shouldEmit
  cases hlast : limiter.last.lookup event with
  -- The event is new, and there is room for it.
  | none =>
    have hdue : due limiter.interval (limiter.latest event) now = true := by
      unfold latest
      rw [hlast]
      rfl
    rw [hdue]
    dsimp only
    rw [if_neg (Nat.not_le.mpr hroom), if_pos rfl]
    refine ⟨rfl, funext fun other => ?_⟩
    rw [Function.update_apply]
    exact lookup_entry limiter.last event other now
  | some previous =>
    have hlatest : limiter.latest event = some previous := hlast
    rw [hlatest]
    dsimp only
    by_cases hclose : now - previous < limiter.interval
    · -- the interval has not passed: nothing is remembered
      have hdue : due limiter.interval (some previous) now = false :=
        decide_eq_false (by omega)
      rw [if_pos hclose, hdue, if_neg Bool.false_ne_true]
      exact ⟨rfl, rfl⟩
    · -- it has: the time of the event is replaced, and no other
      have hdue : due limiter.interval (some previous) now = true := decide_eq_true (by omega)
      rw [if_neg hclose, hdue, if_pos rfl]
      refine ⟨rfl, funext fun other => ?_⟩
      rw [Function.update_apply]
      refine (lookup_replaced limiter.last event other now).trans ?_
      rw [hlast]
      rfl

/-- The events that it remembers are those before, and this one. -/
theorem shouldEmit_keys (h : (limiter.last.map Prod.fst).Nodup) (event : String) (now : ℕ) :
    ((limiter.shouldEmit event now).2.last.map Prod.fst).Nodup ∧
      ∀ key ∈ (limiter.shouldEmit event now).2.last.map Prod.fst,
        key = event ∨ key ∈ limiter.last.map Prod.fst := by
  unfold shouldEmit
  cases hlast : limiter.last.lookup event with
  | none =>
    dsimp only
    split
    · exact ⟨h, fun _ => .inr⟩
    · -- a new key is none of the old ones
      have hnew : event ∉ limiter.last.map Prod.fst := fun hmem => by
        obtain ⟨entry, hentry, rfl⟩ := List.mem_map.mp hmem
        exact absurd (List.lookup_eq_none_iff.mp hlast entry hentry) (by simp)
      exact ⟨List.nodup_cons.mpr ⟨hnew, h⟩, fun _ => List.mem_cons.mp⟩
  | some previous =>
    dsimp only
    split
    · exact ⟨h, fun _ => .inr⟩
    · -- the time of a key is replaced in place
      have hkeys : (limiter.last.map fun entry =>
          if entry.1 = event then (event, now) else entry).map Prod.fst =
          limiter.last.map Prod.fst := by
        rw [List.map_map]
        refine List.map_congr_left fun entry _ => ?_
        by_cases hkey : entry.1 = event
        · simp [hkey]
        · simp [hkey]
      rw [hkeys]
      exact ⟨h, fun _ => .inr⟩

theorem shouldEmit_interval (limiter : EventRateLimiter) (event : String) (now : ℕ) :
    (limiter.shouldEmit event now).2.interval = limiter.interval := by
  unfold shouldEmit
  split <;> split <;> rfl

end EventRateLimiter

/-! ## How far a call is with telling

The programs of the service are walked through once, with the rules for sequencing and for holding
the lock.
-/

/-- What a call has to tell. -/
inductive Telling
  /-- Nothing. -/
  | quiet
  /-- The daemon has refused its request. -/
  | failed (error : ControlError)
  /-- The limiter was asked about it. -/
  | asked (error : ControlError) (emitting : Bool)
  /-- Clients were told. -/
  | told (error : ControlError)

/-- Nothing is left to tell. -/
def Telling.Settled : Telling → Prop
  | .quiet | .asked _ false | .told _ => True
  | .failed _ | .asked _ true => False

/-- A call asks the limiter once, about the failure that it was answered with, and tells of it if it
    is let through. -/
def telling : Discipline ServiceOp.Res Telling where
  allowed o s := match o with
    | .shouldEmit event _ => ∃ error, s = .failed error ∧ event = error.event
    | .emit (.errorRaised info) =>
      ∃ error unixMillis, s = .asked error true ∧ info = (publicError error unixMillis).2
    | .locked (.request _ _) => s = .quiet
    | _ => True
  possible _ _ _ := True
  next o r s := match o, r, s with
    | .locked (.request _ _), .error error, .quiet => .failed error
    | .shouldEmit _ _, emitting, .failed error => .asked error emitting
    | .emit (.errorRaised _), _, .asked error true => .told error
    | _, _, s => s
  idle _ := False

/-- An operation that has to do with no failure. -/
def ServiceOp.isMute : ServiceOp → Bool
  | .shouldEmit _ _ | .emit (.errorRaised _) | .locked (.request _ _) => false
  | _ => true

/-- A signal of a failure. -/
def Signal.isError : Signal → Bool
  | .errorRaised _ => true
  | _ => false

/-- The operation tells all clients of a failure. -/
def ServiceOp.raisesError : ServiceOp → Bool
  | .emit (.errorRaised _) => true
  | _ => false

/-- One of these operations does. -/
def raisesError (done : List ((o : ServiceOp) × o.Res)) : Bool := done.any (·.1.raisesError)

@[simp] theorem raisesError_snoc (done : List ((o : ServiceOp) × o.Res)) (o : ServiceOp)
    (r : o.Res) : raisesError (done ++ [⟨o, r⟩]) = (raisesError done || o.raisesError) := by
  simp [raisesError]

/-- The failure there is to tell of. -/
def Telling.error : Telling → Option ControlError
  | .quiet => none
  | .failed error | .asked error _ | .told error => some error

/-- What the limiter has answered. -/
def Telling.answer : Telling → Option (String × Bool)
  | .quiet | .failed _ => none
  | .asked error emitting => some (error.event, emitting)
  | .told error => some (error.event, true)

/-- Clients were told. -/
def Telling.isTold : Telling → Bool
  | .told _ => true
  | _ => false

/-- What a call has done before it is as far as that. -/
structure Telling.Account (s : Telling) (done : List ((o : ServiceOp) × o.Res)) : Prop where
  refused : ∀ error, (∃ r env, ⟨.locked (.request r env), .error error⟩ ∈ done) ↔
    s.error = some error
  asked : ∀ event emitting, (∃ now, ⟨.shouldEmit event now, emitting⟩ ∈ done) ↔
    s.answer = some (event, emitting)
  raised : ∀ info, ⟨.emit (.errorRaised info), ()⟩ ∈ done →
    ∃ error unixMillis, s = .told error ∧ info = (publicError error unixMillis).2
  told : ∀ error, s = .told error →
    ∃ unixMillis, ⟨.emit (.errorRaised (publicError error unixMillis).2), ()⟩ ∈ done
  once : raisesError done = s.isTold

namespace NoireService

variable {α β : Type}

theorem mute_allowed {o : ServiceOp} (ho : o.isMute = true) (s : Telling) :
    telling.allowed o s := by
  cases o with
  | shouldEmit => cases ho
  | emit signal => cases signal with
    | errorRaised => cases ho
    | _ => trivial
  | locked hold => cases hold with
    | request => cases ho
    | _ => trivial
  | _ => trivial

theorem mute_next {o : ServiceOp} (ho : o.isMute = true) (r : o.Res) (s : Telling) :
    telling.next o r s = s := by
  cases o with
  | shouldEmit => cases ho
  | emit signal => cases signal with
    | errorRaised => cases ho
    | _ => rfl
  | locked hold => cases hold with
    | request => cases ho
    | _ => rfl
  | _ => rfl

/-- A program that has to do with no failure. -/
def Mute (p : ServiceProg α) : Prop :=
  ∀ s (Q : α → Telling → Prop), (∀ a, Q a s) → p.Obeys telling Q s

theorem Mute.pure (a : α) : Mute (Pure.pure a) := fun _ _ h => h a

theorem Mute.bind {p : ServiceProg α} {f : α → ServiceProg β} (hp : Mute p)
    (hf : ∀ a, Mute (f a)) : Mute (p >>= f) :=
  fun s Q h => .bind (hp s _ fun a => hf a s Q h)

theorem Mute.call {o : ServiceOp} (ho : o.isMute = true) : Mute (Prog.call o) := by
  intro s Q h
  refine ⟨mute_allowed ho s, fun r _ => ?_⟩
  rw [mute_next ho]
  exact h r

theorem Mute.ifThen {p : ServiceProg Unit} (condition : Bool) (hp : Mute p) :
    Mute (ifThen condition p) := by
  cases condition with
  | false => exact .pure ()
  | true => exact hp

theorem Mute.andThen {p : ServiceProg Bool} (first : Bool) (hp : Mute p) :
    Mute (andThen first p) := by
  cases first with
  | false => exact .pure _
  | true => exact hp

theorem copySubscribers_mute : Mute copySubscribers :=
  (Mute.call rfl).bind fun _ => (Mute.call rfl).bind fun _ => (Mute.call rfl).bind fun _ => .pure _

theorem removeSubscribers_mute (removed : List String) : Mute (removeSubscribers removed) := by
  induction removed with
  | nil => exact .pure ()
  | cons subscriber rest ih => exact (Mute.call rfl).bind fun _ => ih

theorem pruned_mute (removed : List String) : Mute (pruned removed) := by
  refine (Mute.call rfl).bind fun _ => (removeSubscribers_mute removed).bind fun _ =>
    (Mute.call rfl).bind fun idle => (Mute.andThen idle (.call rfl)).bind fun stopping => ?_
  refine (Mute.andThen stopping ?_).bind fun stopped =>
    (Mute.ifThen stopped (.call rfl)).bind fun _ => .call rfl
  exact (Mute.call rfl).bind fun _ => .pure _

theorem pruneMeterSubscribers_mute (bus : Bus) : Mute (pruneMeterSubscribers bus) := by
  refine copySubscribers_mute.bind fun subscribers => ?_
  split
  · exact pruned_mute _
  split
  · exact pruned_mute _
  · exact .pure ()

theorem metersChanged_mute (bus : Bus) (metrics : Metrics) (subscribers : List String) :
    Mute (metersChanged bus metrics subscribers) := by
  induction subscribers with
  | nil => exact .pure ()
  | cons subscriber rest ih => exact (Mute.ifThen _ (.call rfl)).bind fun _ => ih

/-- A tick of the monitor finds no failure of a request. -/
theorem monitorTick_mute (pruneTick : ℕ) (env : ServiceEnv) : Mute (monitorTick pruneTick env) :=
  (Mute.call rfl).bind fun _ => (Mute.ifThen _ (.call rfl)).bind fun _ =>
    (Mute.ifThen _ (.call rfl)).bind fun _ =>
    (Mute.ifThen _ (pruneMeterSubscribers_mute env.bus)).bind fun _ =>
    copySubscribers_mute.bind fun _ => Mute.bind (metersChanged_mute _ _ _) fun _ => .pure _

theorem getSnapshot_mute (env : ServiceEnv) : Mute (getSnapshot env) :=
  (Mute.call rfl).bind fun _ => (Mute.ifThen _ (.call rfl)).bind fun _ => .pure _

theorem listInputs_mute : Mute listInputs := by
  refine (Mute.call rfl).bind fun result => ?_
  split
  · exact .pure _
  · exact (Mute.ifThen _ (.call rfl)).bind fun _ => .pure _

/-- A failure to start the meters is told to the client only. -/
theorem subscribeMeters_mute (sender : Option String) : Mute (subscribeMeters sender) := by
  unfold subscribeMeters
  split
  · exact .pure _
  refine (Mute.call rfl).bind fun _ => (Mute.call rfl).bind fun inserted =>
    (Mute.andThen inserted (.call rfl)).bind fun monitoring => ?_
  split
  · refine (Mute.call rfl).bind fun result => ?_
    split
    · exact (Mute.call rfl).bind fun _ => (Mute.call rfl).bind fun _ => .pure _
    · exact (Mute.call rfl).bind fun _ => (Mute.call rfl).bind fun _ => .pure _
  · exact (Mute.call rfl).bind fun _ => .pure _

theorem unsubscribeMeters_mute (sender : Option String) : Mute (unsubscribeMeters sender) := by
  unfold unsubscribeMeters
  split
  · exact .pure _
  refine (Mute.call rfl).bind fun _ => (Mute.call rfl).bind fun removed =>
    (Mute.andThen removed (.call rfl)).bind fun lastSubscriber =>
    (Mute.andThen lastSubscriber (.call rfl)).bind fun stopping => ?_
  split
  · refine (Mute.call rfl).bind fun result => ?_
    split
    · exact (Mute.call rfl).bind fun _ => (Mute.call rfl).bind fun _ => .pure _
    · exact (Mute.call rfl).bind fun _ => (Mute.call rfl).bind fun _ => .pure _
  · exact (Mute.call rfl).bind fun _ => .pure _

/-- A request tells of its failure, unless the limiter holds it back. -/
theorem request_telling (r : DaemonRequest) (env : ServiceEnv) :
    (request r env >>= fun _ => (pure () : ServiceProg Unit)).Obeys telling
      (fun _ s => s.Settled) .quiet := by
  refine .bind (.call rfl fun result _ => ?_)
  cases (result : Except ControlError Snapshot) with
  | ok snapshot => exact ⟨trivial, fun _ _ => trivial⟩
  | error error =>
    refine ⟨⟨error, rfl, publicError_event error env.unixMillis⟩, fun emitting _ => ?_⟩
    cases (emitting : Bool) with
    | false => exact trivial
    | true => exact ⟨⟨error, env.unixMillis, rfl, rfl⟩, fun _ _ => trivial⟩

/-- **Every call** keeps to it. -/
theorem program_telling (call : ServiceCall) :
    call.program.Obeys telling (fun _ s => s.Settled) .quiet := by
  have hmute : ∀ {α : Type} {p : ServiceProg α}, Mute p →
      (p >>= fun _ => (pure () : ServiceProg Unit)).Obeys telling (fun _ s => s.Settled) .quiet :=
    fun hp => (hp.bind fun _ => .pure ()) _ _ fun _ => trivial
  -- Most calls have no failure to tell of; the requests share one lemma.
  cases call with
  | monitorTick pruneTick env => exact hmute (monitorTick_mute pruneTick env)
  | pruneMeterSubscribers bus => exact pruneMeterSubscribers_mute bus _ _ fun _ => trivial
  | getSnapshot env => exact hmute (getSnapshot_mute env)
  | listInputs => exact hmute listInputs_mute
  | getStartWithNoiseReduction => exact hmute (.call rfl)
  | diagnostics env => exact hmute (.call rfl)
  | subscribeMeters sender => exact hmute (subscribeMeters_mute sender)
  | unsubscribeMeters sender => exact hmute (unsubscribeMeters_mute sender)
  | stateRevision => exact hmute (.call rfl)
  | deviceRevision => exact hmute (.call rfl)
  -- A name that is none is refused before any request is made.
  | setLatencyProfile profile expected env =>
    show (setLatencyProfile profile expected env >>= fun _ => pure ()).Obeys telling _ _
    unfold setLatencyProfile
    split
    · exact request_telling ..
    · exact request_telling ..
    · exact trivial
  | setFailMode mode expected env =>
    show (setFailMode mode expected env >>= fun _ => pure ()).Obeys telling _ _
    unfold setFailMode
    split
    · exact request_telling ..
    · exact request_telling ..
    · exact trivial
  | _ => exact request_telling ..

end NoireService

/-! ## What a call has done

The state of the automaton determines what is among the operations of the call so far.
-/

namespace Telling

variable {s : Telling} {done : List ((o : ServiceOp) × o.Res)}

/-- What is there after an operation and is another was there before it. -/
theorem mem_before {performed new : (o : ServiceOp) × o.Res} (h : performed ≠ new) :
    performed ∈ done ++ [new] ↔ performed ∈ done := by
  rw [List.mem_append, List.mem_singleton]
  exact ⟨fun hor => hor.resolve_right h, .inl⟩

theorem Account.start : Account .quiet [] := by
  refine ⟨fun _ => ?_, fun _ _ => ?_, fun _ h => absurd h List.not_mem_nil, nofun, rfl⟩
  · simp [error]
  · simp [answer]

/-- An operation that has to do with no failure adds nothing. -/
theorem Account.mute (h : s.Account done) {o : ServiceOp} (ho : o.isMute = true) (r : o.Res) :
    s.Account (done ++ [⟨o, r⟩]) := by
  -- Nothing that the account speaks of is mute.
  have hmem : ∀ {performed : (o : ServiceOp) × o.Res}, performed.1.isMute = false →
      (performed ∈ done ++ [⟨o, r⟩] ↔ performed ∈ done) := by
    refine fun hperformed => mem_before fun heq => ?_
    rw [heq] at hperformed
    exact Bool.noConfusion (hperformed.symm.trans ho)
  have hraises : o.raisesError = false := by
    cases o with
    | emit signal => cases signal with
      | errorRaised => cases ho
      | _ => rfl
    | _ => rfl
  refine ⟨fun error => ?_, fun event emitting => ?_, fun info hinfo => h.raised info ?_,
    fun error herror => ?_, ?_⟩
  · rw [← h.refused]
    exact exists_congr fun _ => exists_congr fun _ => hmem rfl
  · rw [← h.asked]
    exact exists_congr fun _ => hmem rfl
  · exact (hmem rfl).mp hinfo
  · obtain ⟨unixMillis, hraised⟩ := h.told error herror
    exact ⟨unixMillis, (hmem rfl).mpr hraised⟩
  · refine (raisesError_snoc ..).trans ?_
    rw [hraises, Bool.or_false]
    exact h.once

/-- The limiter is asked about the failure. -/
theorem Account.ask {error : ControlError} (h : Account (.failed error) done) (now : ℕ)
    (emitting : Bool) :
    Account (.asked error emitting) (done ++ [⟨.shouldEmit error.event now, emitting⟩]) := by
  -- Nothing was asked before.
  have hnone := h.asked
  refine ⟨fun error' => ?_, fun event emitting' => ?_, fun info hinfo => ?_, nofun, ?_⟩
  · rw [show (Telling.asked error emitting).error = (Telling.failed error).error from rfl,
      ← h.refused]
    exact exists_congr fun _ => exists_congr fun _ => mem_before (by rintro ⟨⟩)
  · simp only [answer, reduceCtorEq, iff_false, not_exists] at hnone
    simp only [List.mem_append, List.mem_singleton, hnone, false_or, answer, Option.some.injEq,
      Prod.mk.injEq]
    constructor
    · rintro ⟨_, ⟨⟩⟩
      exact ⟨rfl, rfl⟩
    · rintro ⟨rfl, rfl⟩
      exact ⟨now, rfl⟩
  · obtain ⟨_, _, hstate, -⟩ := h.raised info ((mem_before (by rintro ⟨⟩)).mp hinfo)
    cases hstate
  · refine (raisesError_snoc ..).trans ?_
    rw [h.once]
    rfl

/-- Clients are told of it. -/
theorem Account.tell {error : ControlError} (h : Account (.asked error true) done)
    (unixMillis : ℕ) :
    Account (.told error)
      (done ++ [⟨.emit (.errorRaised (publicError error unixMillis).2), ()⟩]) := by
  refine ⟨fun error' => ?_, fun event emitting => ?_, fun info hinfo => ?_, fun error' herror => ?_,
    ?_⟩
  · rw [show (Telling.told error).error = (Telling.asked error true).error from rfl, ← h.refused]
    exact exists_congr fun _ => exists_congr fun _ => mem_before (by rintro ⟨⟩)
  · rw [show (Telling.told error).answer = (Telling.asked error true).answer from rfl, ← h.asked]
    exact exists_congr fun _ => mem_before (by rintro ⟨⟩)
  · rcases List.mem_append.mp hinfo with hinfo | hinfo
    · obtain ⟨_, _, hstate, -⟩ := h.raised info hinfo
      cases hstate
    · cases List.mem_singleton.mp hinfo
      exact ⟨error, unixMillis, rfl, rfl⟩
  · cases herror
    exact ⟨unixMillis, List.mem_append_right _ List.mem_cons_self⟩
  · refine (raisesError_snoc ..).trans ?_
    rw [h.once]
    rfl

/-- The daemon answers a request. -/
theorem Account.request (h : Account .quiet done) (r : DaemonRequest) (env : ControlEnv)
    (result : Except ControlError Snapshot) :
    (telling.next (.locked (.request r env)) result .quiet).Account
      (done ++ [⟨.locked (.request r env), result⟩]) := by
  -- Nothing was refused before, since a call makes one request.
  have hnone := h.refused
  simp only [error, reduceCtorEq, iff_false, not_exists] at hnone
  cases result with
  | ok snapshot =>
    refine ⟨fun error => ?_, fun event emitting => ?_, fun info hinfo => ?_, nofun, ?_⟩
    · show _ ↔ Telling.quiet.error = some error
      rw [← h.refused]
      exact exists_congr fun _ => exists_congr fun _ => mem_before (by rintro ⟨⟩)
    · show _ ↔ Telling.quiet.answer = some _
      rw [← h.asked]
      exact exists_congr fun _ => mem_before (by rintro ⟨⟩)
    · exact h.raised info ((mem_before (by rintro ⟨⟩)).mp hinfo)
    · refine (raisesError_snoc ..).trans ?_
      rw [h.once]
      rfl
  -- The refusal is the only one, and it is not told yet.
  | error error =>
    refine ⟨fun error' => ?_, fun event emitting => ?_, fun info hinfo => ?_, nofun, ?_⟩
    · show _ ↔ some error = some error'
      simp only [List.mem_append, List.mem_singleton, hnone, false_or, Option.some.injEq]
      constructor
      · rintro ⟨_, _, ⟨⟩⟩
        rfl
      · rintro rfl
        exact ⟨r, env, rfl⟩
    · show _ ↔ Telling.quiet.answer = some _
      rw [← h.asked]
      exact exists_congr fun _ => mem_before (by rintro ⟨⟩)
    · obtain ⟨_, _, hstate, -⟩ := h.raised info ((mem_before (by rintro ⟨⟩)).mp hinfo)
      cases hstate
    · refine (raisesError_snoc ..).trans ?_
      rw [h.once]
      rfl

/-- **An operation** that is allowed leads to what the call has done then. -/
theorem Account.step (h : s.Account done) {o : ServiceOp} (ho : telling.allowed o s) (r : o.Res) :
    (telling.next o r s).Account (done ++ [⟨o, r⟩]) := by
  by_cases hmute : o.isMute = true
  · rw [NoireService.mute_next hmute]
    exact h.mute hmute r
  cases o with
  -- Each operation that is not mute is one step of telling.
  | shouldEmit event now =>
    obtain ⟨error, rfl, rfl⟩ := ho
    exact h.ask now r
  | emit signal => cases signal with
    | errorRaised info =>
      obtain ⟨error, unixMillis, rfl, rfl⟩ := ho
      exact h.tell unixMillis
    | _ => exact absurd rfl hmute
  | locked hold => cases hold with
    | request request env =>
      obtain rfl : s = .quiet := ho
      exact h.request request env r
    | _ => exact absurd rfl hmute
  | _ => exact absurd rfl hmute

/-- **What a call has done** is told by how far it is. -/
theorem Account.of_kept (h : telling.Kept .quiet done) :
    (telling.after .quiet done).Account done := by
  have hrun : ∀ (s : Telling) (before done : List ((o : ServiceOp) × o.Res)), s.Account before →
      telling.Kept s done → (telling.after s done).Account (before ++ done) := by
    intro s before done
    induction done generalizing s before with
    | nil => exact fun h _ => by rwa [List.append_nil]
    | cons performed done ih =>
      intro h hkept
      have hnext := ih _ _ (h.step hkept.1 performed.2) hkept.2
      rwa [List.append_assoc] at hnext
  exact hrun .quiet [] done .start h

end Telling

/-! ## Runs

A step performs one operation of one call.  The other calls keep their accounts, and the service's
account grows by what the operation is.
-/

namespace NoireService

variable {ε : Type} {engine : AudioEngine ε} {d : Daemon ε}
  {C : Pool ServiceOp.Res ServiceCall (NoireService ε) → Pool.Event ServiceCall → Prop}
  {events : List (Pool.Event ServiceCall)} {p : Pool ServiceOp.Res ServiceCall (NoireService ε)}

/-- The daemon has refused the request of this call, one whose failure goes through `publish`: what
    `list_inputs` and `subscribe_meters` answer, and a name that is no profile or mode, is told to
    the caller only. -/
def Refused (p : Pool ServiceOp.Res ServiceCall (NoireService ε)) (i : ℕ) (error : ControlError) :
    Prop :=
  ∃ r env, p.Did i ⟨.locked (.request r env), .error error⟩

/-- The call has asked the limiter, which has answered so. -/
def Asked (p : Pool ServiceOp.Res ServiceCall (NoireService ε)) (i : ℕ) (event : String) (now : ℕ)
    (emitting : Bool) : Prop :=
  p.Did i ⟨.shouldEmit event now, emitting⟩

/-- The call has told all clients. -/
def Raised (p : Pool ServiceOp.Res ServiceCall (NoireService ε)) (i : ℕ) (info : ErrorInfo) :
    Prop :=
  p.Did i ⟨.emit (.errorRaised info), ()⟩

/-- A call is as far as its program was when it had done what the call has done. -/
theorem served_account (run : Served engine C d events p) {i : ℕ}
    {task : Pool.Task ServiceOp.Res ServiceCall} (htask : p.tasks[i]? = some task) :
    (telling.after .quiet task.done).Account task.done ∧
      task.rest.Obeys telling (fun _ s => s.Settled) (telling.after .quiet task.done) := by
  obtain ⟨hkept, hrest⟩ := (program_telling task.call).performs (run.performs htask)
    (.of_forall fun _ _ _ => trivial)
  exact ⟨.of_kept hkept, hrest⟩

/-- What the service remembers accounts for what its calls have done. -/
structure Recorded (p : Pool ServiceOp.Res ServiceCall (NoireService ε)) : Prop where
  interval : p.shared.errorLimiter.interval = 5000
  keys : (p.shared.errorLimiter.last.map Prod.fst).Nodup
  known : ∀ key ∈ p.shared.errorLimiter.last.map Prod.fst, key ∈ errorEvents
  limited : Limited 5000 p.shared.errorLimiter.latest (Asked p)
  signalled : ∀ info, .errorRaised info ∈ p.shared.signals → ∃ i, Raised p i info
  counted : p.shared.signals.countP Signal.isError =
    p.tasks.countP (raisesError ·.done)

theorem Recorded.start (d : Daemon ε) :
    Recorded (⟨new d, []⟩ : Pool ServiceOp.Res ServiceCall _) where
  interval := rfl
  keys := List.nodup_nil
  known _ hkey := absurd hkey List.not_mem_nil
  limited := .start fun _ _ _ _ h => by
    obtain ⟨_, hnone, -⟩ := h
    cases hnone
  signalled _ hinfo := absurd hinfo List.not_mem_nil
  counted := rfl

/-- The limiter never runs out of room. -/
theorem Recorded.room (h : Recorded p) : p.shared.errorLimiter.last.length < maxEventKeys := by
  have hle := (List.subperm_of_subset h.keys h.known).length_le
  rw [List.length_map] at hle
  exact Nat.lt_of_le_of_lt hle (by decide)

/-- A call that starts has done nothing. -/
theorem Recorded.started (h : Recorded p) {call : ServiceCall}
    {p' : Pool ServiceOp.Res ServiceCall (NoireService ε)}
    (hstep : Pool.step (system engine) p (.start call) = some p') : Recorded p' := by
  have hdid : ∀ {i performed}, p'.Did i performed ↔ p.Did i performed := Pool.did_start hstep
  obtain rfl := Option.some.inj hstep
  refine ⟨h.interval, h.keys, h.known, h.limited.congr fun _ _ _ _ => hdid,
    fun info hinfo => ?_, ?_⟩
  · obtain ⟨i, hraised⟩ := h.signalled info hinfo
    exact ⟨i, hdid.mpr hraised⟩
  · rw [List.countP_append, ← h.counted]
    rfl

section Advance

variable {i : ℕ} {call : ServiceCall} {rest rest' : ServiceProg Unit} {o : ServiceOp} {r : o.Res}
  {done : List ((o : ServiceOp) × o.Res)} {s : NoireService ε}

/-- The pool when a task has performed an operation. -/
abbrev advanced (p : Pool ServiceOp.Res ServiceCall (NoireService ε)) (i : ℕ) (call : ServiceCall)
    (rest : ServiceProg Unit) (done : List ((o : ServiceOp) × o.Res)) (o : ServiceOp) (r : o.Res)
    (s : NoireService ε) : Pool ServiceOp.Res ServiceCall (NoireService ε) :=
  { shared := s, tasks := p.tasks.set i ⟨call, rest, done ++ [⟨o, r⟩]⟩ }

/-- A call that tells of a failure for the first time is counted, and no other. -/
theorem countP_advanced (htask : p.tasks[i]? = some ⟨call, rest, done⟩) (rest' : ServiceProg Unit)
    {o : ServiceOp} (r : o.Res) (s : NoireService ε) :
    (advanced p i call rest' done o r s).tasks.countP (raisesError ·.done) +
        (if raisesError done then 1 else 0) =
      p.tasks.countP (raisesError ·.done) + if raisesError done || o.raisesError then 1 else 0 := by
  obtain ⟨hi, htask⟩ := List.getElem?_eq_some_iff.mp htask
  have hle := List.boole_getElem_le_countP
    (p := fun task : Pool.Task ServiceOp.Res ServiceCall => raisesError task.done) hi
  rw [List.countP_set hi, raisesError_snoc]
  rw [htask] at hle ⊢
  dsimp only at hle ⊢
  omega

/-- What has to do with no failure is recorded as it was. -/
theorem Recorded.silent (h : Recorded p) (htask : p.tasks[i]? = some ⟨call, rest, done⟩)
    (hask : ∀ event now, o ≠ .shouldEmit event now) (hraise : o.raisesError = false)
    (hlimiter : s.errorLimiter = p.shared.errorLimiter)
    (hsignals : ∀ info, .errorRaised info ∈ s.signals → .errorRaised info ∈ p.shared.signals)
    (hcount : s.signals.countP Signal.isError = p.shared.signals.countP Signal.isError) :
    Recorded (advanced p i call rest' done o r s) := by
  refine ⟨?_, ?_, ?_, ?_, fun info hinfo => ?_, ?_⟩
  · rw [hlimiter]
    exact h.interval
  · rw [hlimiter]
    exact h.keys
  · rw [hlimiter]
    exact h.known
  · rw [hlimiter]
    refine h.limited.congr fun j event now emitting => (Pool.did_set htask ..).trans ?_
    refine or_iff_left fun hnew => ?_
    cases hnew.2
    exact hask event now rfl
  · obtain ⟨j, hraised⟩ := h.signalled info (hsignals info hinfo)
    exact ⟨j, (Pool.did_set htask ..).mpr (.inl hraised)⟩
  · -- no signal is new, and none is counted
    have htold := countP_advanced htask rest' r s
    rw [hraise, Bool.or_false] at htold
    exact hcount.trans (h.counted.trans (Nat.add_right_cancel htold).symm)

/-- The limiter is asked. -/
theorem Recorded.asked (h : Recorded p) {event : String} {now : ℕ}
    (htask : p.tasks[i]? = some ⟨call, rest, done⟩) (hevent : event ∈ errorEvents) :
    Recorded (advanced p i call rest' done (.shouldEmit event now)
      (p.shared.errorLimiter.shouldEmit event now).1
      { p.shared with errorLimiter := (p.shared.errorLimiter.shouldEmit event now).2 }) := by
  obtain ⟨hanswer, hlatest⟩ := EventRateLimiter.shouldEmit_last
    (by rw [h.interval]; decide) h.room event now
  obtain ⟨hkeys, hknown⟩ := EventRateLimiter.shouldEmit_keys h.keys event now
  refine ⟨(EventRateLimiter.shouldEmit_interval ..).trans h.interval, hkeys, fun key hkey => ?_, ?_,
    fun info hinfo => ?_, ?_⟩
  · -- what the limiter remembers is still a kind of failure
    rcases hknown key hkey with rfl | hkey
    · exact hevent
    · exact h.known key hkey
  · -- this call has asked, and its answer is what the limiter law gives
    show Limited 5000 (p.shared.errorLimiter.shouldEmit event now).2.latest _
    rw [h.interval] at hanswer hlatest
    rw [hlatest]
    refine h.limited.ask i event now fun j event' now' emitting => (Pool.did_set htask ..).trans ?_
    refine or_congr_right (and_congr_right fun _ => ?_)
    rw [← hanswer]
    constructor
    · rintro ⟨⟩
      exact ⟨rfl, rfl, rfl⟩
    · rintro ⟨rfl, rfl, rfl⟩
      rfl
  · obtain ⟨j, hraised⟩ := h.signalled info hinfo
    exact ⟨j, (Pool.did_set htask ..).mpr (.inl hraised)⟩
  · have htold := countP_advanced htask rest'
      (o := .shouldEmit event now) (p.shared.errorLimiter.shouldEmit event now).1
      { p.shared with errorLimiter := (p.shared.errorLimiter.shouldEmit event now).2 }
    rw [show (ServiceOp.shouldEmit event now).raisesError = false from rfl, Bool.or_false] at htold
    exact h.counted.trans (Nat.add_right_cancel htold).symm

/-- Clients are told. -/
theorem Recorded.raised (h : Recorded p) {info : ErrorInfo}
    (htask : p.tasks[i]? = some ⟨call, rest, done⟩)
    (hfirst : raisesError done = false) :
    Recorded (advanced p i call rest' done (.emit (.errorRaised info)) ()
      { p.shared with signals := p.shared.signals ++ [.errorRaised info] }) := by
  refine ⟨h.interval, h.keys, h.known, h.limited.congr fun j event now emitting =>
    (Pool.did_set htask ..).trans (or_iff_left fun hnew => by cases hnew.2), fun other hother => ?_,
    ?_⟩
  · rcases List.mem_append.mp hother with hother | hother
    · obtain ⟨j, hraised⟩ := h.signalled other hother
      exact ⟨j, (Pool.did_set htask ..).mpr (.inl hraised)⟩
    · cases List.mem_singleton.mp hother
      exact ⟨i, (Pool.did_set htask ..).mpr (.inr ⟨rfl, rfl⟩)⟩
  · have htold := countP_advanced htask rest' (o := .emit (.errorRaised info)) ()
      { p.shared with signals := p.shared.signals ++ [.errorRaised info] }
    rw [hfirst] at htold
    show (p.shared.signals ++ [Signal.errorRaised info]).countP Signal.isError = _
    rw [List.countP_append, h.counted]
    exact htold.symm

/-- **An operation** that is allowed is recorded. -/
theorem Recorded.advance (h : Recorded p) {t : Telling}
    (htask : p.tasks[i]? = some ⟨call, rest, done⟩) (haccount : t.Account done)
    (hallowed : telling.allowed o t) :
    Recorded (advanced p i call rest' done o (exec engine i call o p.shared).1
      (exec engine i call o p.shared).2) := by
  cases o with
  | shouldEmit event now =>
    obtain ⟨error, -, rfl⟩ := hallowed
    exact h.asked htask error.event_mem
  | emit signal => cases signal with
    | errorRaised info =>
      obtain ⟨error, unixMillis, rfl, rfl⟩ := hallowed
      exact h.raised htask haccount.once
    | _ =>
      refine h.silent htask nofun rfl rfl (fun info hinfo => ?_) ?_
      · exact (List.mem_append.mp hinfo).resolve_right fun hnew => by
          cases List.mem_singleton.mp hnew
      · exact List.countP_append
  | _ => exact h.silent htask nofun rfl rfl (fun _ => id) rfl

end Advance

/-- **Every run** is recorded. -/
theorem served_recorded (run : Served engine C d events p) : Recorded p := by
  induction run with
  | nil => exact .start d
  | @snoc events q p event run _ hstep ih =>
    cases event with
    | start call => exact ih.started hstep
    | advance i =>
      obtain ⟨call, o, next, done, htask, -, rfl⟩ := Pool.step_advance hstep
      obtain ⟨haccount, hobeys⟩ := served_account run htask
      exact ih.advance htask haccount hobeys.1

/-- Who is told of which failures. -/
structure ErrorsTold (p : Pool ServiceOp.Res ServiceCall (NoireService ε)) : Prop where
  /-- Two calls that were let through with one event are five seconds apart. -/
  spaced : ∀ i j event now now', i ≠ j → Asked p i event now true → Asked p j event now' true →
    now + 5000 ≤ now' ∨ now' + 5000 ≤ now
  /-- One that was held back comes less than five seconds after one that was let through. -/
  suppressed : ∀ i event now, Asked p i event now false →
    ∃ j now', Asked p j event now' true ∧ now < now' + 5000
  /-- A call that has returned after a failure has asked, and told all clients where it could. -/
  told : ∀ i task error, p.tasks[i]? = some task → task.completed = true → Refused p i error →
    ∃ now emitting, Asked p i error.event now emitting ∧
      (emitting = true → ∃ unixMillis, Raised p i (publicError error unixMillis).2)
  /-- Clients are told of failures only that the daemon has answered a request with. -/
  genuine : ∀ info, .errorRaised info ∈ p.shared.signals →
    ∃ i error now unixMillis, Refused p i error ∧ Asked p i error.event now true ∧
      info = (publicError error unixMillis).2
  /-- Each such call tells once. -/
  counted : p.shared.signals.countP Signal.isError = p.tasks.countP (raisesError ·.done)

/-- **Failures are told, and not too often.**  However requests and ticks of the monitor interleave,
    and whatever clocks they read: of each kind of failure, clients are told at most once in five
    seconds; none is held back unless clients were told of its kind less than five seconds before,
    so the bound on the kinds is never what holds one back; and every signal tells of a failure that
    the daemon has answered a request with. -/
theorem errors_told (run : Served engine C d events p) : ErrorsTold p := by
  have hrecorded := served_recorded run
  refine ⟨fun i j event now now' hne => hrecorded.limited.spaced hne,
    fun i event now => hrecorded.limited.suppressed,
    fun i task error htask hcompleted hrefused => ?_,
    fun info hinfo => ?_, hrecorded.counted⟩
  · obtain ⟨haccount, hobeys⟩ := served_account run htask
    obtain ⟨r, env, task', htask', hdone⟩ := hrefused
    obtain rfl : task' = task := Option.some.inj (htask'.symm.trans htask)
    have herror := (haccount.refused error).mp ⟨r, env, hdone⟩
    have hsettled : (telling.after .quiet task'.done).Settled := by
      unfold Pool.Task.completed at hcompleted
      split at hcompleted
      · rename_i hrest
        rw [hrest] at hobeys
        exact hobeys
      · cases hcompleted
    -- A call that has something to tell, and nothing left to do, has asked.
    generalize telling.after .quiet task'.done = s at haccount herror hsettled
    cases s with
    | quiet => cases herror
    | failed _ => exact hsettled.elim
    | asked error' emitting =>
      cases herror
      obtain ⟨now, hasked⟩ := (haccount.asked _ _).mpr rfl
      refine ⟨now, emitting, ⟨task', htask, hasked⟩, ?_⟩
      rintro rfl
      exact hsettled.elim
    | told error' =>
      cases herror
      obtain ⟨now, hasked⟩ := (haccount.asked _ _).mpr rfl
      obtain ⟨unixMillis, hraised⟩ := haccount.told _ rfl
      exact ⟨now, true, ⟨task', htask, hasked⟩, fun _ => ⟨unixMillis, task', htask, hraised⟩⟩
  · -- what was signalled was told by a call, which was refused and asked first
    obtain ⟨i, task, htask, hraised⟩ := hrecorded.signalled info hinfo
    obtain ⟨haccount, -⟩ := served_account run htask
    obtain ⟨error, unixMillis, hs, rfl⟩ := haccount.raised info hraised
    rw [hs] at haccount
    obtain ⟨r, env, hrefused⟩ := (haccount.refused error).mpr rfl
    obtain ⟨now, hasked⟩ := (haccount.asked _ _).mpr rfl
    exact ⟨i, error, now, unixMillis, ⟨r, env, task, htask, hrefused⟩, ⟨task, htask, hasked⟩, rfl⟩

/-! ## A client that keeps asking

The same request is refused three times, and the second one comes too soon to be told of.
-/

/-- An engine without a device. -/
def deviceless : AudioEngine Unit where
  apply := fun _ e => (.error ⟨"no-input-device", "", "", true⟩, e)
  retry := fun _ e => (.error ⟨"no-input-device", "", "", true⟩, e)
  observe := fun observation e => (.ok observation, e)
  setMeterMonitoring := fun _ e => (.ok (), e)
  inputs := fun e => (.ok [], e)

/-- A daemon over it. -/
def resting : Daemon Unit where
  config := {}
  writable := true
  revision := 1
  deviceRevision := 0
  devices := []
  engine := ()
  observation := {}
  lastError := none

/-- Three requests of a revision that is long gone: the second comes too soon to be told. -/
def impatient : List (Pool.Event ServiceCall) :=
  [.start (.stop 9 { now := 1000 }), .start (.stop 9 { now := 3000 }),
    .start (.stop 9 { now := 6000 }), .advance 0, .advance 0, .advance 0, .advance 1, .advance 1,
    .advance 2, .advance 2, .advance 2]

theorem errors_told_impatient :
    ∃ p, Served deviceless Lib.Free resting impatient p ∧ ErrorsTold p ∧
      p.shared.signals.countP Signal.isError = 2 ∧ p.tasks.all (·.completed) = true := by
  obtain ⟨p, hp, hcount, hcompleted⟩ :
      ∃ p, impatient.foldlM (Pool.step (system deviceless)) ⟨new resting, []⟩ = some p ∧
        p.shared.signals.countP Signal.isError = 2 ∧ p.tasks.all (·.completed) = true :=
    ⟨_, rfl, rfl, rfl⟩
  have run : Served deviceless Lib.Free resting impatient p :=
    Run.of_foldlM _ (fun _ _ _ hstep => ⟨trivial, hstep⟩) hp
  exact ⟨p, run, errors_told run, hcount, hcompleted⟩

end NoireService

end Noire
