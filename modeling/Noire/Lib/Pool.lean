import Noire.Lib.Discipline
import Noire.Lib.Run

namespace Noire.Lib

/-!
# Calls in flight over one shared state

A `Pool` is a shared state with the calls started over it, each with what its program has
left.  A step starts a call, or lets one call in flight perform its next operation; an
operation may have to wait until it is ready.

* `Pool.System` — the programs of the calls, and what their operations do;
* `Pool.Runs` — a run from a pool, through steps that meet a condition;
* `Pool.Runs.keeps` — the invariant rule: an assertion on the shared state and one on every
  task, each kept by the operations of that task and by those of the others;
* `Pool.Runs.returns` — what a task has done is one of the ways its program runs;
  `Pool.Runs.performs` — and what it has left is left of its program;
* `Pool.Did` — what some task has done.
-/

variable {Op : Type} {Res : Op → Type} {ι σ : Type}

/-- A call, what its program has left, and the operations it has performed. -/
structure Pool.Task {Op : Type} (Res : Op → Type) (ι : Type) where
  call : ι
  rest : Prog Res Unit
  done : List ((o : Op) × Res o) := []

/-- The call has returned. -/
def Pool.Task.completed (task : Pool.Task Res ι) : Bool :=
  match task.rest with
  | .pure _ => true
  | _ => false

/-- A shared state, and the calls started over it. -/
structure Pool {Op : Type} (Res : Op → Type) (ι σ : Type) where
  shared : σ
  tasks : List (Pool.Task Res ι) := []

namespace Pool

/-- A step of a pool. -/
inductive Event (ι : Type)
  /-- A call is started. -/
  | start (call : ι)
  /-- A task performs its next operation. -/
  | advance (task : ℕ)

/-- What the calls run, when an operation may be performed, and what it then does for which
    task and call. -/
structure System {Op : Type} (Res : Op → Type) (ι σ : Type) where
  program : ι → Prog Res Unit
  ready : Op → σ → Bool
  exec : ℕ → ι → (o : Op) → σ → Res o × σ

variable (S : System Res ι σ)

/-- One step; `none` where the task has no next operation, or has to wait. -/
def step (p : Pool Res ι σ) : Event ι → Option (Pool Res ι σ)
  | .start call => some { p with tasks := p.tasks ++ [{ call, rest := S.program call }] }
  | .advance i =>
    match p.tasks[i]? with
    | some ⟨call, .op o next, done⟩ =>
      if S.ready o p.shared then
        let (r, shared) := S.exec i call o p.shared
        some { shared, tasks := p.tasks.set i ⟨call, next r, done ++ [⟨o, r⟩]⟩ }
      else none
    | _ => none

/-- A run of a pool whose steps meet `C`. -/
def Runs (C : Pool Res ι σ → Event ι → Prop) (p : Pool Res ι σ) (events : List (Event ι))
    (p' : Pool Res ι σ) : Prop :=
  Run (fun p event p' => step S p event = some p') C p events p'

variable {S} {C : Pool Res ι σ → Event ι → Prop} {p p' : Pool Res ι σ}
  {events : List (Event ι)}

/-- A task that takes a step performs its next operation. -/
theorem step_advance {i : ℕ} (h : step S p (.advance i) = some p') :
    ∃ call o next done, p.tasks[i]? = some ⟨call, .op o next, done⟩ ∧
      S.ready o p.shared = true ∧
      p' = { shared := (S.exec i call o p.shared).2
             tasks := p.tasks.set i ⟨call, next (S.exec i call o p.shared).1,
               done ++ [⟨o, (S.exec i call o p.shared).1⟩]⟩ } := by
  simp only [step] at h
  split at h
  · rename_i call o next done htask
    split at h
    · rename_i hready
      exact ⟨call, o, next, done, htask, hready, (Option.some.inj h).symm⟩
    · cases h
  · cases h

/-- `J` of the number of tasks and the shared state, and `T` of every task. -/
structure Holds (J : ℕ → σ → Prop) (T : ℕ → Task Res ι → σ → Prop) (p : Pool Res ι σ) : Prop where
  shared : J p.tasks.length p.shared
  tasks : ∀ i task, p.tasks[i]? = some task → T i task p.shared

/-- No task is in flight. -/
theorem Holds.idle {J : ℕ → σ → Prop} {T : ℕ → Task Res ι → σ → Prop} {s : σ} (h : J 0 s) :
    (⟨s, []⟩ : Pool Res ι σ).Holds J T := ⟨h, fun _ _ hnone => by cases hnone⟩

/-- **Invariant rule.** A started call must meet its assertion; an operation must keep the
    assertion on the shared state, lead to that of its own task, and not interfere with those of
    the others. -/
theorem Runs.keeps {J : ℕ → σ → Prop} {T : ℕ → Task Res ι → σ → Prop}
    (hstart : ∀ p call, C p (.start call) → J p.tasks.length p.shared →
      J (p.tasks.length + 1) p.shared ∧
        T p.tasks.length { call, rest := S.program call } p.shared)
    (hadvance : ∀ p i call o next done, p.tasks[i]? = some ⟨call, .op o next, done⟩ →
      C p (.advance i) → S.ready o p.shared = true → J p.tasks.length p.shared →
      T i ⟨call, .op o next, done⟩ p.shared →
      J p.tasks.length (S.exec i call o p.shared).2 ∧
        T i ⟨call, next (S.exec i call o p.shared).1,
          done ++ [⟨o, (S.exec i call o p.shared).1⟩]⟩ (S.exec i call o p.shared).2 ∧
        ∀ j task, j ≠ i → T j task p.shared → T j task (S.exec i call o p.shared).2)
    (run : Runs S C p events p') (h : p.Holds J T) : p'.Holds J T := by
  refine Run.invariant (Holds J T) h (fun t event u ht hC hstep => ?_) run
  cases event with
  | start call =>
    obtain ⟨hJ, hT⟩ := hstart t call hC ht.shared
    obtain rfl := Option.some.inj hstep
    refine ⟨by simpa using hJ, fun i task htask => ?_⟩
    dsimp only at htask
    rw [List.getElem?_append] at htask
    split at htask
    · exact ht.tasks i task htask
    · rename_i hi
      -- The one new task stands at the end.
      rw [List.getElem?_singleton] at htask
      split at htask
      · obtain rfl : i = t.tasks.length := by omega
        obtain rfl := Option.some.inj htask
        exact hT
      · cases htask
  | advance i =>
    obtain ⟨call, o, next, done, htask, hready, rfl⟩ := step_advance hstep
    obtain ⟨hJ, hown, hothers⟩ :=
      hadvance t i call o next done htask hC hready ht.shared (ht.tasks i _ htask)
    refine ⟨by simpa using hJ, fun j task hj => ?_⟩
    dsimp only at hj ⊢
    -- The task that moved has what its step gives, the others keep theirs.
    by_cases hji : i = j
    · subst hji
      rw [List.getElem?_set_self (List.getElem?_eq_some_iff.mp htask).1] at hj
      obtain rfl := Option.some.inj hj
      exact hown
    · rw [List.getElem?_set_ne hji] at hj
      exact hothers j task (Ne.symm hji) (ht.tasks j task hj)

/-- **What a task has done** is the beginning of a way its program returns; a task that has
    nothing left has returned so. -/
theorem Runs.returns {s : σ} (run : Runs S C ⟨s, []⟩ events p') {i : ℕ} {task : Task Res ι}
    (htask : p'.tasks[i]? = some task) {calls : List ((o : Op) × Res o)}
    (hrest : task.rest.Returns calls ()) :
    (S.program task.call).Returns (task.done ++ calls) () := by
  have h := run.keeps (J := fun _ _ => True)
    (T := fun _ task _ => ∀ calls, task.rest.Returns calls () →
      (S.program task.call).Returns (task.done ++ calls) ())
    (fun _ _ _ _ => ⟨trivial, fun calls h => h⟩)
    (fun _ i call o next done _ _ _ _ hT => ⟨trivial, fun calls hnext => by
      simpa using hT _ (.op hnext), fun _ _ _ h => h⟩)
    (.idle trivial)
  exact h.tasks i task htask calls hrest

/-- **What a task has left** is left of its program when it has performed what the task has done. -/
theorem Runs.performs {s : σ} (run : Runs S C ⟨s, []⟩ events p') {i : ℕ} {task : Task Res ι}
    (htask : p'.tasks[i]? = some task) :
    (S.program task.call).Performs task.done task.rest := by
  have h := run.keeps (J := fun _ _ => True)
    (T := fun _ task _ => (S.program task.call).Performs task.done task.rest)
    (fun _ _ _ _ => ⟨trivial, .nil _⟩)
    (fun _ _ _ _ _ _ _ _ _ _ hT => ⟨trivial, hT.snoc _, fun _ _ _ h => h⟩)
    (.idle trivial)
  exact h.tasks i task htask

/-- This task has performed this operation, with this result. -/
def Did (p : Pool Res ι σ) (i : ℕ) (performed : (o : Op) × Res o) : Prop :=
  ∃ task, p.tasks[i]? = some task ∧ performed ∈ task.done

/-- A call that starts has done nothing. -/
theorem did_start {call : ι} (h : step S p (.start call) = some p') {i : ℕ}
    {performed : (o : Op) × Res o} : p'.Did i performed ↔ p.Did i performed := by
  obtain rfl := Option.some.inj h
  constructor
  · rintro ⟨task, htask, hdone⟩
    dsimp only at htask
    -- The task that starts has done nothing yet.
    rw [List.getElem?_append] at htask
    split at htask
    · exact ⟨task, htask, hdone⟩
    · rw [List.getElem?_singleton] at htask
      split at htask
      · obtain rfl := Option.some.inj htask
        exact absurd hdone List.not_mem_nil
      · cases htask
  · rintro ⟨task, htask, hdone⟩
    refine ⟨task, ?_, hdone⟩
    show (p.tasks ++ _)[i]? = some task
    rw [List.getElem?_append_left (List.getElem?_eq_some_iff.mp htask).1]
    exact htask

/-- A task that advances has done one operation more. -/
theorem did_set {i : ℕ} {call : ι} {rest rest' : Prog Res Unit} {done : List ((o : Op) × Res o)}
    (htask : p.tasks[i]? = some ⟨call, rest, done⟩) (shared : σ) (new : (o : Op) × Res o) {j : ℕ}
    {performed : (o : Op) × Res o} :
    Did ({ shared, tasks := p.tasks.set i ⟨call, rest', done ++ [new]⟩ } : Pool Res ι σ) j
        performed ↔
      p.Did j performed ∨ j = i ∧ performed = new := by
  have hi := (List.getElem?_eq_some_iff.mp htask).1
  -- The task that moved has the new operation at the end of its own.
  by_cases hji : i = j
  · subst hji
    constructor
    · rintro ⟨task, hj, hdone⟩
      rw [List.getElem?_set_self hi] at hj
      obtain rfl := Option.some.inj hj
      rcases List.mem_append.mp hdone with hdone | hdone
      · exact .inl ⟨_, htask, hdone⟩
      · exact .inr ⟨rfl, List.mem_singleton.mp hdone⟩
    · rintro (⟨task, hj, hdone⟩ | ⟨-, rfl⟩)
      · rw [htask] at hj
        obtain rfl := Option.some.inj hj
        exact ⟨_, List.getElem?_set_self hi, List.mem_append_left _ hdone⟩
      · exact ⟨_, List.getElem?_set_self hi, List.mem_append_right _ List.mem_cons_self⟩
  · have hsame : (p.tasks.set i ⟨call, rest', done ++ [new]⟩)[j]? = p.tasks[j]? :=
      List.getElem?_set_ne hji
    constructor
    · rintro ⟨task, hj, hdone⟩
      exact .inl ⟨task, hsame.symm.trans hj, hdone⟩
    · rintro (⟨task, hj, hdone⟩ | ⟨rfl, -⟩)
      · exact ⟨task, hsame.trans hj, hdone⟩
      · exact absurd rfl hji

end Pool

end Noire.Lib
