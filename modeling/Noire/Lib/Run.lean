import Mathlib.Data.List.Induction
import Mathlib.Tactic.Common

namespace Noire.Lib

/-!
# Runs of a labelled transition system

A system is a step relation `R : σ → ι → σ → Prop`: `R s i t` says that the input `i`
may take the state `s` to the state `t`.  The input carries whatever the environment
decides at that step, so a deterministic function of state and input is the relation
`fun s i t => step s i = t`, and a guarded one is `fun s i t => step s i = some t`.

* `Run R C s is t` — the inputs `is` take `s` to `t`, and every step meets the
  condition `C` on its pre-state and input;
* `Run.invariant` — the induction rule: what holds at the start and is kept by every
  step meeting `C` holds at the end of every run;
* `Run.of_inputs` — a condition that holds of the inputs, whatever the state;
* `Run.of_foldl` / `Run.of_foldlM` — the runs of a total function, and those a checked
  step function computes, so that a concrete run is a closed evaluation;
* `foldl_beside` — the induction rule for a state that follows a history of its inputs;
* `foldl_log` — a state that notes each input keeps them all, in their order.
-/

variable {σ ι : Type*}

/-- The inputs `is` take `s` to a state through steps of `R` that all meet `C`. -/
inductive Run (R : σ → ι → σ → Prop) (C : σ → ι → Prop) (s : σ) : List ι → σ → Prop
  | nil : Run R C s [] s
  | snoc {is : List ι} {t u : σ} {i : ι} (run : Run R C s is t) (meets : C t i)
      (step : R t i u) : Run R C s (is ++ [i]) u

/-- The condition that every step meets. -/
def Free : σ → ι → Prop := fun _ _ => True

instance (s : σ) (i : ι) : Decidable (Free s i) := .isTrue trivial

variable {R : σ → ι → σ → Prop} {C : σ → ι → Prop} {s t : σ} {is : List ι}

/-- **Invariant rule.** A predicate that holds at the start and is kept by every step
    that meets `C` holds wherever a run ends. -/
theorem Run.invariant (I : σ → Prop) (hstart : I s)
    (hstep : ∀ t i u, I t → C t i → R t i u → I u) (h : Run R C s is t) : I t := by
  induction h with
  | nil => exact hstart
  | snoc _ hC hR ih => exact hstep _ _ _ ih hC hR

/-- One step is a run. -/
theorem Run.single {i : ι} (hC : C s i) (hR : R s i t) : Run R C s [i] t :=
  .snoc .nil hC hR

/-- A run also meets a condition that each of its inputs meets in every state. -/
theorem Run.of_inputs {C' : σ → ι → Prop} (h : Run R C s is t) (hC : ∀ i ∈ is, ∀ t, C' t i) :
    Run R C' s is t := by
  induction h with
  | nil => exact .nil
  | snoc _ _ hR ih =>
    exact .snoc (ih fun i hi => hC i (List.mem_append_left _ hi))
      (hC _ (List.mem_append_right _ List.mem_cons_self) _) hR

/-- A run of a total function is its fold over the inputs. -/
theorem Run.of_foldl (step : σ → ι → σ) (s : σ) (is : List ι) :
    Run (fun s i t => step s i = t) Free s is (is.foldl step s) := by
  induction is using List.reverseRecOn with
  | nil => exact .nil
  | append_singleton is i ih =>
    rw [List.foldl_append]
    exact .snoc ih trivial rfl

/-- A run is what a checked step function computes: `f` answers only where the condition
    and the relation hold. -/
theorem Run.of_foldlM (f : σ → ι → Option σ)
    (hf : ∀ s i t, f s i = some t → C s i ∧ R s i t) (h : is.foldlM f s = some t) :
    Run R C s is t := by
  induction is using List.reverseRecOn generalizing t with
  | nil =>
    obtain rfl : s = t := by simpa using h
    exact .nil
  | append_singleton is i ih =>
    rw [List.foldlM_append] at h
    obtain ⟨u, hu, ht⟩ := Option.bind_eq_some_iff.mp h
    obtain ⟨hC, hR⟩ := hf u i t (by simpa using ht)
    exact .snoc (ih hu) hC hR

/-- **A state beside its history.** What relates the two at the start, and is kept by every input,
    relates them after any inputs. -/
theorem foldl_beside {γ : Type*} (note : γ → ι → γ) (step : σ → ι → σ) (I : γ → σ → Prop)
    {g : γ} {s : σ} (hstart : I g s) (hstep : ∀ g s i, I g s → I (note g i) (step s i))
    (is : List ι) : I (is.foldl note g) (is.foldl step s) := by
  induction is generalizing g s with
  | nil => exact hstart
  | cons i is ih => exact ih (hstep g s i hstart)

/-- A state that notes each input has noted them all. -/
theorem foldl_log (log : σ → List ι) {step : σ → ι → σ}
    (hstep : ∀ s i, log (step s i) = log s ++ [i]) (s : σ) (is : List ι) :
    log (is.foldl step s) = log s ++ is := by
  induction is generalizing s with
  | nil => exact (List.append_nil _).symm
  | cons i is ih => rw [List.foldl_cons, ih, hstep, List.append_assoc, List.singleton_append]

end Noire.Lib
