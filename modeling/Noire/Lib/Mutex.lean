import Noire.Lib.Pool

namespace Noire.Lib

/-!
# A resource behind a mutex

Where the calls of a pool touch a part of the shared state only while they hold a mutex, it is
enough to look at one program at a time: between taking the mutex and giving it back a call is
alone with the resource, and what it must see to is that the resource is in order when it
gives it back.

* `Mutex` — the mutex of a system: who holds it, what it protects, and the part each operation
  plays;
* `Mutex.Owned` — a program touches the resource only while it holds the mutex, and gives it
  back in order; `Owned.bind` and its siblings follow the program's own shape;
* `Mutex.protects` — if every program is `Owned`, the resource is in order whenever the mutex
  is free.
-/

variable {Op : Type} {Res : Op → Type} {ι σ ρ : Type}

/-- The part an operation plays. -/
inductive Mutex.Role
  /-- It takes the mutex, once that is free. -/
  | acquire
  /-- It gives the mutex back. -/
  | release
  /-- It may touch the resource. -/
  | guarded
  /-- It leaves the mutex and the resource. -/
  | free
  /-- No call performs it. -/
  | never
  deriving DecidableEq

open Mutex in
/-- A mutex over the resource `view` of a system. -/
structure Mutex (S : Pool.System Res ι σ) (ρ : Type) where
  holder : σ → Option ℕ
  view : σ → ρ
  role : Op → Role
  /-- What a guarded operation may return and leave, for which call. -/
  effect : ι → (o : Op) → ρ → Res o → ρ → Prop
  acquires : ∀ i call o s, role o = .acquire → S.ready o s = true →
    holder s = none ∧ holder (S.exec i call o s).2 = some i ∧
      view (S.exec i call o s).2 = view s
  releases : ∀ i call o s, role o = .release →
    holder (S.exec i call o s).2 = none ∧ view (S.exec i call o s).2 = view s
  guards : ∀ i call o s, role o = .guarded →
    holder (S.exec i call o s).2 = holder s ∧
      effect call o (view s) (S.exec i call o s).1 (view (S.exec i call o s).2)
  frees : ∀ i call o s, role o = .free →
    holder (S.exec i call o s).2 = holder s ∧ view (S.exec i call o s).2 = view s

namespace Mutex

variable {S : Pool.System Res ι σ}

/-- The program, which holds the resource `held` if any, touches it only while it does, gives it
    back as `I` has it, and meets `Q` where it returns. -/
def Owned (M : Mutex S ρ) (I : ρ → Prop) (call : ι) {α : Type} :
    Prog Res α → Option ρ → (α → Option ρ → Prop) → Prop
  | .pure a, held, Q => Q a held
  | .op o next, held, Q =>
    match M.role o, held with
    | .acquire, none => ∀ r v, I v → Owned M I call (next r) (some v) Q
    | .release, some v => I v ∧ ∀ r, Owned M I call (next r) none Q
    | .guarded, some v => ∀ r v', M.effect call o v r v' → Owned M I call (next r) (some v') Q
    | .free, held => ∀ r, Owned M I call (next r) held Q
    | _, _ => False
  | .stuck, _, _ => True

variable {M : Mutex S ρ} {I : ρ → Prop} {call : ι} {α β : Type} {held : Option ρ}
  {Q : α → Option ρ → Prop}

/-- **Sequencing rule.** -/
theorem Owned.bind {p : Prog Res α} {f : α → Prog Res β} {Q : β → Option ρ → Prop}
    (h : Owned M I call p held fun a held => Owned M I call (f a) held Q) :
    Owned M I call (p >>= f) held Q := by
  induction p generalizing held with
  | pure a => exact h
  | op o next ih =>
    change Owned M I call (.op o fun r => (next r).bind f) held Q
    unfold Owned at h
    -- In each role the continuation is what it was, followed by `f`.
    split at h
    · rename_i hrole
      simp only [Owned, hrole]
      exact fun r v hv => ih r (h r v hv)
    · rename_i hrole
      simp only [Owned, hrole]
      exact ⟨h.1, fun r => ih r (h.2 r)⟩
    · rename_i hrole
      simp only [Owned, hrole]
      exact fun r v' heffect => ih r (h r v' heffect)
    · rename_i hrole
      simp only [Owned, hrole]
      exact fun r => ih r (h r)
    · exact h.elim
  | stuck => trivial

section Rules

variable {o : Op} {f : Res o → Prog Res β} {Q : β → Option ρ → Prop} {v : ρ}

/-- A call that takes the mutex finds the resource in order. -/
theorem Owned.acquire (hrole : M.role o = .acquire)
    (h : ∀ r v, I v → Owned M I call (f r) (some v) Q) :
    Owned M I call (Prog.call o >>= f) none Q := by
  change Owned M I call (.op o f) none Q
  simp only [Owned, hrole]
  exact h

/-- A call that gives the mutex back leaves the resource in order. -/
theorem Owned.release (hrole : M.role o = .release) (hv : I v)
    (h : ∀ r, Owned M I call (f r) none Q) :
    Owned M I call (Prog.call o >>= f) (some v) Q := by
  change Owned M I call (.op o f) (some v) Q
  simp only [Owned, hrole]
  exact ⟨hv, h⟩

/-- A call that holds the mutex works on the resource. -/
theorem Owned.guarded (hrole : M.role o = .guarded)
    (h : ∀ r v', M.effect call o v r v' → Owned M I call (f r) (some v') Q) :
    Owned M I call (Prog.call o >>= f) (some v) Q := by
  change Owned M I call (.op o f) (some v) Q
  simp only [Owned, hrole]
  exact h

end Rules

variable (M) in
/-- What task `i` holds. -/
def heldBy (i : ℕ) (s : σ) : Option ρ := if M.holder s = some i then some (M.view s) else none

/-- **An operation** of an owned program leaves its rest owned; a resource that is given back, or
    was free, is in order; and the other tasks hold what they held. -/
theorem Owned.step {i : ℕ} {o : Op} {next : Res o → Prog Res α} {s : σ}
    (h : Owned M I call (.op o next) (M.heldBy i s) Q) (hready : S.ready o s = true)
    (horder : M.holder s = none → I (M.view s)) :
    (Owned M I call (next (S.exec i call o s).1) (M.heldBy i (S.exec i call o s).2) Q) ∧
      (M.holder (S.exec i call o s).2 = none → I (M.view (S.exec i call o s).2)) ∧
      (∀ j, M.holder (S.exec i call o s).2 = some j → j = i ∨ M.holder s = some j) ∧
      ∀ j, j ≠ i → M.heldBy j (S.exec i call o s).2 = M.heldBy j s := by
  unfold Owned at h
  unfold heldBy at h ⊢
  -- The part the operation plays, and whether the task holds the mutex.
  split at h
  · -- the task takes the mutex, and finds the invariant
    rename_i hrole hheld
    obtain ⟨hfree, htaken, hview⟩ := M.acquires i call o s hrole hready
    refine ⟨?_, fun hnone => by simp [htaken] at hnone, fun j hj => ?_, fun j hj => ?_⟩
    · rw [if_pos htaken, hview]
      exact h _ _ (horder hfree)
    · rw [htaken] at hj
      exact .inl (Option.some.inj hj).symm
    · rw [htaken, hfree, if_neg fun heq => hj (Option.some.inj heq).symm, if_neg nofun]
  · -- it gives the mutex back with the invariant restored
    rename_i v hrole hheld
    obtain ⟨hfree, hview⟩ := M.releases i call o s hrole
    split at hheld
    · rename_i hholder
      obtain rfl := Option.some.inj hheld
      refine ⟨?_, fun _ => hview ▸ h.1, fun j hj => by simp [hfree] at hj, fun j hj => ?_⟩
      · rw [hfree, if_neg nofun]
        exact h.2 _
      · rw [hfree, hholder, if_neg nofun, if_neg fun heq => hj (Option.some.inj heq).symm]
    · cases hheld
  · -- it holds the mutex, and what it does to the view is its own
    rename_i v hrole hheld
    obtain ⟨hsame, heffect⟩ := M.guards i call o s hrole
    split at hheld
    · rename_i hholder
      obtain rfl := Option.some.inj hheld
      rw [hsame, hholder]
      refine ⟨?_, nofun, fun j hj => .inr hj, fun j hj => ?_⟩
      · rw [if_pos rfl]
        exact h _ _ heffect
      · rw [if_neg fun heq => hj (Option.some.inj heq).symm,
          if_neg fun heq => hj (Option.some.inj heq).symm]
    · cases hheld
  · -- the operation has nothing to do with what is protected
    rename_i hrole
    obtain ⟨hsame, hview⟩ := M.frees i call o s hrole
    rw [hsame, hview]
    exact ⟨h _, horder, fun j hj => .inr hj, fun _ _ => rfl⟩
  · exact h.elim

/-- **Protection rule.** If every started program touches the resource only while it holds the
    mutex and gives it back in order, the resource is in order whenever the mutex is free. -/
theorem protects {C : Pool Res ι σ → Pool.Event ι → Prop} {s : σ} {events : List (Pool.Event ι)}
    {p : Pool Res ι σ}
    (hprograms : ∀ p call, C p (.start call) →
      Owned M I call (S.program call) none fun _ held => held = none)
    (hfree : M.holder s = none) (horder : I (M.view s))
    (run : Pool.Runs S C ⟨s, []⟩ events p) (h : M.holder p.shared = none) :
    I (M.view p.shared) := by
  have hholds := run.keeps
    (J := fun n s => (M.holder s = none → I (M.view s)) ∧ ∀ i, M.holder s = some i → i < n)
    (T := fun i task s =>
      Owned M I task.call task.rest (M.heldBy i s) fun _ held => held = none)
    (fun p call hC ⟨horder, hin⟩ => ⟨⟨horder, fun i hi => Nat.lt_succ_of_lt (hin i hi)⟩, ?_⟩)
    (fun p i call o next done htask _ hready ⟨horder, hin⟩ hT => ?_)
    (.idle ⟨fun _ => horder, fun i hi => by simp [hfree] at hi⟩)
  · exact hholds.shared.1 h
  · -- a started call does not hold the mutex
    have hnone : M.heldBy p.tasks.length p.shared = none :=
      if_neg fun heq => Nat.lt_irrefl _ (hin _ heq)
    dsimp only
    rw [hnone]
    exact hprograms p call hC
  · obtain ⟨hown, horder', hholder, hothers⟩ := hT.step hready horder
    refine ⟨⟨horder', fun j hj => ?_⟩, hown, fun j task hj hT => ?_⟩
    · rcases hholder j hj with rfl | hj
      · exact (List.getElem?_eq_some_iff.mp htask).1
      · exact hin j hj
    · rw [hothers j hj]
      exact hT

end Mutex

end Noire.Lib
