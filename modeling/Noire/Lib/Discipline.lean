import Noire.Lib.Prog

namespace Noire.Lib

/-!
# Disciplines on the operations of a program

What a program may do and what it may count on, told by a state that is moved by each operation and
its result.  The program is taken apart along its own shape, and every execution of it, finished or
not, has kept the discipline if its environment has done what it is counted on for.

* `Discipline` — the operations that a state allows, the results that are possible for one, the
  state after it, and the states that a program may be left in;
* `Prog.Obeys` — a program keeps to it, and ends in states that meet `Q`; `Obeys.bind` and its
  siblings follow the program's shape;
* `Prog.Performs` — some operations of a program, each with its result, and what is left of it;
* `Discipline.Along` — what holds of each of some operations;
* `Obeys.performs` — they were allowed, and what is left obeys.
-/

variable {Op : Type} {Res : Op → Type} {S α β : Type}

/-- Which operations a state allows, which results are possible for one, and the state after it; a
    program runs out of fuel in an idle state only. -/
structure Discipline (Res : Op → Type) (S : Type) where
  allowed : (o : Op) → S → Prop
  possible : (o : Op) → Res o → S → Prop
  next : (o : Op) → Res o → S → S
  idle : S → Prop

namespace Discipline

variable (D : Discipline Res S)

/-- The state after some operations. -/
def after : S → List ((o : Op) × Res o) → S
  | s, [] => s
  | s, ⟨o, r⟩ :: calls => after (D.next o r s) calls

/-- This holds of each of the operations, with its result and the state that it is performed in. -/
def Along (P : (o : Op) → Res o → S → Prop) : S → List ((o : Op) × Res o) → Prop
  | _, [] => True
  | s, ⟨o, r⟩ :: calls => P o r s ∧ Along P (D.next o r s) calls

/-- Each of the operations was allowed. -/
abbrev Kept : S → List ((o : Op) × Res o) → Prop := D.Along fun o _ s => D.allowed o s

section Along

variable {D : Discipline Res S} {P P' : (o : Op) → Res o → S → Prop} {s : S}
  {calls more : List ((o : Op) × Res o)}

/-- What holds of every operation holds along any. -/
theorem Along.of_forall (h : ∀ o r s, P o r s) : D.Along P s calls := by
  induction calls generalizing s with
  | nil => trivial
  | cons call calls ih => exact ⟨h call.1 call.2 s, ih⟩

theorem Along.mono (hP : ∀ o r s, P o r s → P' o r s) (h : D.Along P s calls) :
    D.Along P' s calls := by
  induction calls generalizing s with
  | nil => trivial
  | cons call calls ih => exact ⟨hP call.1 call.2 s h.1, ih h.2⟩

theorem Along.and (h : D.Along P s calls) (h' : D.Along P' s calls) :
    D.Along (fun o r s => P o r s ∧ P' o r s) s calls := by
  induction calls generalizing s with
  | nil => trivial
  | cons call calls ih => exact ⟨⟨h.1, h'.1⟩, ih h.2 h'.2⟩

/-- The state after some operations and more is where the more lead from there. -/
theorem after_append (D : Discipline Res S) (s : S) (calls more : List ((o : Op) × Res o)) :
    D.after s (calls ++ more) = D.after (D.after s calls) more := by
  induction calls generalizing s with
  | nil => rfl
  | cons call calls ih => exact ih (D.next call.1 call.2 s)

/-- What holds along some operations, and along more of them from there, holds along them all. -/
theorem Along.append (h : D.Along P s calls) (h' : D.Along P (D.after s calls) more) :
    D.Along P s (calls ++ more) := by
  induction calls generalizing s with
  | nil => exact h'
  | cons call calls ih => exact ⟨h.1, ih h.2 h'⟩

/-- What holds along some operations holds along the last of them. -/
theorem Along.of_append (h : D.Along P s (calls ++ more)) :
    D.Along P (D.after s calls) more := by
  induction calls generalizing s with
  | nil => exact h
  | cons call calls ih => exact ih h.2

end Along

end Discipline

namespace Prog

/-- The program performs these operations, each with its result, and goes on as `rest`. -/
inductive Performs : Prog Res α → List ((o : Op) × Res o) → Prog Res α → Prop
  | nil (p : Prog Res α) : Performs p [] p
  | op {o : Op} {next : Res o → Prog Res α} {r : Res o} {calls : List ((o : Op) × Res o)}
      {rest : Prog Res α} (more : Performs (next r) calls rest) :
      Performs (.op o next) (⟨o, r⟩ :: calls) rest

/-- A program that returns has performed its operations, and has only its result left. -/
theorem Returns.performs {p : Prog Res α} {calls : List ((o : Op) × Res o)} {a : α}
    (h : p.Returns calls a) : p.Performs calls (.pure a) := by
  induction h with
  | pure a => exact .nil _
  | op _ ih => exact .op ih

/-- Of what is left, the next operation may be performed too. -/
theorem Performs.snoc {p : Prog Res α} {calls : List ((o : Op) × Res o)} {o : Op}
    {next : Res o → Prog Res α} (h : p.Performs calls (.op o next)) (r : Res o) :
    p.Performs (calls ++ [⟨o, r⟩]) (next r) := by
  generalize hrest : Prog.op o next = rest at h
  induction h with
  | nil p =>
    subst hrest
    exact .op (.nil _)
  | op _ ih => exact .op (ih hrest)

/-- Whatever its operations return of what is possible, the program performs allowed ones only, and
    meets `Q` where it returns. -/
def Obeys (D : Discipline Res S) : Prog Res α → (α → S → Prop) → S → Prop
  | .pure a, Q, s => Q a s
  | .op o next, Q, s =>
    D.allowed o s ∧ ∀ r, D.possible o r s → (next r).Obeys D Q (D.next o r s)
  | .stuck, _, s => D.idle s

variable {D : Discipline Res S} {Q Q' : α → S → Prop} {s : S}

/-- A program may promise less. -/
theorem Obeys.mono (hQ : ∀ a s, Q a s → Q' a s) {p : Prog Res α} (h : p.Obeys D Q s) :
    p.Obeys D Q' s := by
  induction p generalizing s with
  | pure a => exact hQ a s h
  | op o next ih => exact ⟨h.1, fun r hr => ih r (h.2 r hr)⟩
  | stuck => exact h

/-- **Sequencing rule.** What the first part leaves is where the second starts. -/
theorem Obeys.bind {p : Prog Res α} {f : α → Prog Res β} {Q : β → S → Prop}
    (h : p.Obeys D (fun a s => (f a).Obeys D Q s) s) : (p >>= f).Obeys D Q s := by
  induction p generalizing s with
  | pure a => exact h
  | op o next ih => exact ⟨h.1, fun r hr => ih r (h.2 r hr)⟩
  | stuck => exact h

/-- A mapped program obeys as the program does. -/
theorem Obeys.map {p : Prog Res α} {f : α → β} {Q : β → S → Prop}
    (h : p.Obeys D (fun a => Q (f a)) s) : (f <$> p).Obeys D Q s := by
  rw [map_eq_pure_bind]
  exact h.bind

/-- **Operation rule.** -/
theorem Obeys.call {o : Op} {f : Res o → Prog Res β} {Q : β → S → Prop} (ho : D.allowed o s)
    (h : ∀ r, D.possible o r s → (f r).Obeys D Q (D.next o r s)) :
    (Prog.call o >>= f).Obeys D Q s := ⟨ho, h⟩

/-- **Choice rule.** -/
theorem Obeys.ite {c : Prop} [Decidable c] {p p' : Prog Res α} (hp : c → p.Obeys D Q s)
    (hp' : ¬c → p'.Obeys D Q s) : (if c then p else p').Obeys D Q s := by
  split
  · exact hp ‹_›
  · exact hp' ‹_›

/-- **Discipline rule.** If their results were possible, the operations that a program has performed
    were allowed, and what is left of it obeys from where they lead. -/
theorem Obeys.performs {p rest : Prog Res α} {calls : List ((o : Op) × Res o)}
    (h : p.Obeys D Q s) (hcalls : p.Performs calls rest) (hpossible : D.Along D.possible s calls) :
    D.Kept s calls ∧ rest.Obeys D Q (D.after s calls) := by
  induction hcalls generalizing s with
  | nil p => exact ⟨trivial, h⟩
  | op _ ih =>
    obtain ⟨hkept, hrest⟩ := ih (h.2 _ hpossible.1) hpossible.2
    exact ⟨⟨h.1, hkept⟩, hrest⟩

end Prog

end Noire.Lib
