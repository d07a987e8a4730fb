import Mathlib.Data.Nat.Notation
import Mathlib.Tactic.Common

namespace Noire.Lib

/-!
# Programs over atomic operations

A `Prog` is a program of one thread: it ends, or performs an atomic operation `o` and
goes on with what the operation returned (`Res o`), or is `stuck`.  A handler
`exec o s` says what the operation returns and leaves in the shared state.  The same
program is read in four ways:

* `Prog.run` — alone, one operation after the other.  `Prog.run_bind_of` and
  `Prog.run_call_bind` evaluate it along the source's sequencing;
* `Prog.runFor` — alone, and cut short after some number of operations; `Prog.resultFor`: what
  it has returned by then.  `Prog.Throughout` is what holds wherever it is cut, with
  `Throughout.bind` and `Throughout.call`;
* `Prog.Returns` — alone, whatever its operations return: the operations it performs, with
  what each returned, and its result.  `Returns.of_pure` and `Returns.of_call` take it apart;
* `Prog.Safe` — among other threads.  Before every operation, and after the last, the
  others may take any step of `rely`; every operation of the program is one of `guar`.
  `Safe.bind` and `Safe.call` follow the program's own shape,
  `Safe.interfere` absorbs a step of another thread, and `Safe.advance` one of its own.

A loop that may wait on other threads takes its number of rounds as `fuel` and is
`stuck` without it: every finite prefix of an execution is one with enough fuel.
-/

/-- A program whose operations `o` return a `Res o`. -/
inductive Prog {Op : Type} (Res : Op → Type) (α : Type) : Type
  /-- Return a value. -/
  | pure (a : α)
  /-- Perform an operation and go on with its result. -/
  | op (o : Op) (next : Res o → Prog Res α)
  /-- Never take a step again. -/
  | stuck

namespace Prog

variable {Op : Type} {Res : Op → Type} {α β σ : Type}

/-- Sequencing. -/
protected def bind : Prog Res α → (α → Prog Res β) → Prog Res β
  | .pure a, f => f a
  | .op o next, f => .op o fun r => (next r).bind f
  | .stuck, _ => .stuck

instance : Monad (Prog Res) where
  pure := .pure
  bind := .bind

/-- Perform one operation. -/
def call (o : Op) : Prog Res (Res o) := .op o .pure

/-- Returning what a program returns is the program. -/
theorem bind_pure' (p : Prog Res α) : p.bind .pure = p := by
  induction p with
  | pure a => rfl
  | op o next ih => exact congrArg (Prog.op o) (funext ih)
  | stuck => rfl

/-- Sequencing is associative. -/
theorem bind_assoc' {γ : Type} (p : Prog Res α) (f : α → Prog Res β) (g : β → Prog Res γ) :
    (p.bind f).bind g = p.bind fun a => (f a).bind g := by
  induction p with
  | pure a => rfl
  | op o next ih => exact congrArg (Prog.op o) (funext ih)
  | stuck => rfl

instance : LawfulMonad (Prog Res) :=
  LawfulMonad.mk' _ bind_pure' (fun _ _ => rfl) bind_assoc'

/-! ## Alone -/

variable (exec : (o : Op) → σ → Res o × σ)

/-- Run a program alone from a state; `none` when it gets stuck. -/
def run : Prog Res α → σ → Option (α × σ)
  | .pure a, s => some (a, s)
  | .op o next, s => (next (exec o s).1).run (exec o s).2
  | .stuck, _ => none

/-- A sequence runs its first part, then the second from what the first left. -/
theorem run_bind (p : Prog Res α) (f : α → Prog Res β) (s : σ) :
    (p >>= f).run exec s = (p.run exec s).bind fun r => (f r.1).run exec r.2 := by
  induction p generalizing s with
  | pure a => rfl
  | op o next ih => exact ih _ _
  | stuck => rfl

/-- A sequence whose first part is known to return. -/
theorem run_bind_of {p : Prog Res α} {f : α → Prog Res β} {s s' : σ} {a : α}
    (h : p.run exec s = some (a, s')) : (p >>= f).run exec s = (f a).run exec s' := by
  rw [run_bind, h]
  rfl

/-- A mapped program that is known to return. -/
theorem run_map_of {p : Prog Res α} (f : α → β) {s s' : σ} {a : α}
    (h : p.run exec s = some (a, s')) : (f <$> p).run exec s = some (f a, s') := by
  rw [map_eq_pure_bind, run_bind_of exec h]
  rfl

/-- A sequence that starts with an operation performs it. -/
theorem run_call_bind (o : Op) (f : Res o → Prog Res β) (s : σ) :
    (call o >>= f).run exec s = (f (exec o s).1).run exec (exec o s).2 := rfl

/-! ## Cut short -/

/-- The state after at most `n` operations of a program alone. -/
def runFor : ℕ → Prog Res α → σ → σ
  | 0, _, s => s
  | _ + 1, .pure _, s => s
  | n + 1, .op o next, s => runFor n (next (exec o s).1) (exec o s).2
  | _ + 1, .stuck, s => s

/-- What a program alone has returned after at most `n` operations. -/
def resultFor : ℕ → Prog Res α → σ → Option α
  | _, .pure a, _ => some a
  | n + 1, .op o next, s => resultFor n (next (exec o s).1) (exec o s).2
  | 0, .op _ _, _ | _, .stuck, _ => none

/-- `I` holds before and after every operation of a program alone, and what it returns and
    leaves meets `Q`. -/
def Throughout (I : σ → Prop) : Prog Res α → (α → σ → Prop) → σ → Prop
  | .pure a, Q, s => I s ∧ Q a s
  | .op o next, Q, s => I s ∧ (next (exec o s).1).Throughout I Q (exec o s).2
  | .stuck, _, s => I s

section Throughout

variable {exec} {I I' : σ → Prop} {Q Q' : α → σ → Prop} {s : σ}

/-- What holds throughout holds at the start. -/
theorem Throughout.start {p : Prog Res α} (h : p.Throughout exec I Q s) : I s := by
  cases p with
  | pure a => exact h.1
  | op o next => exact h.1
  | stuck => exact h

/-- **Cut rule.** What holds throughout holds wherever the program is cut. -/
theorem Throughout.runFor {p : Prog Res α} (h : p.Throughout exec I Q s) (n : ℕ) :
    I (p.runFor exec n s) := by
  induction n generalizing p s with
  | zero => exact h.start
  | succ n ih =>
    cases p with
    | pure a => exact h.1
    | op o next => exact ih h.2
    | stuck => exact h

/-- What has returned by a cut meets what the program promises. -/
theorem Throughout.resultFor {p : Prog Res α} (h : p.Throughout exec I Q s) {n : ℕ} {a : α}
    (hresult : p.resultFor exec n s = some a) : Q a (p.runFor exec n s) := by
  induction n generalizing p s with
  | zero =>
    cases p with
    | pure b => exact Option.some.inj hresult ▸ h.2
    | op o next => cases hresult
    | stuck => cases hresult
  | succ n ih =>
    cases p with
    | pure b => exact Option.some.inj hresult ▸ h.2
    | op o next => exact ih h.2 hresult
    | stuck => cases hresult

/-- A program may promise less. -/
theorem Throughout.mono (hI : ∀ t, I t → I' t) (hQ : ∀ a t, I t → Q a t → Q' a t)
    {p : Prog Res α} (h : p.Throughout exec I Q s) : p.Throughout exec I' Q' s := by
  induction p generalizing s with
  | pure a => exact ⟨hI s h.1, hQ a s h.1 h.2⟩
  | op o next ih => exact ⟨hI s h.1, ih _ h.2⟩
  | stuck => exact hI s h

/-- **Sequencing rule.** What the first part leaves is where the second starts. -/
theorem Throughout.bind {p : Prog Res α} {f : α → Prog Res β} {Q : β → σ → Prop}
    (h : p.Throughout exec I (fun a t => (f a).Throughout exec I Q t) s) :
    (p >>= f).Throughout exec I Q s := by
  induction p generalizing s with
  | pure a => exact h.2
  | op o next ih => exact ⟨h.1, ih _ h.2⟩
  | stuck => exact h

/-- **Operation rule.** -/
theorem Throughout.call {o : Op} {f : Res o → Prog Res β} {Q : β → σ → Prop} (hI : I s)
    (h : (f (exec o s).1).Throughout exec I Q (exec o s).2) :
    (Prog.call o >>= f).Throughout exec I Q s := ⟨hI, h⟩

end Throughout

/-! ## Whatever the operations return -/

/-- The program returns `a` after performing the operations of `calls`, each with its result. -/
inductive Returns : Prog Res α → List ((o : Op) × Res o) → α → Prop
  | pure (a : α) : Returns (.pure a) [] a
  | op {o : Op} {next : Res o → Prog Res α} {r : Res o} {calls : List ((o : Op) × Res o)} {a : α}
      (rest : Returns (next r) calls a) : Returns (.op o next) (⟨o, r⟩ :: calls) a

variable {calls : List ((o : Op) × Res o)}

/-- A returned value takes no operation. -/
theorem Returns.of_pure {a b : α} (h : (Pure.pure a : Prog Res α).Returns calls b) :
    calls = [] ∧ b = a := by
  cases h
  exact ⟨rfl, rfl⟩

/-- A program that starts with an operation performs it first. -/
theorem Returns.of_call {o : Op} {f : Res o → Prog Res β} {b : β}
    (h : (call o >>= f).Returns calls b) :
    ∃ r rest, calls = ⟨o, r⟩ :: rest ∧ (f r).Returns rest b := by
  cases h with
  | op rest => exact ⟨_, _, rfl, rest⟩

/-- A sequence returns as its first part does, and then its second. -/
theorem Returns.of_bind {p : Prog Res α} {f : α → Prog Res β} {b : β}
    (h : (p >>= f).Returns calls b) :
    ∃ calls₁ calls₂ a, calls = calls₁ ++ calls₂ ∧ p.Returns calls₁ a ∧
      (f a).Returns calls₂ b := by
  induction p generalizing calls with
  | pure a => exact ⟨[], calls, a, rfl, .pure a, h⟩
  | op o next ih =>
    cases h with
    | op rest =>
      obtain ⟨calls₁, calls₂, a, rfl, hp, hf⟩ := ih _ rest
      exact ⟨_ :: calls₁, calls₂, a, rfl, .op hp, hf⟩
  | stuck => cases h

/-- A mapped program returns as the program does. -/
theorem Returns.of_map {p : Prog Res α} {f : α → β} {b : β} (h : (f <$> p).Returns calls b) :
    ∃ a, p.Returns calls a ∧ b = f a := by
  rw [map_eq_pure_bind] at h
  obtain ⟨calls₁, calls₂, a, rfl, hp, hf⟩ := h.of_bind
  obtain ⟨rfl, rfl⟩ := hf.of_pure
  exact ⟨a, by rwa [List.append_nil], rfl⟩

/-- What a handler runs a program to is one of the ways it returns. -/
theorem Returns.of_run (exec : (o : Op) → σ → Res o × σ) {p : Prog Res α} {s t : σ} {a : α}
    (h : p.run exec s = some (a, t)) : ∃ calls, p.Returns calls a := by
  induction p generalizing s with
  | pure b =>
    cases h
    exact ⟨[], .pure _⟩
  | op o next ih =>
    obtain ⟨calls, hreturns⟩ := ih _ h
    exact ⟨_, .op hreturns⟩
  | stuck => cases h

/-! ## Among other threads -/

variable (rely guar : σ → σ → Prop)

/-- From `s`, with other threads stepping by `rely`, every operation of the program is a
    step of `guar`, and what it returns and leaves meets `Q`, whatever the others did. -/
def Safe : Prog Res α → (α → σ → Prop) → σ → Prop
  | .pure a, Q, s => ∀ t, rely s t → Q a t
  | .op o next, Q, s =>
    -- The others may move between the last operation and this one, never within it.
    ∀ t, rely s t → guar t (exec o t).2 ∧ (next (exec o t).1).Safe Q (exec o t).2
  -- A program out of fuel takes no step that could break anything.
  | .stuck, _, _ => True

variable {exec rely guar} {Q Q' : α → σ → Prop} {s t : σ}

/-- A step of another thread leaves the program safe. -/
theorem Safe.interfere (htrans : ∀ a b c, rely a b → rely b c → rely a c) {p : Prog Res α}
    (h : p.Safe exec rely guar Q s) (hst : rely s t) : p.Safe exec rely guar Q t := by
  cases p with
  | pure a => exact fun u hu => h u (htrans _ _ _ hst hu)
  | op o next => exact fun u hu => h u (htrans _ _ _ hst hu)
  | stuck => trivial

/-- The program's own next operation is a step of `guar` and leaves the rest safe. -/
theorem Safe.advance (hrefl : ∀ a, rely a a) {o : Op} {next : Res o → Prog Res α}
    (h : (Prog.op o next).Safe exec rely guar Q s) :
    guar s (exec o s).2 ∧ (next (exec o s).1).Safe exec rely guar Q (exec o s).2 :=
  h s (hrefl s)

/-- Returning is safe where what is promised survives the other threads. -/
theorem Safe.pure (a : α) (h : ∀ t, rely s t → Q a t) :
    (Pure.pure a : Prog Res α).Safe exec rely guar Q s := h

/-- A safe program may promise less. -/
theorem Safe.mono (hQ : ∀ a t, Q a t → Q' a t) {p : Prog Res α}
    (h : p.Safe exec rely guar Q s) : p.Safe exec rely guar Q' s := by
  induction p generalizing s with
  | pure a => exact fun t ht => hQ a t (h t ht)
  | op o next ih => exact fun t ht => ⟨(h t ht).1, ih _ (h t ht).2⟩
  | stuck => trivial

/-- **Sequencing rule.** What the first part leaves is where the second starts. -/
theorem Safe.bind (hrefl : ∀ a, rely a a) {p : Prog Res α} {f : α → Prog Res β}
    {Q : β → σ → Prop}
    (h : p.Safe exec rely guar (fun a t => (f a).Safe exec rely guar Q t) s) :
    (p >>= f).Safe exec rely guar Q s := by
  induction p generalizing s with
  | pure a => exact h s (hrefl s)
  | op o next ih => exact fun t ht => ⟨(h t ht).1, ih _ (h t ht).2⟩
  | stuck => trivial

/-- **Operation rule.** With an assertion that holds and that the other threads keep, it
    is enough to look at the operation in the states where the assertion holds. -/
theorem Safe.call {P : σ → Prop} (hP : P s) (hstable : ∀ t, P s → rely s t → P t) {o : Op}
    {f : Res o → Prog Res β} {Q : β → σ → Prop}
    (h : ∀ t, P t → guar t (exec o t).2 ∧ (f (exec o t).1).Safe exec rely guar Q (exec o t).2) :
    (Prog.call o >>= f).Safe exec rely guar Q s :=
  fun t ht => h t (hstable t hP ht)

end Prog

end Noire.Lib
