import Noire.Lib.Blocks
import Mathlib.Algebra.GroupWithZero.Nat
import Mathlib.Data.Vector.Defs

namespace Noire.Lib

/-!
# Machines over frames

A machine that takes one frame of `n` inputs at a time and gives as many outputs for it.

* `FrameMachine.run` — its outputs for some frames, one after another;
* `FrameMachine.output` — the output at a position of an endless stream;
* `run_frames` — the first frames of a stream give its first outputs;
* `run_blocks` — so do the blocks of a list that is the beginning of the stream.
-/

/-- A machine over frames of `n` inputs. -/
structure FrameMachine (σ α β : Type*) (n : ℕ) where
  step : σ → List α → σ × Vector β n

namespace FrameMachine

variable {σ α β : Type*} {n : ℕ} (machine : FrameMachine σ α β n)

/-- The state after some frames, and their outputs. -/
def run : σ → List (List α) → σ × List β
  | s, [] => (s, [])
  | s, frame :: frames =>
    let first := machine.step s frame
    let others := run first.1 frames
    (others.1, first.2.toList ++ others.2)

theorem run_append (s : σ) (frames others : List (List α)) :
    machine.run s (frames ++ others) =
      ((machine.run (machine.run s frames).1 others).1,
        (machine.run s frames).2 ++ (machine.run (machine.run s frames).1 others).2) := by
  induction frames generalizing s with
  | nil => rfl
  | cons frame frames ih =>
    rw [List.cons_append, run, ih]
    simp [run]

/-- One more frame. -/
theorem run_concat (s : σ) (frames : List (List α)) (frame : List α) :
    machine.run s (frames ++ [frame]) =
      ((machine.step (machine.run s frames).1 frame).1,
        (machine.run s frames).2 ++
          (machine.step (machine.run s frames).1 frame).2.toList) := by
  rw [run_append]
  simp [run]

/-- There are as many outputs as inputs. -/
theorem length_run (s : σ) (frames : List (List α)) :
    (machine.run s frames).2.length = n * frames.length := by
  induction frames generalizing s with
  | nil => rfl
  | cons frame frames ih =>
    rw [run, List.length_append, ih, Vector.length_toList, List.length_cons, Nat.mul_succ,
      Nat.add_comm]

variable (n) in
/-- One frame of a stream. -/
def frameAt (stream : ℕ → α) (k : ℕ) : List α := (List.range n).map fun j => stream (n * k + j)

/-- The state before a frame of a stream. -/
def stateAt (s : σ) (stream : ℕ → α) : ℕ → σ
  | 0 => s
  | k + 1 => (machine.step (stateAt s stream k) (frameAt n stream k)).1

/-- The output at a position of a stream: one of its frame's. -/
def output [NeZero n] (s : σ) (stream : ℕ → α) (i : ℕ) : β :=
  (machine.step (machine.stateAt s stream (i / n)) (frameAt n stream (i / n))).2.get
    ⟨i % n, Nat.mod_lt i (Nat.pos_of_neZero n)⟩

variable [NeZero n]

/-- **The first frames of a stream** give its first outputs. -/
theorem run_frames (s : σ) (stream : ℕ → α) (m : ℕ) :
    machine.run s ((List.range m).map (frameAt n stream)) =
      (machine.stateAt s stream m, (List.range (n * m)).map (machine.output s stream)) := by
  induction m with
  | zero => rfl
  | succ m ih =>
    rw [List.range_succ, List.map_append, List.map_singleton, run_concat, ih, Nat.mul_succ,
      List.range_add, List.map_append, List.map_map]
    refine Prod.ext rfl (congrArg (_ ++ ·) ?_)
    refine List.ext_getElem (by simp) fun j hj _ => ?_
    have hj : j < n := by simpa using hj
    simp only [Vector.getElem_toList, List.getElem_map, List.getElem_range, Function.comp_apply]
    unfold output
    simp only [Nat.mul_add_div (Nat.pos_of_neZero n), Nat.div_eq_of_lt hj, Nat.add_zero,
      Nat.mul_add_mod, Nat.mod_eq_of_lt hj]
    rfl

omit [NeZero n] in
/-- The blocks of a list are frames of the streams that begin with it. -/
theorem blocks_eq_frames {xs : List α} {stream : ℕ → α}
    (h : ∀ (i : ℕ) (hi : i < xs.length), xs[i] = stream i) :
    blocks n xs = (List.range (xs.length / n)).map (frameAt n stream) := by
  refine List.map_congr_left fun k hk => ?_
  have hk : k < xs.length / n := List.mem_range.mp hk
  have hle : n * (k + 1) ≤ xs.length :=
    Nat.le_trans (Nat.mul_le_mul_left n hk) (Nat.mul_div_le xs.length n)
  rw [Nat.mul_succ] at hle
  refine List.ext_getElem ?_ fun j hj _ => ?_
  · rw [List.length_take, List.length_drop, frameAt, List.length_map, List.length_range]
    omega
  · rw [List.getElem_take, List.getElem_drop, h]
    simp [frameAt]

/-- **The blocks of a list** give the first outputs of a stream that begins with it. -/
theorem run_blocks (s : σ) {xs : List α} {stream : ℕ → α}
    (h : ∀ (i : ℕ) (hi : i < xs.length), xs[i] = stream i) :
    (machine.run s (blocks n xs)).2 =
      (List.range (n * (xs.length / n))).map (machine.output s stream) := by
  rw [blocks_eq_frames h, run_frames]

end FrameMachine

end Noire.Lib
