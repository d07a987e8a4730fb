import Mathlib.Data.List.Basic
import Mathlib.Tactic.Common

namespace Noire.Lib

/-!
# Cutting a list into blocks

* `blocks n xs` — the consecutive complete blocks of `n` elements of `xs`, and
  `leftover n xs` what follows them;
* `getElem?_blocks`, `flatten_take_blocks` — one block, and the first blocks together;
* `blocks_fill` — filling a block that has begun; `fill_induct`: the induction of a loop that fills
  one after the other;
* `blocks_append` — cutting a list that grows: only the leftover of its beginning meets what
  is appended;
* `bind_foldlM_blocks` — a loop over the blocks of a list from some position on: what holds at
  a position, and is kept by the block there, holds where the leftover begins;
  `foldlM_blocks` and `foldlM_blocks_some` — the loop over a state, and one that may stop.
-/

variable {α : Type*} {n : ℕ}

/-- The consecutive complete blocks of `n` elements. -/
def blocks (n : ℕ) (xs : List α) : List (List α) :=
  (List.range (xs.length / n)).map fun k => (xs.drop (n * k)).take n

/-- What follows the complete blocks. -/
def leftover (n : ℕ) (xs : List α) : List α := xs.drop (n * (xs.length / n))

@[simp] theorem length_blocks (n : ℕ) (xs : List α) : (blocks n xs).length = xs.length / n := by
  simp [blocks]

/-- Every block is complete. -/
theorem length_of_mem_blocks {xs block : List α} (h : block ∈ blocks n xs) :
    block.length = n := by
  obtain ⟨k, hk, rfl⟩ := List.mem_map.mp h
  have hle : n * (k + 1) ≤ n * (xs.length / n) :=
    Nat.mul_le_mul_left n (List.mem_range.mp hk)
  have := Nat.mul_div_le xs.length n
  rw [Nat.mul_succ] at hle
  rw [List.length_take, List.length_drop]
  omega

/-- What is in a block is in the list. -/
theorem mem_of_mem_blocks {xs block : List α} (h : block ∈ blocks n xs) {x : α}
    (hx : x ∈ block) : x ∈ xs := by
  obtain ⟨k, -, rfl⟩ := List.mem_map.mp h
  exact List.mem_of_mem_drop (List.mem_of_mem_take hx)

theorem getElem?_blocks {xs : List α} {k : ℕ} (hk : k < xs.length / n) :
    (blocks n xs)[k]? = some ((xs.drop (n * k)).take n) := by
  rw [blocks, List.getElem?_map, List.getElem?_range hk]
  rfl

/-- The first blocks are the beginning of the list. -/
theorem flatten_take_blocks {xs : List α} {k : ℕ} (hk : k ≤ xs.length / n) :
    ((blocks n xs).take k).flatten = xs.take (n * k) := by
  induction k with
  | zero => rw [List.take_zero, Nat.mul_zero, List.take_zero, List.flatten_nil]
  | succ k ih =>
    rw [List.take_add_one, getElem?_blocks hk, List.flatten_append, ih (Nat.le_of_lt hk),
      Nat.mul_succ, List.take_add]
    simp

/-- The leftover is shorter than a block. -/
theorem length_leftover (n : ℕ) (xs : List α) : (leftover n xs).length = xs.length % n := by
  rw [leftover, List.length_drop]
  have := Nat.div_add_mod xs.length n
  omega

/-- A list shorter than a block has none. -/
theorem blocks_of_lt {xs : List α} (h : xs.length < n) : blocks n xs = [] := by
  rw [blocks, Nat.div_eq_of_lt h]
  rfl

theorem leftover_of_lt {xs : List α} (h : xs.length < n) : leftover n xs = xs := by
  rw [leftover, Nat.div_eq_of_lt h, Nat.mul_zero, List.drop_zero]

section Cut

variable (hn : 0 < n) {block : List α} (hblock : block.length = n) (xs : List α)
include hn hblock

/-- A complete block at the head is the first one. -/
theorem blocks_block_append : blocks n (block ++ xs) = block :: blocks n xs := by
  have hlen : (block ++ xs).length / n = xs.length / n + 1 := by
    rw [List.length_append, hblock, Nat.add_div_left _ hn]
  rw [blocks, hlen, List.range_succ_eq_map, List.map_cons, List.map_map]
  congr 1
  · rw [Nat.mul_zero, List.drop_zero, ← hblock, List.take_left]
  · refine List.map_congr_left fun k _ => ?_
    show (List.drop (n * (k + 1)) (block ++ xs)).take n = _
    rw [Nat.mul_succ, Nat.add_comm, ← List.drop_drop, ← hblock, List.drop_left]

theorem leftover_block_append : leftover n (block ++ xs) = leftover n xs := by
  rw [leftover, List.length_append, hblock, Nat.add_div_left _ hn, Nat.mul_succ, Nat.add_comm,
    ← List.drop_drop, ← hblock, List.drop_left, leftover, hblock]

end Cut

section Fill

variable {k : ℕ} {stored rest : List α}

/-- What is taken to fill a block, and what is left after it. -/
theorem fill_append_drop (k : ℕ) (stored rest : List α) :
    stored ++ rest.take k ++ rest.drop k = stored ++ rest := by
  rw [List.append_assoc, List.take_append_drop]

/-- A block that is filled is the first one. -/
theorem blocks_fill (hn : 0 < n) (hfull : (stored ++ rest.take k).length = n) :
    blocks n (stored ++ rest) = (stored ++ rest.take k) :: blocks n (rest.drop k) ∧
      leftover n (stored ++ rest) = leftover n (rest.drop k) := by
  rw [← fill_append_drop k stored rest]
  exact ⟨blocks_block_append hn hfull _, leftover_block_append hn hfull _⟩

/-- **Filling rule.**  A loop that fills blocks takes, turn by turn, as much as the block that has
    begun still needs, and passes what it takes through `f`: either the block completes and is the
    first one, or the input has run out.  What holds before a turn if it holds after it holds
    however much is there. -/
theorem fill_induct {β : Type*} (hn : 0 < n) (f : β → α) {motive : List α → List β → Prop}
    (done : ∀ stored, stored.length < n → motive stored [])
    (full : ∀ stored rest k, stored.length < n → rest ≠ [] →
      k = min (n - stored.length) rest.length → (stored ++ (rest.take k).map f).length = n →
      blocks n (stored ++ rest.map f) =
        (stored ++ (rest.take k).map f) :: blocks n ((rest.drop k).map f) →
      leftover n (stored ++ rest.map f) = leftover n ((rest.drop k).map f) →
      motive [] (rest.drop k) → motive stored rest)
    (short : ∀ stored rest k, stored.length < n → rest ≠ [] →
      k = min (n - stored.length) rest.length → (stored ++ (rest.take k).map f).length < n →
      stored ++ rest.map f = stored ++ (rest.take k).map f ++ (rest.drop k).map f →
      motive (stored ++ (rest.take k).map f) (rest.drop k) → motive stored rest)
    {stored : List α} {rest : List β} (hstored : stored.length < n) : motive stored rest := by
  -- The induction is on what is left to give, which each round shortens.
  induction hlen : rest.length using Nat.strongRecOn generalizing stored rest with
  | ind len ih =>
    subst hlen
    by_cases hrest : rest = []
    · subst hrest
      exact done stored hstored
    · have hpos := List.length_pos_of_ne_nil hrest
      obtain ⟨k, hk⟩ : ∃ k, k = min (n - stored.length) rest.length := ⟨_, rfl⟩
      have hdrop : (rest.drop k).length < rest.length := by
        rw [List.length_drop, hk]
        omega
      have hlength : (stored ++ (rest.take k).map f).length = stored.length + k := by
        rw [List.length_append, List.length_map, List.length_take, hk]
        omega
      by_cases hfull : (stored ++ (rest.take k).map f).length = n
      · -- the block is complete: the rest starts on an empty one
        have hfull' := hfull
        rw [List.map_take] at hfull'
        obtain ⟨hblocks, hleft⟩ := blocks_fill hn hfull'
        rw [← List.map_drop, ← List.map_take] at hblocks
        rw [← List.map_drop] at hleft
        exact full stored rest k hstored hrest hk hfull hblocks hleft
          (ih _ hdrop (by rwa [List.length_nil]) rfl)
      · -- it is not, and then nothing is left to give
        have hlt : (stored ++ (rest.take k).map f).length < n := by
          rw [hlength] at hfull ⊢
          omega
        have hsame : stored ++ rest.map f =
            stored ++ (rest.take k).map f ++ (rest.drop k).map f := by
          rw [List.map_take, List.map_drop, fill_append_drop]
        exact short stored rest k hstored hrest hk hlt hsame (ih _ hdrop hlt rfl)

end Fill

/-- **Growing.** What is appended meets the leftover only. -/
theorem blocks_append (hn : 0 < n) (xs ys : List α) :
    blocks n (xs ++ ys) = blocks n xs ++ blocks n (leftover n xs ++ ys) ∧
      leftover n (xs ++ ys) = leftover n (leftover n xs ++ ys) := by
  -- One block is taken off the front at a time, until what is left is shorter than one.
  induction hlen : xs.length using Nat.strongRecOn generalizing xs with
  | ind len ih =>
    subst hlen
    rcases Nat.lt_or_ge xs.length n with hlt | hge
    · rw [blocks_of_lt hlt, leftover_of_lt hlt]
      exact ⟨rfl, rfl⟩
    · obtain ⟨block, rest, rfl, hblock⟩ : ∃ block rest, xs = block ++ rest ∧ block.length = n :=
        ⟨xs.take n, xs.drop n, (List.take_append_drop n xs).symm, List.length_take_of_le hge⟩
      have hshort : rest.length < (block ++ rest).length := by
        rw [List.length_append]
        omega
      obtain ⟨hblocks, hleft⟩ := ih rest.length hshort rest rfl
      rw [List.append_assoc, blocks_block_append hn hblock, blocks_block_append hn hblock,
        leftover_block_append hn hblock, leftover_block_append hn hblock]
      exact ⟨congrArg (block :: ·) hblocks, hleft⟩

/-- **Loop rule.** An assertion on a position of the list and on the computation so far, that is
    kept by the loop's turn on the block at that position. -/
theorem bind_foldlM_blocks {α τ : Type} {m : Type → Type} [Monad m] [LawfulMonad m] {n : ℕ}
    (hn : 0 < n) (f : τ → List α → m τ) {xs : List α} (I : ℕ → m τ → Prop)
    (hturn : ∀ p x, I p x → p + n ≤ xs.length →
      I (p + n) (x >>= fun t => f t ((xs.drop p).take n)))
    {p : ℕ} {x : m τ} (h : I p x) (hp : p ≤ xs.length) :
    ∃ q, p ≤ q ∧ q ≤ xs.length ∧ xs.drop q = leftover n (xs.drop p) ∧
      I q (x >>= (blocks n (xs.drop p)).foldlM f) := by
  -- By what is left: a whole block is taken off the front.
  induction hleft : xs.length - p using Nat.strongRecOn generalizing p x with
  | ind left ih =>
    by_cases hblock : p + n ≤ xs.length
    · have hsplit : xs.drop p = (xs.drop p).take n ++ xs.drop (p + n) := by
        rw [← List.drop_drop, List.take_append_drop]
      have hlen : ((xs.drop p).take n).length = n := by
        rw [List.length_take, List.length_drop]
        omega
      obtain ⟨q, hle, hq, hleftover, hI⟩ :=
        ih (xs.length - (p + n)) (by omega) (hturn p x h hblock) hblock rfl
      refine ⟨q, Nat.le_of_add_right_le hle, hq, ?_, ?_⟩
      · rw [hsplit, leftover_block_append hn hlen]
        exact hleftover
      · have hrest : x >>= (blocks n (xs.drop p)).foldlM f =
            (x >>= fun t => f t ((xs.drop p).take n)) >>=
              (blocks n (xs.drop (p + n))).foldlM f := by
          rw [bind_assoc]
          refine bind_congr fun t => ?_
          nth_rewrite 1 [hsplit]
          rw [blocks_block_append hn hlen, List.foldlM_cons]
        rw [hrest]
        exact hI
    · -- less than a block is left, which is the leftover
      have hshort : (xs.drop p).length < n := by
        rw [List.length_drop]
        omega
      rw [blocks_of_lt hshort, leftover_of_lt hshort]
      refine ⟨p, Nat.le_refl _, hp, rfl, ?_⟩
      rwa [show (x >>= fun t => [].foldlM f t) = x from bind_pure x]

/-- A loop over a state: the assertion is on what the loop carries and on the state. -/
theorem foldlM_blocks {α τ σ : Type} {n : ℕ} (hn : 0 < n) (f : τ → List α → StateM σ τ)
    {xs : List α} (I : ℕ → τ → σ → Prop)
    (hturn : ∀ p t s, I p t s → p + n ≤ xs.length →
      I (p + n) (f t ((xs.drop p).take n) s).1 (f t ((xs.drop p).take n) s).2)
    {p : ℕ} {t : τ} {s : σ} (h : I p t s) (hp : p ≤ xs.length) :
    ∃ q, p ≤ q ∧ q ≤ xs.length ∧ xs.drop q = leftover n (xs.drop p) ∧
      I q ((blocks n (xs.drop p)).foldlM f t s).1 ((blocks n (xs.drop p)).foldlM f t s).2 :=
  bind_foldlM_blocks hn f (fun p x => I p (x s).1 (x s).2) (fun p x => hturn p (x s).1 (x s).2)
    (x := pure t) h hp

/-- A loop over a state that may stop short, if no turn of it does. -/
theorem foldlM_blocks_some {α τ σ : Type} {n : ℕ} (hn : 0 < n)
    (f : τ → List α → StateT σ Option τ) {xs : List α} (I : ℕ → τ → σ → Prop)
    (hturn : ∀ p t s, I p t s → p + n ≤ xs.length →
      ∃ t' s', f t ((xs.drop p).take n) s = some (t', s') ∧ I (p + n) t' s')
    {p : ℕ} {t : τ} {s : σ} (h : I p t s) (hp : p ≤ xs.length) :
    ∃ q t' s', p ≤ q ∧ q ≤ xs.length ∧ xs.drop q = leftover n (xs.drop p) ∧
      (blocks n (xs.drop p)).foldlM f t s = some (t', s') ∧ I q t' s' := by
  obtain ⟨q, hle, hq, hleftover, t', s', hrun, hI⟩ := bind_foldlM_blocks hn f
    (fun p x => ∃ t' s', x s = some (t', s') ∧ I p t' s') (fun p x hx hblock => by
      obtain ⟨t', s', hrun, hI⟩ := hx
      obtain ⟨t'', s'', hturned, hI'⟩ := hturn p t' s' hI hblock
      refine ⟨t'', s'', ?_, hI'⟩
      change (x s).bind _ = _
      rw [hrun]
      exact hturned) (x := pure t) ⟨t, s, rfl, h⟩ hp
  exact ⟨q, t', s', hle, hq, hleftover, hrun, hI⟩

end Noire.Lib
