import Mathlib.Data.List.Basic
import Mathlib.Tactic.Common

namespace Noire.Lib

/-!
# Hysteresis

A flag over a sequence of inputs: an input may enter, which raises the flag, or be low; as many low
inputs in a row as confirm it lower the flag, and any other starts the count again.

* `Hysteresis` and `Hysteresis.step` — the flag with its count;
* `LowRun` — as many low inputs in a row as lower it; `Held` — an input entered, and there was no
  such row since;
* `lowRun_concat`, `held_concat` — what one more input makes of both;
* `Hysteresis.Tracks` — the flag is up exactly while it is held, and the count stays below what
  confirms; `Tracks.nil` and `Tracks.step`: so it does, before any input and after every one.

Both properties of a sequence are followed from its end: one more input changes what is at the end
only.
-/

variable {ι : Type*}

/-! ## Rows of low inputs -/

section Rows

variable (enter low : ι → Prop) (confirm : ℕ)

/-- `confirm` low inputs in a row. -/
def LowRun (xs : List ι) : Prop := ∃ row, row <:+: xs ∧ row.length = confirm ∧ ∀ x ∈ row, low x

/-- An input entered, and since then there were no `confirm` low ones in a row. -/
def Held (xs : List ι) : Prop :=
  ∃ before x after, xs = before ++ x :: after ∧ enter x ∧ ¬LowRun low confirm after

variable {enter low confirm}

/-- No row of low inputs ends in one that is not low. -/
theorem row_of_not_low {xs row : List ι} {x : ι} (hx : ¬low x) (hrow : row <:+ xs ++ [x])
    (hlow : ∀ y ∈ row, low y) : row = [] := by
  rcases List.suffix_concat_iff.mp hrow with rfl | ⟨row, rfl, -⟩
  · rfl
  · exact absurd (hlow x (List.mem_append_right row List.mem_cons_self)) hx

/-- A row is there as soon as it is at the end. -/
theorem lowRun_concat {xs : List ι} {x : ι} : LowRun low confirm (xs ++ [x]) ↔
    LowRun low confirm xs ∨ ∃ row, row <:+ xs ++ [x] ∧ row.length = confirm ∧ ∀ y ∈ row, low y := by
  constructor
  · rintro ⟨row, hrow, hlength, hlow⟩
    rcases List.infix_concat_iff.mp hrow with hend | hbefore
    · exact .inr ⟨row, hend, hlength, hlow⟩
    · exact .inl ⟨row, hbefore, hlength, hlow⟩
  · rintro (⟨row, hrow, hlength, hlow⟩ | ⟨row, hrow, hlength, hlow⟩)
    · exact ⟨row, List.infix_concat_iff.mpr (.inr hrow), hlength, hlow⟩
    · exact ⟨row, hrow.isInfix, hlength, hlow⟩

/-- An input that is not low completes no row. -/
theorem lowRun_concat_of_not_low (hconfirm : 0 < confirm) {xs : List ι} {x : ι} (hx : ¬low x) :
    LowRun low confirm (xs ++ [x]) ↔ LowRun low confirm xs := by
  rw [lowRun_concat, or_iff_left]
  rintro ⟨row, hrow, hlength, hlow⟩
  rw [row_of_not_low hx hrow hlow] at hlength
  exact Nat.ne_of_lt hconfirm hlength

theorem not_lowRun_nil (hconfirm : 0 < confirm) : ¬LowRun low confirm [] := by
  rintro ⟨row, hrow, hlength, -⟩
  rw [List.infix_nil.mp hrow] at hlength
  exact Nat.ne_of_lt hconfirm hlength

/-- What enters is the last input, or was held before it. -/
theorem held_concat {xs : List ι} {x : ι} : Held enter low confirm (xs ++ [x]) ↔
    (enter x ∧ ¬LowRun low confirm []) ∨
      ∃ before y after, xs = before ++ y :: after ∧ enter y ∧
        ¬LowRun low confirm (after ++ [x]) := by
  constructor
  · rintro ⟨before, y, after, hxs, hy, hrun⟩
    rcases after.eq_nil_or_concat' with rfl | ⟨after, last, rfl⟩
    · obtain ⟨-, hlast⟩ := List.append_inj' hxs rfl
      obtain rfl := List.singleton_inj.mp hlast
      exact .inl ⟨hy, hrun⟩
    · rw [← List.cons_append, ← List.append_assoc] at hxs
      obtain ⟨hinit, hlast⟩ := List.append_inj' hxs rfl
      obtain rfl := List.singleton_inj.mp hlast
      exact .inr ⟨before, y, after, hinit, hy, hrun⟩
  · rintro (⟨hx, hrun⟩ | ⟨before, y, after, rfl, hy, hrun⟩)
    · exact ⟨xs, x, [], rfl, hx, hrun⟩
    · exact ⟨before, y, after ++ [x], by simp, hy, hrun⟩

/-- Low inputs at the end are after any that is not low. -/
theorem suffix_of_low {before after row : List ι} {x : ι} (h : row <:+ before ++ x :: after)
    (hx : ¬low x) (hrow : ∀ y ∈ row, low y) : row <:+ after := by
  rcases List.suffix_or_suffix_of_suffix (List.suffix_append before (x :: after)) h with
    hlong | hshort
  · exact absurd (hrow x (hlong.mem List.mem_cons_self)) hx
  · rcases List.suffix_cons_iff.mp hshort with rfl | hafter
    · exact absurd (hrow x List.mem_cons_self) hx
    · exact hafter

end Rows

/-! ## The flag -/

/-- A flag, and how many low inputs in a row it has seen while it was up. -/
structure Hysteresis where
  active : Bool := false
  lows : ℕ := 0
  deriving DecidableEq

namespace Hysteresis

variable (enter low : ι → Prop) (confirm : ℕ)

/-- The flag after one more input. -/
def step [DecidablePred enter] [DecidablePred low] (flag : Hysteresis) (x : ι) : Hysteresis :=
  if enter x then ⟨true, 0⟩
  else if flag.active = true ∧ low x then
    if confirm ≤ flag.lows + 1 then ⟨false, 0⟩ else ⟨flag.active, flag.lows + 1⟩
  else ⟨flag.active, 0⟩

/-- The flag is up while it is held, and it counts the low inputs at the end. -/
structure Tracks (xs : List ι) (flag : Hysteresis) : Prop where
  held : flag.active = true ↔ Held enter low confirm xs
  lt : flag.lows < confirm
  row : flag.active = true → ∃ row, row <:+ xs ∧ row.length = flag.lows ∧ ∀ x ∈ row, low x
  most : flag.active = true → ∀ row, row <:+ xs → (∀ x ∈ row, low x) → row.length ≤ flag.lows

variable {enter low confirm} {xs : List ι} {flag : Hysteresis} {x : ι}

/-- An input that enters. -/
theorem Tracks.raise (hconfirm : 0 < confirm) (hx : enter x) (hlow : ¬low x) :
    Tracks enter low confirm (xs ++ [x]) ⟨true, 0⟩ where
  held := iff_of_true rfl (held_concat.mpr (.inl ⟨hx, not_lowRun_nil hconfirm⟩))
  lt := hconfirm
  row _ := ⟨[], List.nil_suffix, rfl, nofun⟩
  most _ row hrow hall := by
    rw [row_of_not_low hlow hrow hall]
    exact Nat.le_refl 0

/-- A low input that confirms. -/
theorem Tracks.lower (h : Tracks enter low confirm xs flag) (hdisjoint : ∀ y, enter y → ¬low y)
    (hactive : flag.active = true) (hx : low x) (hlast : confirm ≤ flag.lows + 1) :
    Tracks enter low confirm (xs ++ [x]) ⟨false, 0⟩ where
  held := by
    refine iff_of_false Bool.false_ne_true fun hheld => ?_
    obtain ⟨row, hrow, hlength, hall⟩ := h.row hactive
    obtain ⟨before, y, after, hxs, hy, hrun⟩ := hheld
    have hend : row ++ [x] <:+ before ++ y :: after := by
      rw [← hxs]
      exact List.suffix_concat_iff.mpr (.inr ⟨row, rfl, hrow⟩)
    have hlows : ∀ z ∈ row ++ [x], low z :=
      List.forall_mem_append.mpr ⟨hall, List.forall_mem_singleton.mpr hx⟩
    refine hrun ⟨row ++ [x], (suffix_of_low hend (hdisjoint y hy) hlows).isInfix, ?_, hlows⟩
    rw [List.length_append, hlength, List.length_singleton]
    exact Nat.le_antisymm h.lt hlast
  lt := Nat.zero_lt_of_lt h.lt
  row := nofun
  most := nofun

/-- A low input that does not. -/
theorem Tracks.count (h : Tracks enter low confirm xs flag) (hactive : flag.active = true)
    (hx : low x) (hmore : flag.lows + 1 < confirm) :
    Tracks enter low confirm (xs ++ [x]) ⟨flag.active, flag.lows + 1⟩ := by
  have hmost : ∀ row, row <:+ xs ++ [x] → (∀ y ∈ row, low y) → row.length ≤ flag.lows + 1 := by
    intro row hrow hall
    rcases List.suffix_concat_iff.mp hrow with rfl | ⟨before, rfl, hbefore⟩
    · exact Nat.zero_le _
    · rw [List.length_append]
      exact Nat.succ_le_succ
        (h.most hactive before hbefore fun y hy => hall y (List.mem_append_left _ hy))
  refine ⟨iff_of_true hactive ?_, hmore, fun _ => ?_, fun _ => hmost⟩
  · obtain ⟨before, y, after, rfl, hy, hrun⟩ := h.held.mp hactive
    refine held_concat.mpr (.inr ⟨before, y, after, rfl, hy, fun hrun' => ?_⟩)
    rcases lowRun_concat.mp hrun' with hbefore | ⟨row, hrow, hlength, hall⟩
    · exact hrun hbefore
    · -- A row at the end would be longer than what was counted.
      have hsuffix : after ++ [x] <:+ before ++ y :: after ++ [x] := by
        rw [List.append_assoc]
        exact (List.suffix_cons y (after ++ [x])).trans (List.suffix_append before _)
      have hle := hmost row (hrow.trans hsuffix) hall
      omega
  · obtain ⟨row, hrow, hlength, hall⟩ := h.row hactive
    refine ⟨row ++ [x], List.suffix_concat_iff.mpr (.inr ⟨row, rfl, hrow⟩), ?_,
      List.forall_mem_append.mpr ⟨hall, List.forall_mem_singleton.mpr hx⟩⟩
    rw [List.length_append, hlength]
    rfl

/-- Any other input, and any that does not enter while the flag is down. -/
theorem Tracks.clear (h : Tracks enter low confirm xs flag) (hx : ¬enter x)
    (hlow : ¬(flag.active = true ∧ low x)) :
    Tracks enter low confirm (xs ++ [x]) ⟨flag.active, 0⟩ := by
  have hconfirm : 0 < confirm := Nat.zero_lt_of_lt h.lt
  refine ⟨?_, hconfirm, fun _ => ⟨[], List.nil_suffix, rfl, nofun⟩, fun hactive row hrow hall => ?_⟩
  · rw [h.held, held_concat]
    constructor
    · intro hheld
      have hx' : ¬low x := fun hlow' => hlow ⟨h.held.mpr hheld, hlow'⟩
      obtain ⟨before, y, after, hxs, hy, hrun⟩ := hheld
      exact .inr ⟨before, y, after, hxs, hy, (lowRun_concat_of_not_low hconfirm hx').not.mpr hrun⟩
    · rintro (⟨hx', -⟩ | ⟨before, y, after, hxs, hy, hrun⟩)
      · exact absurd hx' hx
      · exact ⟨before, y, after, hxs, hy, fun hrun' => hrun (lowRun_concat.mpr (.inl hrun'))⟩
  · rw [row_of_not_low (fun hlow' => hlow ⟨hactive, hlow'⟩) hrow hall]
    exact Nat.le_refl 0

/-- Before any input. -/
theorem Tracks.nil (hconfirm : 0 < confirm) : Tracks enter low confirm [] {} := by
  refine ⟨iff_of_false Bool.false_ne_true ?_, hconfirm, nofun, nofun⟩
  rintro ⟨before, x, after, hxs, -⟩
  cases before <;> cases hxs

variable [DecidablePred enter] [DecidablePred low]

/-- **One more input**, whatever it is. -/
theorem Tracks.step (h : Tracks enter low confirm xs flag) (hdisjoint : ∀ y, enter y → ¬low y)
    (x : ι) : Tracks enter low confirm (xs ++ [x]) (step enter low confirm flag x) := by
  unfold Hysteresis.step
  by_cases hx : enter x
  · rw [if_pos hx]
    exact .raise (Nat.zero_lt_of_lt h.lt) hx (hdisjoint x hx)
  · rw [if_neg hx]
    by_cases hlow : flag.active = true ∧ low x
    · rw [if_pos hlow]
      split
      next hlast => exact h.lower hdisjoint hlow.1 hlow.2 hlast
      next hmore => exact h.count hlow.1 hlow.2 (Nat.not_le.mp hmore)
    · rw [if_neg hlow]
      exact h.clear hx hlow

end Hysteresis

end Noire.Lib
