import Mathlib.Data.Nat.Notation
import Mathlib.Logic.Function.Basic

namespace Noire.Lib

/-!
# Rate limiters

A limiter is asked whether something of a kind may happen at a time, and remembers when it last said
yes for each kind.  Times are natural numbers, and need not come in their order.

* `due` — an interval has passed since the last time;
* `Limited` — what is remembered accounts for all that was asked: two things of one kind that were
  let through are an interval apart, and one that was not follows another that was;
* `Limited.ask` — asking once more keeps it.
-/

variable {κ ι : Type} {interval : ℕ}

/-- An interval has passed since the last time, if there was one. -/
def due (interval : ℕ) (previous : Option ℕ) (now : ℕ) : Bool :=
  previous.all fun previous => decide (previous + interval ≤ now)

/-- What is remembered of each kind accounts for what was asked: by whom, of which kind, at what
    time, and whether it was let through. -/
structure Limited (interval : ℕ) (last : κ → Option ℕ) (asked : ι → κ → ℕ → Bool → Prop) :
    Prop where
  remembered : ∀ {i k t}, asked i k t true → ∃ latest, last k = some latest ∧ t ≤ latest
  passed : ∀ {k t}, last k = some t → ∃ i, asked i k t true
  spaced : ∀ {i j k t t'}, i ≠ j → asked i k t true → asked j k t' true →
    t + interval ≤ t' ∨ t' + interval ≤ t
  suppressed : ∀ {i k t}, asked i k t false → ∃ j t', asked j k t' true ∧ t < t' + interval

namespace Limited

variable {last : κ → Option ℕ} {asked asked' : ι → κ → ℕ → Bool → Prop}

/-- Nothing was asked. -/
theorem start (h : ∀ i k t b, ¬asked i k t b) : Limited interval (fun _ : κ => none) asked where
  remembered hasked := (h _ _ _ _ hasked).elim
  passed := by rintro _ _ ⟨⟩
  spaced _ hasked := (h _ _ _ _ hasked).elim
  suppressed hasked := (h _ _ _ _ hasked).elim

/-- What was asked matters only. -/
theorem congr (h : Limited interval last asked)
    (hsame : ∀ i k t b, asked' i k t b ↔ asked i k t b) : Limited interval last asked' := by
  obtain rfl : asked' = asked := by
    funext i k t b
    exact propext (hsame i k t b)
  exact h

/-- **Asking once more**, and remembering the time where it is let through. -/
theorem ask [DecidableEq κ] (h : Limited interval last asked) (i : ι) (k : κ) (now : ℕ)
    (hasked : ∀ j k' t b, asked' j k' t b ↔
      asked j k' t b ∨ j = i ∧ k' = k ∧ t = now ∧ b = due interval (last k) now) :
    Limited interval
      (if due interval (last k) now then Function.update last k (some now) else last) asked' := by
  cases hdue : due interval (last k) now with
  | false =>
    rw [if_neg Bool.false_ne_true]
    rw [hdue] at hasked
    -- It is not let through, so there is a last time, and it is too close.
    obtain ⟨previous, hlast, hclose⟩ : ∃ previous, last k = some previous ∧
        now < previous + interval := by
      cases hlast : last k with
      | none =>
        rw [hlast] at hdue
        cases hdue
      | some previous =>
        rw [hlast] at hdue
        exact ⟨previous, rfl, Nat.not_le.mp (of_decide_eq_false hdue)⟩
    have htrue : ∀ j k' t, asked' j k' t true ↔ asked j k' t true := fun j k' t =>
      (hasked j k' t true).trans
        ⟨fun hor => hor.resolve_right fun hnew => Bool.noConfusion hnew.2.2.2, .inl⟩
    refine ⟨fun hj => h.remembered ((htrue ..).mp hj), fun hk => ?_, fun hne hj hj' =>
      h.spaced hne ((htrue ..).mp hj) ((htrue ..).mp hj'), fun hj => ?_⟩
    · obtain ⟨j, hj⟩ := h.passed hk
      exact ⟨j, (htrue ..).mpr hj⟩
    · -- what was suppressed before has its cause; for this one it is the last time
      rcases (hasked ..).mp hj with hj | ⟨rfl, rfl, rfl, -⟩
      · obtain ⟨j, t', hj, hlt⟩ := h.suppressed hj
        exact ⟨j, t', (htrue ..).mpr hj, hlt⟩
      · obtain ⟨j, hj⟩ := h.passed hlast
        exact ⟨j, previous, (htrue ..).mpr hj, hclose⟩
  | true =>
    rw [if_pos rfl]
    rw [hdue] at hasked
    -- It is let through, so all that was before it lies an interval back.
    have hbefore : ∀ {j t}, asked j k t true → t + interval ≤ now := by
      intro j t hj
      obtain ⟨latest, hlast, hle⟩ := h.remembered hj
      rw [hlast] at hdue
      have hdue : latest + interval ≤ now := of_decide_eq_true hdue
      omega
    refine ⟨fun {j k' t} hj => ?_, fun {k' t} hk => ?_, fun {j j' k' t t'} hne hj hj' => ?_,
      fun {j k' t} hj => ?_⟩
    · by_cases hk : k' = k
      · subst hk
        refine ⟨now, Function.update_self .., ?_⟩
        rcases (hasked ..).mp hj with hj | ⟨-, -, rfl, -⟩
        · exact Nat.le_trans (Nat.le_add_right ..) (hbefore hj)
        · exact Nat.le_refl _
      · rw [Function.update_of_ne hk]
        exact h.remembered (((hasked ..).mp hj).resolve_right fun hnew => hk hnew.2.1)
    · -- the time that is remembered now is that of this one
      by_cases hkk : k' = k
      · subst hkk
        rw [Function.update_self] at hk
        obtain rfl := Option.some.inj hk
        exact ⟨i, (hasked ..).mpr (.inr ⟨rfl, rfl, rfl, rfl⟩)⟩
      · rw [Function.update_of_ne hkk] at hk
        obtain ⟨j, hj⟩ := h.passed hk
        exact ⟨j, (hasked ..).mpr (.inl hj)⟩
    · rcases (hasked ..).mp hj with hj | ⟨rfl, rfl, rfl, -⟩
      · rcases (hasked ..).mp hj' with hj' | ⟨rfl, rfl, rfl, -⟩
        · exact h.spaced hne hj hj'
        · exact .inl (hbefore hj)
      · rcases (hasked ..).mp hj' with hj' | ⟨rfl, -⟩
        · exact .inr (hbefore hj')
        · exact absurd rfl hne
    · -- a suppressed one is an old one
      have hj : asked j k' t false := ((hasked ..).mp hj).resolve_right fun hnew =>
        Bool.noConfusion hnew.2.2.2
      obtain ⟨j', t', hj', hlt⟩ := h.suppressed hj
      exact ⟨j', t', (hasked ..).mpr (.inl hj'), hlt⟩

end Limited

end Noire.Lib
