import Noire.Live.Origins
import Noire.Transport.Fade

namespace Noire

/-!
# What the source side holds

The ring and the last sample of the fault ramp, by what they stem from.

* `Rendering.origins`, `Rendering.lastOrigin` — what the samples of a rendering stem from;
* `Held` — everything that the source side may still publish at a gain stems from what meets a
  property: what is in the ring, and the ramp's last sample unless the ramp is silent;
* `Held.fill` — a callback publishes nothing else, and holds nothing else after it.

What a sample of the ring stems from is decided by its place among all samples that were ever
pushed, so taking samples changes which places are held and not what they stem from.  The ramp
holds one more sample, the last one it published, which a fade for want of a block goes on
publishing.  At gain zero nothing is heard of it.
-/

/-! ## Origins of a rendering

Every sample that is heard stems from one of the block, or from the last one that was heard before
it.
-/

/-- What the samples of a rendering stem from: those of a block from the `block`'s origins, and
    those of a fade from the last sample that was published. -/
def Rendering.origins (block : List (Option Captured)) (last : Option Captured) :
    Rendering → List (Option Captured)
  | silence frames => .replicate frames none
  | rendered _ (some _) _ => block
  | rendered _ none frames => .replicate frames last

/-- What the ramp's last sample stems from after a rendering. -/
def Rendering.lastOrigin (block : List (Option Captured)) (last : Option Captured) :
    Rendering → Option Captured
  | rendered _ (some _) _ => block.getLast?.getD last
  | _ => last

/-- What the `samples` before a place stem from. -/
def latest (origins : List (Option Captured)) (place samples : ℕ) : List (Option Captured) :=
  (origins.take place).drop (place - samples)

/-! ## What is held

The samples that may still be heard: those in the queue, and the last one for as long as it has a
gain.
-/

/-- Everything the source side may still publish meets `P`: what is in the ring, and the last
    sample, unless the ramp is silent. -/
structure Held (P : Option Captured → Prop) (origins : List (Option Captured)) (ring : Ring)
    (out : BypassOutput) (last : Option Captured) : Prop where
  coherent : out.ramp.fade.Coherent
  length : origins.length = ring.pushed.length
  queued : ∀ origin ∈ origins.drop ring.consumed.length, P origin
  last : out.ramp.gainStep ≠ 0 → P last

/-- A fade that goes out, or is out. -/
def Fade.Falling (fade : Fade) : Prop := fade.state = .silent ∨ fade.state = .fadingOut

/-- At step zero, a fade that goes out is out. -/
theorem Fade.Falling.next {fade : Fade} (h : fade.Falling) (hzero : fade.gainStep = 0) :
    fade.next.Falling ∧ fade.next.gainStep = 0 ∧ fade.next.step = 0 := by
  obtain ⟨state, gainStep⟩ := fade
  obtain rfl : gainStep = 0 := hzero
  rcases h with hstate | hstate
  · obtain rfl : state = .silent := hstate
    exact ⟨.inl rfl, rfl, rfl⟩
  · obtain rfl : state = .fadingOut := hstate
    exact ⟨.inl rfl, rfl, rfl⟩

/-- It publishes nothing but silence. -/
theorem Fade.Falling.steps {fade : Fade} (h : fade.Falling) (hzero : fade.gainStep = 0)
    (samples : ℕ) :
    (∀ step ∈ fade.steps samples, step = 0) ∧ (fade.after samples).gainStep = 0 := by
  induction samples generalizing fade with
  | zero => exact ⟨nofun, hzero⟩
  | succ samples ih =>
    obtain ⟨hfalling, hgain, hstep⟩ := h.next hzero
    obtain ⟨hsteps, hafter⟩ := ih hfalling hgain
    exact ⟨List.forall_mem_cons.mpr ⟨hstep, hsteps⟩, hafter⟩

/-- Without a block, a ramp begins to go out. -/
theorem FaultRamp.begun_falling (ramp : FaultRamp) : (ramp.begun none).fade.Falling := by
  unfold begun beginFault
  rw [if_pos (show (none : Option (List F32)).isNone = true from rfl)]
  split
  · rename_i hsilent
    exact .inl hsilent
  · exact .inr rfl

/-- There is a step for every sample. -/
theorem Fade.length_steps (fade : Fade) (samples : ℕ) :
    (fade.steps samples).length = samples := by
  induction samples generalizing fade with
  | zero => rfl
  | succ samples ih => exact congrArg (· + 1) (ih _)

/-- Samples that are taken were pushed all the same. -/
theorem Ring.pushed_pop (ring : Ring) (samples : ℕ) : (ring.pop samples).pushed = ring.pushed := by
  unfold pushed pop
  rw [List.append_assoc, List.take_append_drop]

namespace Held

variable {P : Option Captured → Prop} {origins : List (Option Captured)} {ring : Ring}
  {out : BypassOutput} {last : Option Captured}

/-- Samples that are taken are held no more. -/
theorem pop (h : Held P origins ring out last) (samples : ℕ) :
    Held P origins (ring.pop samples) out last := by
  refine ⟨h.coherent, ?_, fun origin horigin => ?_, h.last⟩
  · rw [h.length, ring.pushed_pop]
  · refine h.queued origin ?_
    unfold Ring.pop at horigin
    dsimp only at horigin
    rw [List.length_append, ← List.drop_drop] at horigin
    exact List.mem_of_mem_drop horigin

/-- A drained ring and a silent ramp hold nothing. -/
theorem drained (P : Option Captured → Prop) (hempty : ring.queue = [])
    (hlen : origins.length = ring.pushed.length) (hcoherent : out.ramp.fade.Coherent)
    (hsilent : out.ramp.gainStep = 0) : Held P origins ring out last := by
  refine ⟨hcoherent, hlen, fun origin horigin => ?_, fun hgain => absurd hsilent hgain⟩
  unfold Ring.pushed at hlen
  rw [hempty, List.append_nil] at hlen
  rw [← hlen, List.drop_length] at horigin
  cases horigin

/-- The ramp may be silenced. -/
theorem silenced (h : Held P origins ring out last) {out' : BypassOutput}
    (hramp : out'.ramp = out.ramp.resetSilent) : Held P origins ring out' last := by
  refine ⟨?_, h.length, h.queued, fun hgain => absurd ?_ hgain⟩
  · rw [hramp]
    exact out.ramp.resetSilent_coherent
  · rw [hramp]
    rfl

/-- A block that is taken was held. -/
theorem block (h : Held P origins ring out last) {frames : ℕ} (henough : frames ≤ ring.fresh) :
    (latest origins (ring.pop frames).consumed.length frames).length = frames ∧
      ∀ origin ∈ latest origins (ring.pop frames).consumed.length frames, P origin := by
  have hqueue : frames ≤ ring.queue.length :=
    henough.trans (List.takeWhile_sublist _).length_le
  have hconsumed : (ring.pop frames).consumed.length = ring.consumed.length + frames := by
    unfold Ring.pop
    dsimp only
    rw [List.length_append, List.length_take, Nat.min_eq_left hqueue]
  have hlen := h.length
  unfold Ring.pushed at hlen
  rw [List.length_append] at hlen
  unfold latest
  rw [hconsumed, Nat.add_sub_cancel, List.drop_take, Nat.add_sub_cancel_left]
  refine ⟨?_, fun origin horigin => h.queued origin (List.mem_of_mem_take horigin)⟩
  rw [List.length_take, List.length_drop]
  omega

end Held

/-- What more stems from meets what it stemmed from, and what is new. -/
theorem Held.grown {P : Option Captured → Prop} {feed feed' : Feed} {out : BypassOutput}
    {last : Option Captured} (h : Held P feed.origins feed.shared.ring out last)
    (hgrown : Feed.Grown P feed feed') : Held P feed'.origins feed'.shared.ring out last := by
  obtain ⟨-, hconsumed, fresh, made, hqueue, horigins, hstems, -, hall⟩ := hgrown
  have hlen : feed.origins.length = feed.shared.consumed.length + feed.shared.queue.length :=
    h.length.trans (List.length_append ..)
  refine ⟨h.coherent, ?_, ?_, h.last⟩
  · change feed'.origins.length = (feed'.shared.consumed ++ feed'.shared.queue).length
    rw [horigins, hconsumed, hqueue, List.length_append, List.length_append, List.length_append,
      hlen, hstems.length_eq]
    omega
  · change ∀ origin ∈ feed'.origins.drop feed'.shared.consumed.length, P origin
    rw [horigins, hconsumed, List.drop_append_of_le_length (by omega)]
    exact List.forall_mem_append.mpr ⟨h.queued, hall⟩

/-! ## What a callback publishes

Each way through a fill once: silence, a block, or what is held over while it fades.
-/

/-- What a callback of `frames` samples makes of what the source side holds: it publishes, at a
    gain, only what meets `P`. -/
structure HeldAfter (P : Option Captured → Prop) (origins : List (Option Captured)) (ring : Ring)
    (last : Option Captured) (frames : ℕ) (after : BypassOutput × Rendering × Ring) : Prop where
  held : Held P origins after.2.2 after.1
    (after.2.1.lastOrigin (latest origins after.2.2.consumed.length frames) last)
  enabled : after.2.2.enabled = ring.enabled
  pushed : after.2.2.pushed = ring.pushed
  length : after.2.1.steps.length =
    (after.2.1.origins (latest origins after.2.2.consumed.length frames) last).length
  meets : ∀ pair ∈ after.2.1.steps.zip
    (after.2.1.origins (latest origins after.2.2.consumed.length frames) last),
      pair.1 ≠ 0 → P pair.2

namespace Held

variable {P : Option Captured → Prop} {origins : List (Option Captured)} {ring : Ring}
  {out : BypassOutput} {last : Option Captured}

/-- Silence. -/
theorem silence (h : Held P origins ring out last) (published frames : ℕ) :
    HeldAfter P origins ring last frames (out, .silence published, ring) := by
  refine ⟨h, rfl, rfl, ?_, fun pair hpair hstep => absurd ?_ hstep⟩
  · exact (List.length_replicate ..).trans (List.length_replicate ..).symm
  · exact List.eq_of_mem_replicate (List.of_mem_zip hpair).1

/-- A block through the ramp. -/
theorem rendered (sin : F32 → F32) (h : Held P origins ring out last) {frames : ℕ}
    (hframes : frames ≤ maxCallbackFrames) (henough : frames ≤ ring.fresh) :
    HeldAfter P origins ring last frames
      ({ out with ramp := (out.ramp.process sin
        (some ((ring.queue.take frames).map TaggedSample.value)) frames).2.2 },
      .rendered out.ramp (some (ring.queue.take frames)) frames, ring.pop frames) := by
  obtain ⟨input, hinput⟩ : ∃ input, input =
    some ((ring.queue.take frames).map TaggedSample.value) := ⟨_, rfl⟩
  have hfilled : ∀ samples ∈ input, samples.length = frames := by
    have hvalues := length_values (ring.length_block frames)
    rw [Ring.block, if_pos henough] at hvalues
    rw [hinput]
    exact hvalues
  -- The ramp begins with the samples and takes a step for each of them.
  obtain ⟨hbegun, hsame⟩ := FaultRamp.begun_coherent h.coherent input
  have hafter := FaultRamp.process_fade sin out.ramp hframes hfilled
  obtain ⟨hlen, hblock⟩ := h.block henough
  have hpop := h.pop frames
  rw [← hinput]
  refine ⟨⟨?_, hpop.length, hpop.queued, fun hgain => ?_⟩, rfl, ring.pushed_pop frames, ?_,
    fun pair hpair _ => hblock _ (List.of_mem_zip hpair).2⟩
  · change (out.ramp.process sin input frames).2.2.fade.Coherent
    rw [hafter]
    exact (hbegun.steps frames).1
  · unfold Rendering.lastOrigin
    dsimp only
    -- The last sample that is held over has the origin of the last one of the block.
    cases hend : (latest origins (ring.pop frames).consumed.length frames).getLast? with
    | some origin => exact hblock origin (List.mem_of_getLast? hend)
    | none =>
      -- A callback of no samples leaves the ramp where it is.
      rw [List.getLast?_eq_none_iff] at hend
      rw [hend] at hlen
      obtain rfl : 0 = frames := hlen
      have hgain' : (out.ramp.process sin input 0).2.2.gainStep = out.ramp.gainStep :=
        (congrArg Fade.gainStep hafter).trans hsame
      exact h.last fun hzero => hgain (hgain'.trans hzero)
  · exact (Fade.length_steps _ frames).trans hlen.symm

/-- A fade for want of a block. -/
theorem missed (sin : F32 → F32) (h : Held P origins ring out last) {frames : ℕ}
    (hframes : frames ≤ maxCallbackFrames) {after : BypassOutput}
    (hramp : after.ramp = (out.ramp.process sin none frames).2.2) (taken : ℕ) :
    HeldAfter P origins ring last frames
      (after, .rendered out.ramp none frames, (ring.pop taken).resync) := by
  obtain ⟨hbegun, hsame⟩ := FaultRamp.begun_coherent h.coherent none
  have hafter : (out.ramp.process sin none frames).2.2.fade =
      (out.ramp.begun none).fade.after frames :=
    FaultRamp.process_fade sin out.ramp hframes nofun
  rw [← hramp] at hafter
  have hpop := h.pop taken
  -- From silence there is nothing to fade, now or later.
  have hsilent : ¬P last → (∀ step ∈ (out.ramp.begun none).fade.steps frames, step = 0) ∧
      after.ramp.gainStep = 0 := fun hnot => by
    have hzero : (out.ramp.begun none).fade.gainStep = 0 :=
      hsame.trans (not_not.mp fun hgain => hnot (h.last hgain))
    obtain ⟨hsteps, hgain⟩ := out.ramp.begun_falling.steps hzero frames
    exact ⟨hsteps, (congrArg Fade.gainStep hafter).trans hgain⟩
  refine ⟨⟨?_, hpop.length, hpop.queued, fun hgain => ?_⟩, rfl, ring.pushed_pop taken, ?_,
    fun pair hpair hstep => ?_⟩
  · rw [hafter]
    exact (hbegun.steps frames).1
  · exact not_not.mp fun hnot => hgain (hsilent hnot).2
  · exact (Fade.length_steps _ frames).trans (List.length_replicate ..).symm
  · obtain ⟨hleft, hright⟩ := List.of_mem_zip hpair
    rw [List.eq_of_mem_replicate hright]
    exact not_not.mp fun hnot => hstep ((hsilent hnot).1 _ hleft)

/-- Past the startup gate. -/
theorem ready (sin : F32 → F32) (h : Held P origins ring out last) {frames : ℕ}
    (hframes : frames ≤ maxCallbackFrames) :
    HeldAfter P origins ring last frames (ring.ready sin out frames) := by
  unfold Ring.ready
  split
  · have hkept : Held P origins ring { out with leadingSilencePending := false } last :=
      ⟨h.coherent, h.length, h.queued, h.last⟩
    exact hkept.silence frames frames
  unfold Ring.block
  by_cases henough : frames ≤ ring.fresh
  · rw [if_pos henough]
    exact h.rendered sin hframes henough
  · rw [if_neg henough]
    exact h.missed sin hframes rfl _

/-- From the startup gate on. -/
theorem gated (sin : F32 → F32) (h : Held P origins ring out last) {frames : ℕ}
    (hframes : frames ≤ maxCallbackFrames) :
    HeldAfter P origins ring last frames (ring.gated sin out frames) := by
  unfold Ring.gated
  split
  · exact h.ready sin hframes
  split
  · exact h.silence _ frames
  · obtain ⟨hrecovered, hsame⟩ := FaultRamp.beginRecovery_coherent h.coherent
    have hstarted : Held P origins ring
        { out with startupReady := true, ramp := out.ramp.beginRecovery } last :=
      ⟨hrecovered, h.length, h.queued, fun hgain => h.last (hsame ▸ hgain)⟩
    exact hstarted.ready sin hframes

/-- **A callback** publishes, at a gain, only what the source side held. -/
theorem fill (sin : F32 → F32) (h : Held P origins ring out last) {frames : ℕ}
    (hframes : frames ≤ maxCallbackFrames) :
    HeldAfter P origins ring last frames (ring.fill sin out frames) := by
  have hsynced : Held P origins ring (ring.sync out) last := by
    unfold Ring.sync
    split
    · exact h.silenced rfl
    · exact h
  obtain ⟨hheld, henabled, hpushed, hlen, hmeets⟩ := (hsynced.pop ring.stale).gated sin hframes
  exact ⟨hheld, henabled, hpushed.trans (ring.pushed_pop _), hlen, hmeets⟩

end Held

end Noire
