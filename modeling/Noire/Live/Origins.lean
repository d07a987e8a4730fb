import Noire.Live.Latch
import Noire.Transport.Ring

namespace Noire

/-!
# Where published audio comes from

The live sink on its transport, with the captured sample that every sample in the ring stems
from.  At strength zero a frame is its dry frame, so what a sample stems from is decided by its
place: it is the captured sample that many places before it as the delay is long.

* `Captured`, `Stems` — a captured sample, and a queued sample that is one, delayed;
* `Feed` — the transport, and what all that was ever pushed stems from;
* `TimedCaptureSink.feeding` — a frame through the sink onto the transport;
* `write_feeding` — a callback pushes nothing but captured samples, none of which is older than
  what the sink held before it.

At strength zero a block is its dry frame, whatever the model says, and the dry frame is the
stream as many places earlier as the delay is long.  So the origin of a sample is a matter of
counting places: of the stream, of the frames that have gone through, and of the ring.  `Feed`
counts them, and one lemma for a frame and one for a callback say by what they grow.
-/

variable {σ : Type}

/-- A captured sample, and in which of the streaming periods of the source its callback ran, if
    the source was streaming then. -/
structure Captured where
  value : F32
  period : Option ℕ
  deriving DecidableEq

/-- The samples of one callback. -/
def capturedIn (period : Option ℕ) (samples : List F32) : List Captured :=
  samples.map (⟨·, period⟩)

theorem capturedIn_value (period : Option ℕ) (samples : List F32) :
    (capturedIn period samples).map Captured.value = samples := by
  unfold capturedIn
  rw [List.map_map]
  exact List.map_id' _

/-- What a delayed sample stems from: at first, nothing but the silence of the delay. -/
def delayedOrigin (delaySamples : ℕ) (stream : List Captured) (i : ℕ) : Option Captured :=
  if i < delaySamples then none else stream[i - delaySamples]?

/-- The value of an origin. -/
def originValue (origin : Option Captured) : F32 := origin.elim .zero Captured.value

/-- The delayed sample is the value of what it stems from. -/
theorem delayed_origin (delaySamples : ℕ) (stream : List Captured) (i : ℕ) :
    delayed delaySamples (stream.map Captured.value) i =
      originValue (delayedOrigin delaySamples stream i) := by
  unfold delayed delayedOrigin
  split
  · rfl
  · rw [List.getD_eq_getElem?_getD, List.getElem?_map]
    cases stream[i - delaySamples]? <;> rfl

/-- A delayed sample from some position on stems from what is in the delay there, or comes
    later. -/
theorem mem_delayedOrigin {delaySamples : ℕ} {stream : List Captured} {n i : ℕ} (hn : n ≤ i) :
    ∀ captured ∈ delayedOrigin delaySamples stream i,
      captured ∈ stream.drop (n - delaySamples) := by
  intro captured hmem
  unfold delayedOrigin at hmem
  split at hmem
  · cases hmem
  · refine List.mem_iff_getElem?.mpr ⟨i - delaySamples - (n - delaySamples), ?_⟩
    rw [List.getElem?_drop, ← hmem]
    congr 1
    omega

/-- A queued sample that is what it stems from, clamped by the mixer or as it is. -/
def Stems (sample : TaggedSample) (origin : Option Captured) : Prop :=
  sample.value = (sanitized (originValue origin)).clamp .minusOne .one ∨
    sample.value = originValue origin

/-! ## The transport

Origins are kept for every sample that was ever pushed, so that a place in the ring finds its own.
-/

/-- The transport, how many samples of the stream have gone through in frames, and what every
    sample that was ever pushed stems from. -/
structure Feed where
  shared : SharedState
  position : ℕ := 0
  origins : List (Option Captured) := []

/-- The transport alone. -/
def transport (block : List F32) : StateT SharedState Option Bool :=
  (writeProcessed block).run BypassOp.exec

/-- What a callback makes of the transport: at the end of the ring there is more that stems from
    captured samples, all of which meet `P`; and nothing, unless publication is enabled. -/
structure Feed.Grown (P : Option Captured → Prop) (feed feed' : Feed) : Prop where
  enabled : feed'.shared.publicationEnabled = feed.shared.publicationEnabled
  consumed : feed'.shared.consumed = feed.shared.consumed
  grown : ∃ fresh made, feed'.shared.queue = feed.shared.queue ++ fresh ∧
    feed'.origins = feed.origins ++ made ∧ List.Forall₂ Stems fresh made ∧
    (feed.shared.publicationEnabled = false → fresh = []) ∧ ∀ origin ∈ made, P origin

/-- Nothing more. -/
theorem Feed.Grown.refl (P : Option Captured → Prop) (feed : Feed) : Feed.Grown P feed feed :=
  ⟨rfl, rfl, [], [], (List.append_nil _).symm, (List.append_nil _).symm, .nil, fun _ => rfl,
    nofun⟩

/-- More that meets less. -/
theorem Feed.Grown.mono {P Q : Option Captured → Prop} {feed feed' : Feed}
    (h : Feed.Grown P feed feed') (hPQ : ∀ origin, P origin → Q origin) :
    Feed.Grown Q feed feed' := by
  obtain ⟨henabled, hconsumed, fresh, made, hqueue, horigins, hstems, hoff, hall⟩ := h
  exact ⟨henabled, hconsumed, fresh, made, hqueue, horigins, hstems, hoff, fun origin horigin =>
    hPQ origin (hall origin horigin)⟩

/-- Nothing more, while publication is disabled. -/
theorem Feed.Grown.disabled {P : Option Captured → Prop} {feed feed' : Feed}
    (h : Feed.Grown P feed feed') (hoff : feed.shared.publicationEnabled = false)
    (Q : Option Captured → Prop) : Feed.Grown Q feed feed' := by
  obtain ⟨henabled, hconsumed, fresh, made, hqueue, horigins, hstems, hnone, -⟩ := h
  have hmade : made = [] := by
    rw [hnone hoff] at hstems
    exact List.forall₂_nil_left_iff.mp hstems
  refine ⟨henabled, hconsumed, fresh, made, hqueue, horigins, hstems, hnone, ?_⟩
  rw [hmade]
  exact nofun

/-- What was pushed stems from what it is said to. -/
theorem Feed.Grown.traced {P : Option Captured → Prop} {feed feed' : Feed}
    (h : Feed.Grown P feed feed') (htraced : List.Forall₂ Stems feed.shared.pushed feed.origins) :
    List.Forall₂ Stems feed'.shared.pushed feed'.origins := by
  obtain ⟨-, hconsumed, fresh, made, hqueue, horigins, hstems, -, -⟩ := h
  unfold SharedState.pushed at htraced ⊢
  rw [hconsumed, hqueue, horigins, ← List.append_assoc]
  exact List.rel_append htraced hstems

/-- More, and then more. -/
theorem Feed.Grown.trans {P : Option Captured → Prop} {feed feed' feed'' : Feed}
    (h : Feed.Grown P feed feed') (h' : Feed.Grown P feed' feed'') : Feed.Grown P feed feed'' := by
  obtain ⟨henabled, hconsumed, fresh, made, hqueue, horigins, hstems, hoff, hall⟩ := h
  obtain ⟨henabled', hconsumed', fresh', made', hqueue', horigins', hstems', hoff', hall'⟩ := h'
  refine ⟨henabled'.trans henabled, hconsumed'.trans hconsumed, fresh ++ fresh', made ++ made',
    ?_, ?_, List.rel_append hstems hstems', fun hdisabled => ?_,
    List.forall_mem_append.mpr ⟨hall, hall'⟩⟩
  · rw [hqueue', hqueue, List.append_assoc]
  · rw [horigins', horigins, List.append_assoc]
  · rw [hoff hdisabled, hoff' (henabled.trans hdisabled)]
    rfl

namespace Ring

/-- A write pushes the block, or nothing. -/
theorem write_queue (ring : Ring) (block : List F32) :
    (ring.write block).2.enabled = ring.enabled ∧
      (ring.write block).2.consumed = ring.consumed ∧
      ((ring.write block).2.queue = ring.queue ∨ (ring.enabled = true ∧
        (ring.write block).2.queue = ring.queue ++ block.map (⟨ring.generation, ·⟩))) := by
  unfold write
  split
  · rename_i henabled
    split
    · exact ⟨rfl, rfl, .inr ⟨henabled, rfl⟩⟩
    · exact ⟨rfl, rfl, .inl rfl⟩
  · exact ⟨rfl, rfl, .inl rfl⟩

end Ring

/-- The feed once a frame has gone through and left the transport `shared`: what was pushed stems
    from the stream, delayed, from the frame's position on. -/
def Feed.advance (delaySamples : ℕ) (stream : List Captured) (feed : Feed)
    (shared : SharedState) : Feed where
  shared := shared
  position := feed.position + modelFrameSamples
  origins := feed.origins ++
    (List.range (shared.pushed.length - feed.shared.pushed.length)).map fun j =>
      delayedOrigin delaySamples stream (feed.position + j)

/-- A frame at strength zero is, sample for sample, what it stems from. -/
theorem stems_delayedFrame (delaySamples generation : ℕ) (stream : List Captured) {n : ℕ}
    {block : List F32}
    (hdry : block = (TimedCaptureSink.delayedFrame delaySamples (stream.map Captured.value) n).map
        (fun x => (sanitized x).clamp .minusOne .one) ∨
      block = TimedCaptureSink.delayedFrame delaySamples (stream.map Captured.value) n) :
    List.Forall₂ Stems (block.map (⟨generation, ·⟩)) ((List.range modelFrameSamples).map fun j =>
      delayedOrigin delaySamples stream (n + j)) := by
  unfold TimedCaptureSink.delayedFrame at hdry
  generalize List.range modelFrameSamples = places at hdry ⊢
  simp only [delayed_origin] at hdry
  rcases hdry with rfl | rfl
  · rw [List.map_map, List.map_map, List.forall₂_map_left_iff, List.forall₂_map_right_iff,
      List.forall₂_same]
    exact fun _ _ => .inl rfl
  · rw [List.map_map, List.forall₂_map_left_iff, List.forall₂_map_right_iff, List.forall₂_same]
    exact fun _ _ => .inr rfl

/-- What a write leaves, the feed has grown by: it pushes the block, which stems from the stream,
    or nothing. -/
theorem Feed.advance_grown {delaySamples : ℕ} {stream : List Captured} {feed : Feed}
    {block : List F32} (hlen : block.length = modelFrameSamples)
    (hdry : block = (TimedCaptureSink.delayedFrame delaySamples (stream.map Captured.value)
          feed.position).map (fun x => (sanitized x).clamp .minusOne .one) ∨
      block = TimedCaptureSink.delayedFrame delaySamples (stream.map Captured.value)
        feed.position)
    {shared : SharedState} (hring : shared.ring = (feed.shared.ring.write block).2)
    {start : ℕ} (hstart : start ≤ feed.position) :
    Feed.Grown (fun origin => ∀ captured ∈ origin, captured ∈ stream.drop (start - delaySamples))
      feed (feed.advance delaySamples stream shared) := by
  obtain ⟨henabled, hconsumed, hqueue⟩ := feed.shared.ring.write_queue block
  rw [← hring] at henabled hconsumed hqueue
  have hconsumed : shared.consumed = feed.shared.consumed := hconsumed
  refine ⟨henabled, hconsumed, ?_⟩
  unfold advance SharedState.pushed
  rw [hconsumed, List.length_append, List.length_append, Nat.add_sub_add_left]
  rcases hqueue with hsame | ⟨hon, hmore⟩
  · -- the ring had no room or was off: nothing is published
    have hsame : shared.queue = feed.shared.queue := hsame
    rw [hsame, Nat.sub_self]
    exact ⟨[], [], (List.append_nil _).symm, rfl, .nil, fun _ => rfl, nofun⟩
  · -- the block is queued, and each sample of it has its captured one
    have hmore : shared.queue = feed.shared.queue ++
        block.map (⟨feed.shared.generation, ·⟩) := hmore
    have hon : feed.shared.publicationEnabled = true := hon
    rw [hmore, List.length_append, List.length_map, hlen, Nat.add_sub_cancel_left]
    refine ⟨_, _, rfl, rfl, stems_delayedFrame _ _ _ hdry, fun hoff => ?_, ?_⟩
    · rw [hon] at hoff
      cases hoff
    · intro origin horigin
      obtain ⟨j, -, rfl⟩ := List.mem_map.mp horigin
      exact mem_delayedOrigin (Nat.le_add_right_of_le hstart)

namespace TimedCaptureSink

/-- One frame onto the transport. -/
def feeding (model : Denoiser σ) (clock : ℕ → ModelClock) (stream : List Captured)
    (t : TimedCaptureSink σ) (frame : List F32) : StateT Feed Option (TimedCaptureSink σ) :=
  fun feed => ((t.processFrameParts transport model clock frame).run feed.shared).map
    fun (after, shared) => (after, feed.advance model.descriptor.delaySamples stream shared)

/-- **One frame** at strength zero pushes what stems from the stream from its position on, less
    the delay, or nothing. -/
theorem Aligned.feeding {model : Denoiser σ} (clock : ℕ → ModelClock) {stream : List Captured}
    (hclean : ∀ x ∈ stream.map Captured.value, sanitized x = x) {t : TimedCaptureSink σ}
    {feed : Feed} (h : t.Aligned model.descriptor.delaySamples (stream.map Captured.value)
      feed.position)
    (hn : feed.position + modelFrameSamples ≤ (stream.map Captured.value).length)
    (hzero : t.sink.strength.SettledAtZero) {start : ℕ} (hstart : start ≤ feed.position) :
    ∃ after shared, t.feeding model clock stream
        (((stream.map Captured.value).drop feed.position).take modelFrameSamples) feed =
          some (after, feed.advance model.descriptor.delaySamples stream shared) ∧
      Advanced model.descriptor.delaySamples (stream.map Captured.value)
        (feed.position + modelFrameSamples) t after ∧
      Feed.Grown (fun origin => ∀ captured ∈ origin, captured ∈
        stream.drop (start - model.descriptor.delaySamples)) feed
        (feed.advance model.descriptor.delaySamples stream shared) := by
  unfold TimedCaptureSink.feeding
  cases h.frame clock hclean hn with
  -- The model kept the frame, and the ring is not asked.
  | kept after hadvanced _ heq =>
    rw [heq]
    refine ⟨after, feed.shared, rfl, hadvanced, ?_⟩
    unfold Feed.advance
    rw [Nat.sub_self]
    exact ⟨rfl, rfl, [], [], (List.append_nil _).symm, rfl, .nil, fun _ => rfl, nofun⟩
  -- The block goes to the ring, which takes it or refuses it.
  | handed block settle hadvanced hlen _ hdry heq =>
    obtain ⟨shared, hrun, hring⟩ := writeProcessed_ring block feed.shared
    have hhanded : (settle <$> transport block).run feed.shared =
        some (settle (feed.shared.ring.write block).1, shared) := by
      rw [StateT.run_map]
      change _ <$> (writeProcessed block).run BypassOp.exec feed.shared = _
      rw [hrun]
      rfl
    rw [heq, hhanded]
    exact ⟨_, shared, rfl, hadvanced _, Feed.advance_grown hlen (hdry hzero) hring hstart⟩

/-- A frame on which nothing fails is pushed whole, if there is room for it. -/
theorem Aligned.feeding_pushed {model : Denoiser σ} (clock : ℕ → ModelClock)
    {stream : List Captured} (hclean : ∀ x ∈ stream.map Captured.value, sanitized x = x)
    {t : TimedCaptureSink σ} {feed : Feed} (h : t.Aligned model.descriptor.delaySamples
      (stream.map Captured.value) feed.position)
    (hn : feed.position + modelFrameSamples ≤ (stream.map Captured.value).length)
    (hhealthy : t.sink.failed = false) (hok : t.sink.ModelOk model
      (((stream.map Captured.value).drop feed.position).take modelFrameSamples))
    (hon : feed.shared.publicationEnabled = true)
    (hroom : modelFrameSamples ≤ bypassRingCapacity - feed.shared.queue.length) :
    ∃ after shared, ∃ block : List F32, t.feeding model clock stream
        (((stream.map Captured.value).drop feed.position).take modelFrameSamples) feed =
          some (after, feed.advance model.descriptor.delaySamples stream shared) ∧
      block.length = modelFrameSamples ∧ shared.ring = { feed.shared.ring with
        queue := feed.shared.queue ++ block.map (⟨feed.shared.generation, ·⟩) } := by
  unfold TimedCaptureSink.feeding
  cases h.frame clock hclean hn with
  -- A healthy sink with a model that succeeds hands its frame on.
  | kept after _ hfailed _ =>
    rcases hfailed with hfailed | hnot
    · rw [hhealthy] at hfailed
      cases hfailed
    · exact absurd hok hnot
  | handed block settle _ hlen _ _ heq =>
    obtain ⟨shared, hrun, hring⟩ := writeProcessed_ring block feed.shared
    -- The ring is on and has room.
    have hwrite : feed.shared.ring.write block = (true, { feed.shared.ring with
        queue := feed.shared.queue ++ block.map (⟨feed.shared.generation, ·⟩) }) := by
      rw [Ring.write, if_pos (show feed.shared.ring.enabled = true from hon)]
      exact if_pos (by rw [hlen]; exact hroom)
    have hhanded : (settle <$> transport block).run feed.shared =
        some (settle (feed.shared.ring.write block).1, shared) := by
      rw [StateT.run_map]
      change _ <$> (writeProcessed block).run BypassOp.exec feed.shared = _
      rw [hrun]
      rfl
    rw [hwrite] at hring
    rw [heq, hhanded]
    exact ⟨_, shared, block, rfl, hlen, hring⟩

/-- What holds in a callback before the frame at `n`: the sink has advanced there, and the feed has
    grown by what the sink held at first and what came after. -/
structure Feeding (delaySamples : ℕ) (stream : List Captured) (t : TimedCaptureSink σ)
    (feed : Feed) (n : ℕ) (t' : TimedCaptureSink σ) (feed' : Feed) : Prop where
  position : feed'.position = n
  le : feed.position ≤ n
  advanced : Advanced delaySamples (stream.map Captured.value) n t t'
  grown : Feed.Grown (fun origin => ∀ captured ∈ origin, captured ∈
    stream.drop (feed.position - delaySamples)) feed feed'

/-- One frame more. -/
theorem Feeding.frame {model : Denoiser σ} (clock : ℕ → ModelClock) {stream : List Captured}
    (hclean : ∀ x ∈ stream.map Captured.value, sanitized x = x) {t : TimedCaptureSink σ}
    {feed : Feed} (hzero : t.sink.strength.SettledAtZero) (n : ℕ) (t' : TimedCaptureSink σ)
    (feed' : Feed) (h : Feeding model.descriptor.delaySamples stream t feed n t' feed')
    (hn : n + modelFrameSamples ≤ (stream.map Captured.value).length) :
    ∃ t'' feed'', t'.feeding model clock stream
        (((stream.map Captured.value).drop n).take modelFrameSamples) feed' = some (t'', feed'') ∧
      Feeding model.descriptor.delaySamples stream t feed (n + modelFrameSamples) t'' feed'' := by
  obtain ⟨rfl, hle, hadvanced, hgrown⟩ := h
  have hzero' : t'.sink.strength.SettledAtZero := by
    rw [hadvanced.strength hzero.1]
    exact hzero
  obtain ⟨t'', shared, hrun, hnext, hmore⟩ :=
    hadvanced.aligned.feeding clock hclean hn hzero' hle
  exact ⟨t'', _, hrun, rfl, Nat.le_add_right_of_le hle, hadvanced.trans hnext, hgrown.trans hmore⟩

/-- **A callback** at strength zero leaves the sink latched, and pushes what the sink held before
    it, or what it captured. -/
theorem write_feeding {model : Denoiser σ} (clock : ℕ → ModelClock) {stream : List Captured}
    {t : TimedCaptureSink σ} {feed : Feed}
    (h : t.Latched model (stream.map Captured.value) feed.position) (shared : AtomicParameters)
    {samples : List F32} (hsamples : samples.length ≤ maxCallbackFrames)
    (hclean : samples.map sanitized = samples)
    (hzero : (t.sink.loadParameters shared).strength.SettledAtZero) (period : Option ℕ) :
    ∃ after feed', (write (feeding model clock (stream ++ capturedIn period samples)) shared t
        samples).run feed = some (after, feed') ∧
      after.Latched model ((stream ++ capturedIn period samples).map Captured.value)
        feed'.position ∧
      feed.position ≤ feed'.position ∧
      Feed.Grown (fun origin => ∀ captured ∈ origin, captured ∈
        (stream ++ capturedIn period samples).drop
          (feed.position - model.descriptor.delaySamples)) feed feed' := by
  have hvalues : (stream ++ capturedIn period samples).map Captured.value =
      stream.map Captured.value ++ samples.map sanitized := by
    rw [List.map_append, capturedIn_value, hclean]
  obtain ⟨longer, hlonger⟩ : ∃ longer : List Captured,
    longer = stream ++ capturedIn period samples := ⟨_, rfl⟩
  rw [← hlonger] at hvalues ⊢
  obtain ⟨hclean', hn, hpending, halign⟩ := h.entered shared samples
  rw [← hvalues] at hclean' hn hpending halign
  have hentered : (t.sink.enter shared samples).strength.SettledAtZero := by
    rw [show (t.sink.enter shared samples).strength = (t.sink.loadParameters shared).strength from
      congrArg LiveSignal.strength (signal_enter shared t.sink samples)]
    exact hzero
  -- The loop of the callback: one frame keeps `Feeding`, so all of them do.
  obtain ⟨_, after, feed', hge, hle, hleft, hrun, rfl, -, hadvanced, hgrown⟩ :=
    Lib.foldlM_blocks_some (show 0 < modelFrameSamples by decide) (feeding model clock longer)
      (Feeding model.descriptor.delaySamples longer _ feed)
      (Feeding.frame clock hclean' hentered)
      ⟨rfl, Nat.le_refl _, halign.advanced, .refl _ _⟩ hn
  rw [write_eq _ shared t hsamples, hpending, StateT.run_map]
  change ∃ after feed', _ <$> (Lib.blocks modelFrameSamples ((longer.map Captured.value).drop
    feed.position)).foldlM (feeding model clock longer) { t with
      sink := t.sink.enter shared samples } feed = some (after, feed') ∧ _
  rw [hrun]
  refine ⟨_, feed', rfl, ?_, hge, hgrown⟩
  -- What is left over stays in the assembler.
  rw [hvalues] at hadvanced hle hleft ⊢
  exact h.left hadvanced hle hleft

end TimedCaptureSink

end Noire
