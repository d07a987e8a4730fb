import Noire.Transport.Bypass
import Mathlib.Data.List.Infix
import Mathlib.Data.List.Range

namespace Noire

open Lib (Prog)

/-!
# The discipline of the two sides

What each side of the transport may do to the shared state, and what each may therefore
count on while it runs.

* `TransportOk` — the invariant of the shared state: the ring is bounded, its tags are in
  order and none is ahead of the generation, and the history of published blocks is one
  of contiguous slices of the pushed samples, none published twice;
* `CaptureStep` — what the source side and the control plane do, as the capture side sees
  it: nothing but samples leaving the ring and the generation growing;
* `SourceStep` — what the capture side and the control plane do, as the source side sees
  it: nothing but samples entering the ring and the generation growing;
* `CaptureSafe`, `SourceSafe` — a program of one side that keeps, whatever the other
  threads do between its operations, to what they count on;
* `writeProcessed_safe` — a write does, and pushes its block wholly or not at all.

This is rely and guarantee.  Each side relies on what the other sides may do and guarantees what
it does itself, and the two fit: what the capture side and the control plane guarantee is what the
source side relies on, and the other way round.  The rules are those of `Lib/Discipline.lean`; an
operation that only touches telemetry is quiet, and one lemma deals with all of them.
-/

/-! ## The invariant -/

/-- The places of a run's samples among all samples ever pushed. -/
def positions (run : List PublishedBlock) : List ℕ :=
  run.flatMap fun block => List.range' block.first block.samples.length

/-- The invariant of the shared state. -/
structure TransportOk (s : SharedState) : Prop where
  /-- The ring holds at most its capacity. -/
  bounded : s.queue.length ≤ bypassRingCapacity
  /-- Samples were pushed in the order of their generations. -/
  sorted : s.pushed.Pairwise fun x y => x.generation ≤ y.generation
  /-- No sample is tagged ahead of the generation. -/
  tagged : ∀ x ∈ s.pushed, x.generation ≤ s.generation
  /-- A published block holds samples of the generation its consumer was in. -/
  fresh : ∀ run ∈ s.runs, ∀ block ∈ run, ∀ x ∈ block.samples, x.generation = block.generation
  /-- A published block is a slice of the samples consumed, at its place. -/
  slices : ∀ run ∈ s.runs, ∀ block ∈ run, block.samples <+: s.consumed.drop block.first
  /-- The samples published between two startups are contiguous and in order. -/
  contiguous : ∀ run ∈ s.runs, ∃ start count, positions run = List.range' start count
  /-- Over all runs no place is published twice, and none before an earlier one. -/
  once : (s.runs.reverse.flatMap positions).Pairwise (· < ·)

/-- A published place has been consumed. -/
theorem TransportOk.lt_consumed {s : SharedState} (ok : TransportOk s)
    {run : List PublishedBlock} (hrun : run ∈ s.runs) {p : ℕ} (hp : p ∈ positions run) :
    p < s.consumed.length := by
  obtain ⟨block, hblock, hp⟩ := List.mem_flatMap.mp hp
  have hlen := (ok.slices run hrun block hblock).length_le
  rw [List.length_drop] at hlen
  rw [List.mem_range'_1] at hp
  omega

/-- A step that leaves the ring and the histories alone. -/
structure QuietStep (s t : SharedState) : Prop where
  queue : t.queue = s.queue
  consumed : t.consumed = s.consumed
  runs : t.runs = s.runs
  generation : s.generation ≤ t.generation

/-- A quiet step keeps the invariant. -/
theorem QuietStep.ok {s t : SharedState} (h : QuietStep s t) (ok : TransportOk s) :
    TransportOk t := by
  have hpushed : t.pushed = s.pushed := by rw [SharedState.pushed, h.consumed, h.queue]; rfl
  exact {
    bounded := h.queue ▸ ok.bounded
    sorted := hpushed ▸ ok.sorted
    tagged := fun x hx => (ok.tagged x (hpushed ▸ hx)).trans h.generation
    fresh := h.runs ▸ ok.fresh
    slices := by rw [h.runs, h.consumed]; exact ok.slices
    contiguous := h.runs ▸ ok.contiguous
    once := h.runs ▸ ok.once }

/-! ## What each side sees of the others -/

/-- A step of the source side or of the control plane, as the capture side sees it. -/
structure CaptureStep (s t : SharedState) : Prop where
  pushed : t.pushed = s.pushed
  drained : t.queue.length ≤ s.queue.length
  generation : s.generation ≤ t.generation
  ok : TransportOk s → TransportOk t

/-- A step of the capture side or of the control plane, as the source side sees it. -/
structure SourceStep (s t : SharedState) : Prop where
  consumed : t.consumed = s.consumed
  runs : t.runs = s.runs
  queue : s.queue <+: t.queue
  generation : s.generation ≤ t.generation
  ok : TransportOk s → TransportOk t

theorem QuietStep.capture {s t : SharedState} (h : QuietStep s t) : CaptureStep s t where
  pushed := by rw [SharedState.pushed, h.consumed, h.queue]; rfl
  drained := by rw [h.queue]
  generation := h.generation
  ok := h.ok

theorem QuietStep.source {s t : SharedState} (h : QuietStep s t) : SourceStep s t where
  consumed := h.consumed
  runs := h.runs
  queue := h.queue ▸ List.prefix_rfl
  generation := h.generation
  ok := h.ok

theorem QuietStep.refl (s : SharedState) : QuietStep s s := ⟨rfl, rfl, rfl, Nat.le_refl _⟩

theorem CaptureStep.refl (s : SharedState) : CaptureStep s s := (QuietStep.refl s).capture

theorem SourceStep.refl (s : SharedState) : SourceStep s s := (QuietStep.refl s).source

theorem CaptureStep.trans {s t u : SharedState} (h : CaptureStep s t) (h' : CaptureStep t u) :
    CaptureStep s u where
  pushed := h'.pushed.trans h.pushed
  drained := h'.drained.trans h.drained
  generation := h.generation.trans h'.generation
  ok := fun ok => h'.ok (h.ok ok)

theorem SourceStep.trans {s t u : SharedState} (h : SourceStep s t) (h' : SourceStep t u) :
    SourceStep s u where
  consumed := h'.consumed.trans h.consumed
  runs := h'.runs.trans h.runs
  queue := h.queue.trans h'.queue
  generation := h.generation.trans h'.generation
  ok := fun ok => h'.ok (h.ok ok)

/-- The operations that leave the ring and the histories alone. -/
class BypassOp.Quiet (o : BypassOp) : Prop where
  exec : ∀ s, QuietStep s (o.exec s).2

section Quiet

open BypassOp

instance : Quiet .loadPublication := ⟨QuietStep.refl⟩
instance : Quiet .loadGeneration := ⟨QuietStep.refl⟩
instance : Quiet .fetchAddGeneration := ⟨fun _ => ⟨rfl, rfl, rfl, Nat.le_succ _⟩⟩
instance (counter : BypassCounter) (amount : ℕ) : Quiet (.count counter amount) :=
  ⟨fun _ => ⟨rfl, rfl, rfl, Nat.le_refl _⟩⟩
instance (frames : ℕ) : Quiet (.storeCurrentFrames frames) :=
  ⟨fun _ => ⟨rfl, rfl, rfl, Nat.le_refl _⟩⟩
instance (frames : ℕ) : Quiet (.maxHighWaterFrames frames) :=
  ⟨fun _ => ⟨rfl, rfl, rfl, Nat.le_refl _⟩⟩
instance : Quiet .producerSlots := ⟨QuietStep.refl⟩
instance : Quiet .consumerSlots := ⟨QuietStep.refl⟩

end Quiet

/-- The capture side is safe: it keeps to what the source side counts on. -/
abbrev CaptureSafe {α : Type} (p : BypassProg α) (Q : α → SharedState → Prop)
    (s : SharedState) : Prop :=
  p.Safe BypassOp.exec CaptureStep SourceStep Q s

/-- The source side is safe: it keeps to what the capture side counts on. -/
abbrev SourceSafe {α : Type} (p : BypassProg α) (Q : α → SharedState → Prop)
    (s : SharedState) : Prop :=
  p.Safe BypassOp.exec SourceStep CaptureStep Q s

section Rules

variable {α β : Type} {P : SharedState → Prop} {Q : β → SharedState → Prop} {s : SharedState}
  {o : BypassOp}

/-- A quiet operation of the capture side keeps what the other threads keep. -/
theorem CaptureSafe.quiet [ho : o.Quiet] (hstable : ∀ s t, P s → CaptureStep s t → P t)
    {f : o.Res → BypassProg β} (hP : P s) (h : ∀ r t, P t → CaptureSafe (f r) Q t) :
    CaptureSafe (perform o >>= f) Q s :=
  Prog.Safe.call hP (fun t hs ht => hstable s t hs ht) fun t ht =>
    ⟨(ho.exec t).source, h _ _ (hstable _ _ ht (ho.exec t).capture)⟩

/-- A quiet operation of the source side keeps what the other threads keep. -/
theorem SourceSafe.quiet [ho : o.Quiet] (hstable : ∀ s t, P s → SourceStep s t → P t)
    {f : o.Res → BypassProg β} (hP : P s) (h : ∀ r t, P t → SourceSafe (f r) Q t) :
    SourceSafe (perform o >>= f) Q s :=
  Prog.Safe.call hP (fun t hs ht => hstable s t hs ht) fun t ht =>
    ⟨(ho.exec t).capture, h _ _ (hstable _ _ ht (ho.exec t).source)⟩

theorem requestResync_captureSafe (hstable : ∀ s t, P s → CaptureStep s t → P t) (hP : P s) :
    CaptureSafe requestResync (fun _ t => P t) s :=
  .quiet hstable hP fun _ _ hP => .quiet hstable hP fun _ _ hP =>
    .pure _ (hstable _ · hP)

theorem requestResync_sourceSafe (hstable : ∀ s t, P s → SourceStep s t → P t) (hP : P s) :
    SourceSafe requestResync (fun _ t => P t) s :=
  .quiet hstable hP fun _ _ hP => .quiet hstable hP fun _ _ hP =>
    .pure _ (hstable _ · hP)

end Rules

/-! ## The capture side -/

/-- Between its operations a capture call knows what has been pushed so far. -/
def Sent (pushed : List TaggedSample) (s : SharedState) : Prop :=
  TransportOk s ∧ s.pushed = pushed

theorem Sent.stable {pushed : List TaggedSample} (s t : SharedState) (h : Sent pushed s)
    (hstep : CaptureStep s t) : Sent pushed t :=
  ⟨hstep.ok h.1, hstep.pushed.trans h.2⟩

/-- A push loop in progress: its generation is not behind any pushed sample, and the room
    it found is still there. -/
structure Pushing (generation : ℕ) (pushed : List TaggedSample) (room : ℕ) (s : SharedState) :
    Prop where
  sent : Sent pushed s
  current : generation ≤ s.generation
  latest : ∀ x ∈ pushed, x.generation ≤ generation
  room : s.queue.length + room ≤ bypassRingCapacity

theorem Pushing.stable {generation room : ℕ} {pushed : List TaggedSample} (s t : SharedState)
    (h : Pushing generation pushed room s) (hstep : CaptureStep s t) :
    Pushing generation pushed room t where
  sent := h.sent.stable s t hstep
  current := h.current.trans hstep.generation
  latest := h.latest
  room := (Nat.add_le_add_right hstep.drained room).trans h.room

/-- One push, into room that is there. -/
theorem Pushing.push {generation room : ℕ} {pushed : List TaggedSample} {s : SharedState}
    (h : Pushing generation pushed (room + 1) s) (value : F32) :
    SourceStep s { s with queue := s.queue ++ [⟨generation, value⟩] } ∧
      Pushing generation (pushed ++ [⟨generation, value⟩]) room
        { s with queue := s.queue ++ [⟨generation, value⟩] } := by
  obtain ⟨⟨ok, hpushed⟩, hcurrent, hlatest, hroom⟩ := h
  -- Only the ring's tail changes, so the history's part of the invariant is as before.
  have happend : SharedState.pushed { s with queue := s.queue ++ [⟨generation, value⟩] } =
      s.pushed ++ [⟨generation, value⟩] := (List.append_assoc ..).symm
  have ok' : TransportOk { s with queue := s.queue ++ [⟨generation, value⟩] } := {
    bounded := by rw [List.length_append, List.length_singleton]; omega
    sorted := by
      rw [happend, List.pairwise_append]
      refine ⟨ok.sorted, List.pairwise_singleton _ _, fun x hx y hy => ?_⟩
      rw [List.mem_singleton.mp hy]
      exact hlatest x (hpushed ▸ hx)
    tagged := by
      rw [happend, List.forall_mem_append]
      exact ⟨ok.tagged, List.forall_mem_singleton.mpr hcurrent⟩
    fresh := ok.fresh
    slices := ok.slices
    contiguous := ok.contiguous
    once := ok.once }
  refine ⟨⟨rfl, rfl, List.prefix_append _ _, Nat.le_refl _, fun _ => ok'⟩,
    ⟨⟨ok', happend.trans (hpushed ▸ rfl)⟩, hcurrent, ?_, ?_⟩⟩
  · rw [List.forall_mem_append]
    exact ⟨hlatest, List.forall_mem_singleton.mpr (Nat.le_refl _)⟩
  · rw [List.length_append, List.length_singleton]
    omega

/-- The push loop pushes every sample. -/
theorem pushAll_safe {generation : ℕ} (samples : List F32) {pushed : List TaggedSample}
    {s : SharedState} (h : Pushing generation pushed samples.length s) :
    CaptureSafe (pushAll generation samples) (fun accepted t => accepted = true ∧
      Sent (pushed ++ samples.map (⟨generation, ·⟩)) t) s := by
  -- The room found before the loop is spent one sample at a time, so no push is refused.
  induction samples generalizing pushed s with
  | nil =>
    refine .pure _ fun t hstep => ⟨rfl, ?_⟩
    rw [List.map_nil, List.append_nil]
    exact h.sent.stable s t hstep
  | cons sample rest ih =>
    refine Prog.Safe.call h (fun t hs ht => hs.stable s t ht) fun t ht => ?_
    have hspace : t.queue.length < bypassRingCapacity := by
      have := ht.room
      rw [List.length_cons] at this
      omega
    obtain ⟨hstep, hnext⟩ := ht.push sample
    have hexec : BypassOp.exec (.push ⟨generation, sample⟩) t =
        (true, { t with queue := t.queue ++ [⟨generation, sample⟩] }) := if_pos hspace
    rw [hexec]
    refine ⟨hstep, ?_⟩
    have hrest := ih hnext
    rwa [List.append_assoc, List.singleton_append] at hrest

/-- Recording an overflow pushes nothing. -/
theorem recordOverflow_safe (samples : ℕ) {pushed : List TaggedSample} {s : SharedState}
    (h : Sent pushed s) : CaptureSafe (recordOverflow samples) (fun _ t => Sent pushed t) s :=
  .quiet Sent.stable h fun _ _ h => .quiet Sent.stable h fun _ _ h =>
    Prog.Safe.bind CaptureStep.refl <| (requestResync_captureSafe Sent.stable h).mono
      fun _ t h => .pure _ (Sent.stable t · h)

/-- What a write of `samples` has made of the samples `pushed` before it. -/
def Wrote (pushed : List TaggedSample) (samples : List F32) (accepted : Bool)
    (s : SharedState) : Prop :=
  TransportOk s ∧ (s.pushed = pushed ∨
    accepted = true ∧ ∃ generation, s.pushed = pushed ++ samples.map (⟨generation, ·⟩))

theorem Wrote.stable {pushed : List TaggedSample} {samples : List F32} {accepted : Bool}
    (s t : SharedState) (h : Wrote pushed samples accepted s) (hstep : CaptureStep s t) :
    Wrote pushed samples accepted t :=
  ⟨hstep.ok h.1, by rw [hstep.pushed]; exact h.2⟩

/-- **Whole writes.** A write keeps to the capture side's discipline; when it returns, its
    block has been pushed wholly, under one generation, or not at all. -/
theorem writeProcessed_safe (samples : List F32) {pushed : List TaggedSample}
    {s : SharedState} (h : Sent pushed s) :
    CaptureSafe (writeProcessed samples) (Wrote pushed samples) s := by
  have refused : ∀ {t}, Sent pushed t → ∀ accepted, Wrote pushed samples accepted t :=
    fun ht _ => ⟨ht.1, .inl ht.2⟩
  have overflow : ∀ {t}, Sent pushed t → CaptureSafe (do
      recordOverflow samples.length
      return false) (Wrote pushed samples) t := fun ht =>
    Prog.Safe.bind CaptureStep.refl <| (recordOverflow_safe _ ht).mono fun _ t ht =>
      .pure _ fun u hu => refused (ht.stable t u hu) false
  refine .quiet Sent.stable h fun enabled t ht => ?_
  split
  · -- The generation is read before the room, and only this side pushes in between.
    refine Prog.Safe.call ht (Sent.stable _) fun t ht => ⟨(QuietStep.refl t).source, ?_⟩
    have hread : Pushing t.generation pushed 0 t :=
      ⟨ht, Nat.le_refl _, fun x hx => ht.1.tagged x (ht.2 ▸ hx), ht.1.bounded⟩
    refine Prog.Safe.call hread (Pushing.stable _) fun u hu => ⟨(QuietStep.refl u).source, ?_⟩
    split
    · exact overflow hu.sent
    · -- Others only drain the ring, so the room read is a lower bound from here on.
      rename_i hroom
      have hroom : ¬ bypassRingCapacity - u.queue.length < samples.length := hroom
      have hpushing : Pushing t.generation pushed samples.length u :=
        { hu with room := by have := hu.room; omega }
      refine Prog.Safe.bind CaptureStep.refl <| (pushAll_safe samples hpushing).mono
        fun accepted v hv => ?_
      -- The refused push of the source is unreachable behind the check of the room.
      obtain ⟨rfl, hv⟩ := hv
      rw [if_pos rfl]
      refine CaptureSafe.quiet Sent.stable hv fun _ v hv => .quiet Sent.stable hv fun _ v hv => ?_
      refine CaptureSafe.quiet Sent.stable hv fun _ v hv => .quiet Sent.stable hv fun _ v hv => ?_
      exact .pure _ fun w hw => Wrote.stable v w ⟨hv.1, .inr ⟨rfl, _, hv.2⟩⟩ hw
  · exact .pure _ fun u hu => refused (ht.stable t u hu) true

end Noire
