import Noire.Lib.Run
import Noire.Transport.Source

namespace Noire

open Lib (Prog)

/-!
# The transport among all its threads

The whole transport: the capture thread and the source thread each run one call at a time,
and any number of control-plane threads bump the generation and gate publication.  An
event lets one thread make one atomic step, so a run is any interleaving.

* `Transport.step` — the system.  `TransportEvent.capture` and `.source` perform the next
  operation of the call in progress, or end it; `.control` is an operation of the control
  plane at any moment, in particular either half of `request_resync`;
* `Transport.Ok` — the invariant: the shared state's, and that each call in progress is
  safe among the others;
* `transport_safe` — what holds after every run.

Each thread's call is a program that was proved safe under interference, in
`Transport/Discipline.lean` and `Transport/Source.lean`.  Here they are put side by side.  The
invariant has three parts: that of the shared state, and for each thread that what is left of its
call is safe from where it is.  A step of one thread keeps its own part by its program's proof and
the other's by stability.
-/

/-- A completed `write_processed`: its block, its result, and what it pushed. -/
structure Write where
  block : List F32
  accepted : Bool
  appended : List TaggedSample

/-- The block was pushed wholly, under one generation, or not at all. -/
def Write.Whole (write : Write) : Prop :=
  write.appended = [] ∨ write.accepted = true ∧
    ∃ generation, write.appended = write.block.map (⟨generation, ·⟩)

/-- The capture callback: between calls, or in one.  A write remembers what had been pushed
    before it. -/
inductive CaptureThread
  | idle
  | writing (block : List F32) (before : List TaggedSample) (rest : BypassProg Bool)
  | resetting (rest : BypassProg Unit)

/-- The source callback: between calls, with its state, or in one that will leave it. -/
inductive SourceThread
  | idle (out : BypassOutput)
  | running (rest : BypassProg BypassOutput)

/-- The transport and its threads. -/
structure Transport where
  shared : SharedState := {}
  capture : CaptureThread := .idle
  source : SourceThread
  writes : List Write := []

/-- An operation of the control plane. -/
inductive ControlOp
  | addGenerationResets
  | fetchAddGeneration
  | storePublicationEnabled (enabled : Bool)

/-- What may happen next. -/
inductive TransportEvent
  | write (block : List F32)
  | reset
  | fill (frames fuel : ℕ)
  | clearSensitive (fuel : ℕ)
  | discardPendingSensitive (fuel : ℕ)
  | capture
  | source
  | control (op : ControlOp)

/-- What an operation of the control plane leaves. -/
def ControlOp.apply (s : SharedState) : ControlOp → SharedState
  | addGenerationResets => s.count .generationResets 1
  | fetchAddGeneration => { s with generation := s.generation + 1 }
  | storePublicationEnabled enabled => { s with publicationEnabled := enabled }

theorem ControlOp.quiet (s : SharedState) (op : ControlOp) : QuietStep s (op.apply s) := by
  cases op with
  | fetchAddGeneration => exact ⟨rfl, rfl, rfl, Nat.le_succ _⟩
  | _ => exact ⟨rfl, rfl, rfl, Nat.le_refl _⟩

/-! ## The system

The capture side and the source side as two threads over one channel, any of their operations
next.
-/

namespace Transport

/-- The capture thread's next atomic step. -/
def captureStep (t : Transport) : Option Transport :=
  match t.capture with
  | .idle => none
  | .writing block before (.op o next) =>
    some { t with
      shared := (o.exec t.shared).2
      capture := .writing block before (next (o.exec t.shared).1) }
  | .writing block before (.pure accepted) =>
    -- Only this thread pushes, so what was pushed since `before` is the write's own.
    some { t with
      capture := .idle
      writes := t.writes ++ [⟨block, accepted, t.shared.pushed.drop before.length⟩] }
  | .resetting (.op o next) =>
    some { t with
      shared := (o.exec t.shared).2
      capture := .resetting (next (o.exec t.shared).1) }
  | .resetting (.pure ()) => some { t with capture := .idle }
  | .writing _ _ .stuck | .resetting .stuck => none

/-- The source thread's next atomic step. -/
def sourceStep (t : Transport) : Option Transport :=
  match t.source with
  | .idle _ => none
  | .running (.op o next) =>
    some { t with
      shared := (o.exec t.shared).2
      source := .running (next (o.exec t.shared).1) }
  | .running (.pure out) => some { t with source := .idle out }
  | .running .stuck => none

/-- The capture thread takes up a call, when it is in none. -/
def captureCall (t : Transport) (call : CaptureThread) : Option Transport :=
  match t.capture with
  | .idle => some { t with capture := call }
  | _ => none

/-- The source thread takes up a call, when it is in none. -/
def sourceCall (t : Transport) (call : BypassOutput → BypassProg BypassOutput) :
    Option Transport :=
  match t.source with
  | .idle out => some { t with source := .running (call out) }
  | .running _ => none

variable (sin : F32 → F32)

/-- One event. -/
def step (t : Transport) : TransportEvent → Option Transport
  | .write block => t.captureCall (.writing block t.shared.pushed (writeProcessed block))
  | .reset => t.captureCall (.resetting resetCapture)
  -- A fill reads the ramp and the output only through the state it leaves.
  | .fill frames fuel => t.sourceCall fun out => Filled.after <$> out.fill sin frames fuel
  | .clearSensitive fuel => t.sourceCall (·.clearSensitive fuel)
  | .discardPendingSensitive fuel => t.sourceCall (·.discardPendingSensitive fuel)
  | .capture => t.captureStep
  | .source => t.sourceStep
  | .control op => some { t with shared := op.apply t.shared }

/-- A fresh channel, with no call in progress. -/
def fresh (channel : SharedState × BypassOutput) : Transport where
  shared := channel.1
  source := .idle channel.2

/-! ## The invariant

Each side's program is safe among the steps of the other, which only add to the queue, or only
take from it.
-/

/-- What the completed writes pushed. -/
def appended (writes : List Write) : List TaggedSample := writes.flatMap Write.appended

/-- The call in progress on the capture side is safe, and started from what the completed
    writes pushed. -/
def CaptureOk (pushed : List TaggedSample) (s : SharedState) : CaptureThread → Prop
  | .idle => Sent pushed s
  | .writing block before rest => before = pushed ∧ CaptureSafe rest (Wrote before block) s
  | .resetting rest => CaptureSafe rest (fun _ t => Sent pushed t) s

/-- The call in progress on the source side is safe. -/
def SourceOk (s : SharedState) : SourceThread → Prop
  | .idle out => SourceIdle out s
  | .running rest => SourceSafe rest SourceIdle s

/-- The invariant of the system. -/
structure Ok (t : Transport) : Prop where
  shared : TransportOk t.shared
  capture : CaptureOk (appended t.writes) t.shared t.capture
  source : SourceOk t.shared t.source
  writes : ∀ write ∈ t.writes, write.Whole

/-- The capture thread's state survives the steps of the others. -/
theorem CaptureOk.interfere {pushed : List TaggedSample} {s s' : SharedState}
    {thread : CaptureThread} (h : CaptureOk pushed s thread) (hstep : CaptureStep s s') :
    CaptureOk pushed s' thread := by
  cases thread with
  | idle => exact Sent.stable s s' h hstep
  | writing block before rest => exact ⟨h.1, h.2.interfere (fun _ _ _ => .trans) hstep⟩
  | resetting rest => exact Prog.Safe.interfere (fun _ _ _ => .trans) h hstep

/-- The source thread's state survives the steps of the others. -/
theorem SourceOk.interfere {s s' : SharedState} {thread : SourceThread}
    (h : SourceOk s thread) (hstep : SourceStep s s') : SourceOk s' thread := by
  cases thread with
  | idle out => exact SourceIdle.stable s s' h hstep
  | running rest => exact Prog.Safe.interfere (fun _ _ _ => .trans) h hstep

theorem resetCapture_safe {pushed : List TaggedSample} {s : SharedState} (h : Sent pushed s) :
    CaptureSafe resetCapture (fun _ t => Sent pushed t) s :=
  Prog.Safe.bind CaptureStep.refl <| (requestResync_captureSafe Sent.stable h).mono
    fun _ t ht => .pure _ (Sent.stable t · ht)

/-- A write that returns pushed its block wholly or not at all. -/
theorem Wrote.whole {pushed : List TaggedSample} {block : List F32} {accepted : Bool}
    {s : SharedState} (h : Wrote pushed block accepted s) :
    (⟨block, accepted, s.pushed.drop pushed.length⟩ : Write).Whole ∧
      pushed ++ s.pushed.drop pushed.length = s.pushed := by
  rcases h.2 with hnone | ⟨haccepted, generation, hall⟩
  · rw [hnone, List.drop_length, List.append_nil]
    exact ⟨.inl rfl, rfl⟩
  · rw [hall, List.drop_left]
    exact ⟨.inr ⟨haccepted, generation, rfl⟩, rfl⟩

/-- A step of the capture thread keeps the invariant. -/
theorem Ok.captureStep {t t' : Transport} (ok : t.Ok) (h : t.captureStep = some t') :
    t'.Ok := by
  obtain ⟨shared, capture, source, writes⟩ := t
  obtain ⟨hshared, hcapture, hsource, hwrites⟩ := ok
  unfold Transport.captureStep at h
  split at h
  · cases h
  · -- an operation of a write
    rename_i heq
    subst heq
    cases h
    obtain ⟨hstep, hrest⟩ := Prog.Safe.advance CaptureStep.refl hcapture.2
    exact ⟨hstep.ok hshared, ⟨hcapture.1, hrest⟩, hsource.interfere hstep, hwrites⟩
  · -- the return of a write
    rename_i heq
    subst heq
    cases h
    obtain ⟨hbefore, hsafe⟩ := hcapture
    obtain ⟨hwhole, happend⟩ := Wrote.whole (hsafe shared (CaptureStep.refl shared))
    rw [hbefore] at happend
    refine ⟨hshared, ⟨hshared, ?_⟩, hsource, List.forall_mem_append.mpr
      ⟨hwrites, List.forall_mem_singleton.mpr hwhole⟩⟩
    rw [appended, List.flatMap_append, List.flatMap_singleton, hbefore]
    exact happend.symm
  · -- an operation of a reset
    rename_i heq
    subst heq
    cases h
    obtain ⟨hstep, hrest⟩ := Prog.Safe.advance CaptureStep.refl hcapture
    exact ⟨hstep.ok hshared, hrest, hsource.interfere hstep, hwrites⟩
  · -- the return of a reset
    rename_i heq
    subst heq
    cases h
    exact ⟨hshared, hcapture shared (CaptureStep.refl shared), hsource, hwrites⟩
  · cases h
  · cases h

/-- A step of the source thread keeps the invariant. -/
theorem Ok.sourceStep {t t' : Transport} (ok : t.Ok) (h : t.sourceStep = some t') : t'.Ok := by
  obtain ⟨shared, capture, source, writes⟩ := t
  obtain ⟨hshared, hcapture, hsource, hwrites⟩ := ok
  unfold Transport.sourceStep at h
  split at h
  · cases h
  · rename_i heq
    subst heq
    cases h
    obtain ⟨hstep, hrest⟩ := Prog.Safe.advance SourceStep.refl hsource
    exact ⟨hstep.ok hshared, hcapture.interfere hstep, hrest, hwrites⟩
  · rename_i heq
    subst heq
    cases h
    exact ⟨hshared, hcapture, hsource shared (SourceStep.refl shared), hwrites⟩
  · cases h

/-- A call of the capture thread is safe when it starts. -/
theorem Ok.captureCall {t t' : Transport} (ok : t.Ok) {call : CaptureThread}
    (hcall : Sent (appended t.writes) t.shared → CaptureOk (appended t.writes) t.shared call)
    (h : t.captureCall call = some t') : t'.Ok := by
  obtain ⟨shared, capture, source, writes⟩ := t
  unfold Transport.captureCall at h
  split at h
  · rename_i heq
    subst heq
    cases h
    exact { ok with capture := hcall ok.capture }
  · cases h

/-- A call of the source thread is safe when it starts. -/
theorem Ok.sourceCall {t t' : Transport} (ok : t.Ok)
    {call : BypassOutput → BypassProg BypassOutput}
    (hcall : ∀ out, SourceIdle out t.shared → SourceSafe (call out) SourceIdle t.shared)
    (h : t.sourceCall call = some t') : t'.Ok := by
  obtain ⟨shared, capture, source, writes⟩ := t
  unfold Transport.sourceCall at h
  split at h
  · rename_i heq
    subst heq
    cases h
    exact { ok with source := hcall _ ok.source }
  · cases h

/-- **Step lemma.** Every event keeps the invariant. -/
theorem Ok.step {t t' : Transport} {event : TransportEvent} (ok : t.Ok)
    (h : t.step sin event = some t') : t'.Ok := by
  cases event with
  | write block =>
    refine ok.captureCall ?_ h
    exact fun hsent => ⟨hsent.2, writeProcessed_safe block ⟨hsent.1, rfl⟩⟩
  | reset =>
    refine ok.captureCall ?_ h
    exact fun hsent => resetCapture_safe hsent
  | fill frames fuel =>
    refine ok.sourceCall (fun out hout => ?_) h
    rw [map_eq_pure_bind]
    exact Prog.Safe.bind SourceStep.refl <| (out.fill_safe sin frames fuel hout).mono
      fun filled s hfilled => .pure _ (SourceIdle.stable s · hfilled)
  | clearSensitive fuel =>
    exact ok.sourceCall (fun out hout => out.clearSensitive_safe fuel hout.ok) h
  | discardPendingSensitive fuel =>
    exact ok.sourceCall (fun out hout => (out.discardPendingSensitive_safe fuel hout.ok).mono
      fun _ _ hafter => .of_startup hafter.1 hafter.2) h
  | capture => exact ok.captureStep h
  | source => exact ok.sourceStep h
  | control op =>
    -- Neither side may count on the generation standing still.
    cases h
    have hquiet := op.quiet t.shared
    exact ⟨hquiet.ok ok.shared, ok.capture.interfere hquiet.capture,
      ok.source.interfere hquiet.source, ok.writes⟩

/-- A fresh channel meets the invariant, whatever its startup parameters. -/
theorem Ok.fresh (generation startupFrameSamples startupQuanta : ℕ)
    (emptyWhileBuffering : Bool) :
    (Transport.fresh ({}, createChannel generation startupFrameSamples startupQuanta
      emptyWhileBuffering)).Ok := by
  have ok : TransportOk {} := ⟨Nat.zero_le _, .nil, nofun, nofun, nofun, nofun, .nil⟩
  exact ⟨ok, ⟨ok, rfl⟩, .of_startup rfl ok, nofun⟩

end Transport

/-! ## The safety theorem

The invariant speaks of places among all samples ever pushed; the theorem of the samples
themselves.
-/

/-- A slice of a list, read off place by place. -/
theorem range'_filterMap_getElem? {α : Type} (xs : List α) (start count : ℕ) :
    (List.range' start count).filterMap (xs[·]?) = (xs.drop start).take count := by
  induction count generalizing start with
  | zero => rfl
  | succ count ih =>
    rw [List.range'_succ, List.filterMap_cons, ih]
    rcases Nat.lt_or_ge start xs.length with hlt | hge
    · rw [List.getElem?_eq_getElem hlt, List.drop_eq_getElem_cons hlt]
      rfl
    · rw [List.getElem?_eq_none hge, List.drop_eq_nil_of_le hge,
        List.drop_eq_nil_of_le (Nat.le_succ_of_le hge), List.take_nil, List.take_nil]

/-- The samples of a run are those at its places. -/
theorem flatMap_samples {xs : List TaggedSample} (run : List PublishedBlock)
    (h : ∀ block ∈ run, block.samples <+: xs.drop block.first) :
    run.flatMap PublishedBlock.samples = (positions run).filterMap (xs[·]?) := by
  induction run with
  | nil => rfl
  | cons block rest ih =>
    obtain ⟨hblock, hrest⟩ := List.forall_mem_cons.mp h
    rw [positions, List.flatMap_cons, List.flatMap_cons, List.filterMap_append,
      range'_filterMap_getElem?, ih hrest, ← List.prefix_iff_eq_take.mp hblock]
    rfl

/-- A channel's threads in any interleaving, from a fresh channel. -/
abbrev TransportRun (sin : F32 → F32) (channel : SharedState × BypassOutput) :
    List TransportEvent → Transport → Prop :=
  Lib.Run (fun t event t' => t.step sin event = some t') Lib.Free (.fresh channel)

/-- **Transport safety.** After any interleaving of writes and resets of the capture side,
    fills and clears of the source side, and resync and gating operations of the control
    plane, one atomic operation at a time:

    * every block handed to the fault ramp holds samples of its consumer's generation;
    * the samples published since a startup are a contiguous run of the samples pushed, in
      order, and no place is published twice;
    * every write that returned pushed its block wholly or not at all, and nothing else is
      ever pushed;
    * the ring holds at most its capacity. -/
theorem transport_safe (sin : F32 → F32) (startupFrameSamples startupQuanta : ℕ)
    (emptyWhileBuffering : Bool) {events : List TransportEvent} {t : Transport}
    (run : TransportRun sin
      ({}, createChannel 1 startupFrameSamples startupQuanta emptyWhileBuffering) events t) :
    (∀ published ∈ t.shared.runs, ∀ block ∈ published, ∀ x ∈ block.samples,
      x.generation = block.generation) ∧
    (∀ published ∈ t.shared.runs, ∃ start count,
      positions published = List.range' start count ∧
      published.flatMap PublishedBlock.samples = (t.shared.pushed.drop start).take count) ∧
    (t.shared.runs.reverse.flatMap positions).Pairwise (· < ·) ∧
    (∀ write ∈ t.writes, write.Whole) ∧
    (t.capture = .idle → t.shared.pushed = t.writes.flatMap Write.appended) ∧
    t.shared.queue.length ≤ bypassRingCapacity := by
  -- The invariant of the reached state says all of it, but for the samples of a run.
  have ok : t.Ok := run.invariant Transport.Ok (Transport.Ok.fresh ..)
    fun _ _ _ ok _ hstep => ok.step sin hstep
  refine ⟨ok.shared.fresh, fun published hpublished => ?_, ok.shared.once, ok.writes,
    fun hidle => ?_, ok.shared.bounded⟩
  · obtain ⟨start, count, hpositions⟩ := ok.shared.contiguous published hpublished
    refine ⟨start, count, hpositions, ?_⟩
    rw [← range'_filterMap_getElem?, ← hpositions]
    exact flatMap_samples published fun block hblock =>
      (ok.shared.slices published hpublished block hblock).trans
        ((List.prefix_append _ _).drop _)
  · have hcapture := ok.capture
    rw [hidle] at hcapture
    exact hcapture.2

/-- A generation bumped between the pop and the publication of a block: the block still
    belongs to its consumer. -/
theorem transport_safe_resync : ∃ events t,
    TransportRun taylorSine ({}, createChannel 1 1 0 false) events t ∧ t.shared.generation = 2 ∧
      t.shared.runs.map (·.map (·.samples.length)) = [[1]] ∧
      ∀ published ∈ t.shared.runs, ∀ block ∈ published, ∀ x ∈ block.samples,
        x.generation = block.generation := by
  let events : List TransportEvent :=
    [.write [.one]] ++ .replicate 9 .capture ++ [.fill 1 2] ++ .replicate 6 .source ++
      [.control .fetchAddGeneration] ++ .replicate 7 .source
  let channel : SharedState × BypassOutput := ({}, createChannel 1 1 0 false)
  have hend : (events.foldlM (Transport.step taylorSine) (.fresh channel)).any (fun t =>
      t.shared.generation = 2 && t.shared.runs.map (·.map (·.samples.length)) = [[1]]) = true := by
    decide +kernel
  obtain ⟨t, hrun, ht⟩ := (Option.any_eq_true _ _).mp hend
  have run : TransportRun taylorSine channel events t :=
    Lib.Run.of_foldlM _ (fun _ _ _ hstep => ⟨trivial, hstep⟩) hrun
  rw [Bool.and_eq_true, decide_eq_true_eq, decide_eq_true_eq] at ht
  exact ⟨events, t, run, ht.1, ht.2, (transport_safe taylorSine 1 0 false run).1⟩

end Noire
