import Noire.Graph.Source
import Noire.Lib.Run
import Mathlib.Data.List.Basic
import Mathlib.Order.Nat

namespace Noire

/-!
# Edges of the consumer's demand

The source's control state over any order of native state changes and polls, with a clock that
never goes back.

* `DemandRun` — the control state, with the states of the stream so far and the edges of demand;
* `stateAt` — the state of the stream at an instant;
* `DemandEdge.Quiet` — no consumer within the debounce before an edge;
* `DemandRun.Lawful` — the edges alternate, and each is in time;
* `demand_edges` — in every run the edges are lawful, and in every run in which no stream goes
  from a consumer straight to connecting, demand does not outlast the debounce;
* `demand_stuck`, a run in which it does.

The control state has one idle clock, which runs while no consumer counts, and a poll reads it.
The laws of the edges follow from what the clock says: where it runs, nothing was streaming since
it was started.  That it runs whenever it should is not true of every run: a stream that begins to
connect stops it.  So `Watched` is proved only of runs in which no stream with a consumer does
that, and bounds the demand there; `demand_stuck` is a run outside.
-/

/-- What happens to the control state. -/
inductive DemandEvent
  | changed (change : StreamChange) (now : ℕ)
  | poll (now : ℕ)

/-- The reading of the clock. -/
def DemandEvent.now : DemandEvent → ℕ
  | changed _ now => now
  | poll now => now

/-- An edge of demand, and the state of the stream that the poll found. -/
structure DemandEdge where
  now : ℕ
  transition : DemandTransition
  streamState : StreamState

/-- A control state in use. -/
structure DemandRun where
  control : SourceControl := {}
  now : ℕ := 0
  /-- The states of the stream, each with the instant it began at. -/
  history : List (ℕ × StreamState) := []
  /-- When the stream last ceased to be streaming. -/
  leftAt : Option ℕ := none
  edges : List DemandEdge := []

/-- The state at an instant: the last one that had begun. -/
def stateAt (history : List (ℕ × StreamState)) (instant : ℕ) : StreamState :=
  ((history.filter fun entry => entry.1 ≤ instant).getLast?.map Prod.snd).getD .unconnected

/-- At no instant of the debounce before it was the stream streaming. -/
structure DemandEdge.Quiet (edge : DemandEdge) (history : List (ℕ × StreamState)) : Prop where
  found : edge.streamState ≠ .streaming
  throughout : ∀ instant, edge.now ≤ instant + consumerIdleDebounce → instant < edge.now →
    stateAt history instant ≠ .streaming
  began : ∀ entry ∈ history, edge.now < entry.1 + consumerIdleDebounce → entry.1 < edge.now →
    entry.2 ≠ .streaming

namespace DemandRun

/-- One event. -/
def step (run : DemandRun) : DemandEvent → DemandRun
  | .changed change now =>
    { run with
      control := run.control.stateChanged change now
      now
      history := run.history ++ [(now, change.state)]
      leftAt :=
        if run.control.streamState = .streaming ∧ change.state ≠ .streaming then some now
        else run.leftAt }
  | .poll now =>
    let resolved := resolveDemandTransition run.control now
    { run with
      control := resolved.2
      now
      edges := run.edges ++ (resolved.1.map (⟨now, ·, run.control.streamState⟩)).toList }

/-- The clock does not go back. -/
def Timed (run : DemandRun) (event : DemandEvent) : Prop := run.now ≤ event.now

/-- A stream that serves a consumer does not begin to connect. -/
def Settled (run : DemandRun) : DemandEvent → Prop
  | .changed change _ => change = .connecting → run.control.streamState = .streaming →
    run.control.demand = .idle
  | .poll _ => True

/-- The transition of the edge number `i`: they alternate, and an activation is the first. -/
def transitionAt (i : ℕ) : DemandTransition := if i % 2 = 0 then .activate else .deactivate

/-- What holds of the edges so far. -/
structure Lawful (run : DemandRun) : Prop where
  alternate : ∀ i edge, run.edges[i]? = some edge → edge.transition = transitionAt i
  demand : run.control.demand = if run.edges.length % 2 = 0 then .idle else .active
  past : ∀ edge ∈ run.edges, edge.now ≤ run.now
  activated : ∀ edge ∈ run.edges, edge.transition = .activate → edge.streamState = .streaming
  deactivated : ∀ edge ∈ run.edges, edge.transition = .deactivate → edge.Quiet run.history
  /-- The stream is in the last state that began. -/
  current : ∀ instant, run.now ≤ instant → stateAt run.history instant = run.control.streamState
  began : ∀ entry ∈ run.history, entry.1 ≤ run.now
  streaming : run.control.streamState = .streaming → run.control.idleSince = none
  /-- Since the idle clock runs, the stream has not been streaming. -/
  idle : ∀ since ∈ run.control.idleSince, since ≤ run.now ∧
    (∀ instant, since ≤ instant → stateAt run.history instant ≠ .streaming) ∧
    ∀ entry ∈ run.history, since < entry.1 → entry.2 ≠ .streaming

/-- While a consumer counts that is gone, the idle clock runs since it left. -/
def Watched (run : DemandRun) : Prop :=
  run.control.demand = .active → run.control.streamState ≠ .streaming →
    run.control.idleSince.isSome ∧ run.control.idleSince = run.leftAt

/-! ## The states of the stream

The history of the states is a list with the instants at which they began.
-/

/-- From the instant it begins at, the stream is in its last state. -/
theorem stateAt_append_of_le {history : List (ℕ × StreamState)} {now instant : ℕ}
    (h : now ≤ instant) (state : StreamState) :
    stateAt (history ++ [(now, state)]) instant = state := by
  simp [stateAt, List.filter_append, h]

/-- Before that, it is in the state it was in. -/
theorem stateAt_append_of_lt {history : List (ℕ × StreamState)} {now instant : ℕ}
    (h : instant < now) (state : StreamState) :
    stateAt (history ++ [(now, state)]) instant = stateAt history instant := by
  simp [stateAt, List.filter_append, Nat.not_le.mpr h]

/-- Without a consumer, the idle clock goes on, or begins now. -/
theorem stateChanged_idleSince (control : SourceControl) {change : StreamChange}
    (h : change.state ≠ .streaming) (now : ℕ) :
    (control.stateChanged change now).idleSince = control.idleSince ∨
      control.idleSince = none ∧ (control.stateChanged change now).idleSince = some now := by
  have hrun : some (control.idleSince.getD now) = control.idleSince ∨
      control.idleSince = none ∧ some (control.idleSince.getD now) = some now := by
    cases control.idleSince with
    | none => exact .inr ⟨rfl, rfl⟩
    | some since => exact .inl rfl
  cases change with
  | unconnected => exact hrun
  | connecting => exact .inl rfl
  | paused =>
    unfold SourceControl.stateChanged
    dsimp only
    split
    · exact hrun
    · exact .inl rfl
  | streaming => exact absurd rfl h
  | error message => exact hrun

/-- For a consumer that counts it runs in any case, unless the stream begins to connect. -/
theorem stateChanged_idle_isSome (control : SourceControl) {change : StreamChange}
    (h : change.state ≠ .streaming) (hconnecting : change ≠ .connecting)
    (hactive : control.demand = .active) (now : ℕ) :
    (control.stateChanged change now).idleSince.isSome := by
  cases change with
  | unconnected => rfl
  | connecting => exact absurd rfl hconnecting
  | paused =>
    unfold SourceControl.stateChanged
    dsimp only
    rw [if_pos hactive]
    rfl
  | streaming => exact absurd rfl h
  | error message => rfl

/-! ## Every event keeps the laws

A change of the state adds to the history; a poll may add an edge.
-/

variable {run : DemandRun}

/-- A change of the stream's state. -/
theorem Lawful.changed (h : run.Lawful) {change : StreamChange} {now : ℕ} (hnow : run.now ≤ now) :
    (run.step (.changed change now)).Lawful := by
  have hstate := run.control.stateChanged_streamState change now
  refine ⟨h.alternate, ?_, fun edge hedge => (h.past edge hedge).trans hnow, h.activated,
    fun edge hedge hdeactivate => ?_, fun instant hinstant => ?_, ?_, fun hstreaming => ?_,
    fun since hsince => ?_⟩
  · exact (run.control.stateChanged_demand change now).trans h.demand
  · -- an edge of the past lies before the change, and sees the history as it was
    obtain ⟨hfound, hthroughout, hbegan⟩ := h.deactivated edge hedge hdeactivate
    have hpast : edge.now ≤ now := (h.past edge hedge).trans hnow
    refine ⟨hfound, fun instant hafter hbefore => ?_, ?_⟩
    · rw [step, stateAt_append_of_lt (hbefore.trans_le hpast)]
      exact hthroughout instant hafter hbefore
    · refine List.forall_mem_append.mpr ⟨hbegan, List.forall_mem_singleton.mpr fun _ hlater => ?_⟩
      exact absurd hlater (Nat.not_lt.mpr hpast)
  · exact (stateAt_append_of_le hinstant _).trans hstate.symm
  · refine List.forall_mem_append.mpr ⟨fun entry hentry => (h.began entry hentry).trans hnow, ?_⟩
    exact List.forall_mem_singleton.mpr le_rfl
  · -- with a consumer the clock is cleared: no other change streams
    have hstreaming : change.state = .streaming := hstate.symm.trans hstreaming
    cases change with
    | streaming => rfl
    | unconnected => cases hstreaming
    | connecting => cases hstreaming
    | paused => cases hstreaming
    | error message => cases hstreaming
  · -- With a consumer there is no idle clock.
    have hgone : change.state ≠ .streaming := by
      rintro hstreaming
      cases change with
      | streaming => cases hsince
      | unconnected => cases hstreaming
      | connecting => cases hstreaming
      | paused => cases hstreaming
      | error message => cases hstreaming
    have hlater : ∀ instant, now ≤ instant →
        stateAt (run.history ++ [(now, change.state)]) instant ≠ .streaming :=
      fun instant hinstant => by
        rw [stateAt_append_of_le hinstant]
        exact hgone
    -- The clock goes on, and the absence only grows; or it starts now.
    rcases stateChanged_idleSince run.control hgone now with hsame | ⟨-, hnew⟩
    · obtain ⟨hpast, hquiet, hbegan⟩ := h.idle since (hsame ▸ hsince)
      refine ⟨hpast.trans hnow, fun instant hinstant => ?_, ?_⟩
      · rcases Nat.lt_or_ge instant now with hbefore | hafter
        · rw [step, stateAt_append_of_lt hbefore]
          exact hquiet instant hinstant
        · exact hlater instant hafter
      · exact List.forall_mem_append.mpr ⟨hbegan, List.forall_mem_singleton.mpr fun _ => hgone⟩
    · obtain rfl : now = since := Option.some.inj (hnew.symm.trans hsince)
      refine ⟨le_rfl, hlater, List.forall_mem_append.mpr ⟨fun entry hentry hafter => ?_,
        List.forall_mem_singleton.mpr fun _ => hgone⟩⟩
      exact absurd ((h.began entry hentry).trans hnow) (Nat.not_le.mpr hafter)

/-- A new edge is the next one. -/
theorem alternate_append {edges : List DemandEdge} {edge : DemandEdge}
    (h : ∀ i edge, edges[i]? = some edge → edge.transition = transitionAt i)
    (hedge : edge.transition = transitionAt edges.length) :
    ∀ i e, (edges ++ [edge])[i]? = some e → e.transition = transitionAt i := by
  intro i e he
  rcases Nat.lt_trichotomy i edges.length with hlt | rfl | hgt
  · rw [List.getElem?_append_left hlt] at he
    exact h i e he
  · rw [List.getElem?_concat_length] at he
    obtain rfl := Option.some.inj he
    exact hedge
  · rw [List.getElem?_eq_none (by rw [List.length_append, List.length_singleton]; exact hgt)] at he
    cases he

/-- A poll. -/
theorem Lawful.poll (h : run.Lawful) {now : ℕ} (hnow : run.now ≤ now) :
    (run.step (.poll now)).Lawful := by
  have hpast : ∀ edge ∈ run.edges, edge.now ≤ now := fun edge hedge =>
    (h.past edge hedge).trans hnow
  have hcurrent : ∀ instant, now ≤ instant →
      stateAt run.history instant = run.control.streamState := fun instant hinstant =>
    h.current instant (hnow.trans hinstant)
  have hbegan : ∀ entry ∈ run.history, entry.1 ≤ now := fun entry hentry =>
    (h.began entry hentry).trans hnow
  have hdemand := h.demand
  unfold step
  dsimp only
  rcases resolveDemandTransition_cases run.control now with ⟨hresolve, hstreaming, hidle⟩ |
    ⟨hresolve, hpaused, hactive, since, hsince, hlong⟩ | ⟨hresolve, -, -⟩
  · -- The last edge was a deactivation.
    have heven : run.edges.length % 2 = 0 := by
      by_contra hodd
      rw [if_neg hodd, hidle] at hdemand
      cases hdemand
    rw [hresolve]
    refine ⟨alternate_append h.alternate (if_pos heven).symm, ?_,
      List.forall_mem_append.mpr ⟨hpast, List.forall_mem_singleton.mpr le_rfl⟩,
      List.forall_mem_append.mpr ⟨h.activated, List.forall_mem_singleton.mpr fun _ => hstreaming⟩,
      List.forall_mem_append.mpr ⟨h.deactivated, List.forall_mem_singleton.mpr nofun⟩,
      hcurrent, hbegan, fun _ => rfl, nofun⟩
    have hnext : ¬(run.edges.length + 1) % 2 = 0 := by omega
    exact (if_neg (by rw [List.length_append]; exact hnext)).symm
  · have hodd : ¬run.edges.length % 2 = 0 := fun heven => by
      rw [if_pos heven, hactive] at hdemand
      cases hdemand
    -- The idle clock has run for the debounce.
    obtain ⟨-, hquiet, hgone⟩ := h.idle since hsince
    have hpositive : 0 < consumerIdleDebounce := by decide
    have hedge : DemandEdge.Quiet ⟨now, .deactivate, run.control.streamState⟩ run.history :=
      ⟨hpaused, fun instant hafter _ => hquiet instant (by dsimp only at hafter; omega),
        fun entry hentry hafter _ => hgone entry hentry (by dsimp only at hafter; omega)⟩
    rw [hresolve]
    refine ⟨alternate_append h.alternate (if_neg hodd).symm, ?_,
      List.forall_mem_append.mpr ⟨hpast, List.forall_mem_singleton.mpr le_rfl⟩,
      List.forall_mem_append.mpr ⟨h.activated, List.forall_mem_singleton.mpr nofun⟩,
      List.forall_mem_append.mpr ⟨h.deactivated, List.forall_mem_singleton.mpr fun _ => hedge⟩,
      hcurrent, hbegan, fun _ => rfl, nofun⟩
    have hnext : (run.edges.length + 1) % 2 = 0 := by omega
    exact (if_pos (by rw [List.length_append]; exact hnext)).symm
  · rw [hresolve, Option.map_none, Option.toList_none, List.append_nil]
    exact ⟨h.alternate, hdemand, hpast, h.activated, h.deactivated, hcurrent, hbegan, h.streaming,
      fun since hsince => ⟨(h.idle since hsince).1.trans hnow, (h.idle since hsince).2⟩⟩

/-- **One event** keeps the laws. -/
theorem Lawful.step (h : run.Lawful) {event : DemandEvent} (hnow : run.Timed event) :
    (run.step event).Lawful := by
  cases event with
  | changed change now => exact h.changed hnow
  | poll now => exact h.poll hnow

/-- An event that does not take a consumer's stream to connecting keeps the idle clock in step. -/
theorem Watched.step (h : run.Watched) (hlawful : run.Lawful) {event : DemandEvent}
    (hsettled : run.Settled event) : (run.step event).Watched := by
  cases event with
  | changed change now =>
    intro hactive hgone
    have hactive : run.control.demand = .active :=
      (run.control.stateChanged_demand change now).symm.trans hactive
    have hgone : change.state ≠ .streaming := fun hstreaming =>
      hgone ((run.control.stateChanged_streamState change now).trans hstreaming)
    have hidle := stateChanged_idleSince run.control hgone now
    by_cases hbefore : run.control.streamState = .streaming
    · -- It leaves now, and the idle clock did not run.
      have hleft : (run.step (.changed change now)).leftAt = some now := if_pos ⟨hbefore, hgone⟩
      have hconnecting : change ≠ .connecting := fun hconnecting => by
        have hnone := hsettled hconnecting hbefore
        rw [hactive] at hnone
        cases hnone
      have hsome := stateChanged_idle_isSome run.control hgone hconnecting hactive now
      refine ⟨hsome, ?_⟩
      rw [hleft]
      rcases hidle with hsame | ⟨-, hnew⟩
      · rw [hsame, hlawful.streaming hbefore] at hsome
        cases hsome
      · exact hnew
    · -- it had left before, and nothing restarts the clock
      have hleft : (run.step (.changed change now)).leftAt = run.leftAt :=
        if_neg fun hboth => hbefore hboth.1
      obtain ⟨hsome, hsame⟩ := h hactive hbefore
      have hkept : (run.control.stateChanged change now).idleSince = run.control.idleSince := by
        rcases hidle with hkept | ⟨hnone, -⟩
        · exact hkept
        · rw [hnone] at hsome
          cases hsome
      rw [hleft]
      exact ⟨hkept ▸ hsome, hkept.trans hsame⟩
  | poll now =>
    intro hactive hgone
    unfold DemandRun.step at hactive hgone ⊢
    dsimp only at hactive hgone ⊢
    -- Only a poll that moves nothing leaves an active demand without a consumer.
    rcases resolveDemandTransition_cases run.control now with
      ⟨hresolve, hstreaming, -⟩ | ⟨hresolve, -⟩ | ⟨hresolve, -⟩
    · rw [hresolve] at hgone
      exact absurd hstreaming hgone
    · rw [hresolve] at hactive
      cases hactive
    · rw [hresolve] at hactive hgone ⊢
      exact h hactive hgone

end DemandRun

/-! ## Runs -/

open DemandRun

/-- A control state that has seen nothing yet. -/
theorem lawful_start : ({} : DemandRun).Lawful :=
  ⟨nofun, rfl, nofun, nofun, nofun, fun _ _ => rfl, nofun, nofun, nofun⟩

/-- In every run the edges are lawful. -/
theorem demand_lawful {C : DemandRun → DemandEvent → Prop}
    (hC : ∀ run event, C run event → run.Timed event) {events : List DemandEvent} {run : DemandRun}
    (h : Lib.Run (fun run event run' => DemandRun.step run event = run') C {} events run) :
    run.Lawful := by
  refine h.invariant DemandRun.Lawful lawful_start fun run event run' hrun hmeets hstep => ?_
  rw [← hstep]
  exact hrun.step (hC run event hmeets)

/-- **Demand edges.** In every run whose clock never goes back and in which no stream goes from a
    consumer that counts straight to connecting: activations and deactivations alternate, and an
    activation is the first; a poll activates a stream that is streaming; it deactivates one that
    was not, at any instant of the debounce before; and a poll that comes a debounce or more after
    the stream ceased to be streaming leaves no demand. -/
theorem demand_edges {events : List DemandEvent} {run : DemandRun}
    (h : Lib.Run (fun run event run' => DemandRun.step run event = run')
      (fun run event => run.Timed event ∧ run.Settled event) {} events run) :
    (∀ i edge, run.edges[i]? = some edge → edge.transition = transitionAt i) ∧
    (∀ edge ∈ run.edges, edge.transition = .activate → edge.streamState = .streaming) ∧
    (∀ edge ∈ run.edges, edge.transition = .deactivate → edge.Quiet run.history) ∧
    ∀ now, run.now ≤ now → run.control.streamState ≠ .streaming →
      (∀ left ∈ run.leftAt, left + consumerIdleDebounce ≤ now) →
        (resolveDemandTransition run.control now).2.demand = .idle := by
  have hlawful := demand_lawful (fun _ _ hmeets => hmeets.1) h
  -- The clock is followed along with the edges: its law needs theirs.
  have hwatched : run.Lawful ∧ run.Watched := by
    refine h.invariant (fun run => run.Lawful ∧ run.Watched) ⟨lawful_start, nofun⟩
      fun run event run' hrun hmeets hstep => ?_
    rw [← hstep]
    exact ⟨hrun.1.step hmeets.1, hrun.2.step hrun.1 hmeets.2⟩
  refine ⟨hlawful.alternate, hlawful.activated, hlawful.deactivated,
    fun now _ hgone hlong => ?_⟩
  rcases resolveDemandTransition_cases run.control now with ⟨-, hstreaming, -⟩ | ⟨hresolve, -⟩ |
    ⟨hresolve, -, hshort⟩
  · exact absurd hstreaming hgone
  · rw [hresolve]
  · rw [hresolve]
    cases hdemand : run.control.demand with
    | idle => rfl
    -- Active with its consumer long gone: the poll would have moved it.
    | active =>
      obtain ⟨hsome, hsame⟩ := hwatched.2 hdemand hgone
      obtain ⟨since, hsince⟩ := Option.isSome_iff_exists.mp hsome
      have hleft := hlong since (hsame.symm.trans hsince)
      have hearly := hshort hdemand hgone since hsince
      omega

/-- A consumer that comes at once, leaves after a second, and is gone for the debounce. -/
theorem demand_edges_paused : ∃ run,
    Lib.Run (fun run event run' => DemandRun.step run event = run')
      (fun run event => run.Timed event ∧ run.Settled event) {}
      [.changed .streaming 0, .poll 0, .changed .paused (fromMillis 1000)] run ∧
    (resolveDemandTransition run.control (fromMillis 1500)).2.demand = .idle := by
  have hrun : Lib.Run (fun run event run' => DemandRun.step run event = run')
      (fun run event => run.Timed event ∧ run.Settled event) {}
      [.changed .streaming 0, .poll 0, .changed .paused (fromMillis 1000)] _ :=
    .snoc (.snoc (.snoc .nil ⟨le_rfl, nofun⟩ rfl) ⟨le_rfl, trivial⟩ rfl)
      ⟨Nat.zero_le _, nofun⟩ rfl
  exact ⟨_, hrun, (demand_edges hrun).2.2.2 (fromMillis 1500) (by decide) (by decide) (by decide)⟩

/-- **Stuck demand.** A stream that goes from its consumer to connecting keeps the demand, however
    long it is gone. -/
theorem demand_stuck : ¬ ∀ (events : List DemandEvent) (run : DemandRun),
    Lib.Run (fun run event run' => DemandRun.step run event = run') DemandRun.Timed {} events run →
    (∀ i edge, run.edges[i]? = some edge → edge.transition = transitionAt i) ∧
    (∀ edge ∈ run.edges, edge.transition = .activate → edge.streamState = .streaming) ∧
    (∀ edge ∈ run.edges, edge.transition = .deactivate → edge.Quiet run.history) ∧
    ∀ now, run.now ≤ now → run.control.streamState ≠ .streaming →
      (∀ left ∈ run.leftAt, left + consumerIdleDebounce ≤ now) →
        (resolveDemandTransition run.control now).2.demand = .idle := by
  intro hall
  have hrun : Lib.Run (fun run event run' => DemandRun.step run event = run') DemandRun.Timed {}
      [.changed .streaming 0, .poll 0, .changed .connecting (fromMillis 1000)] _ :=
    .snoc (.snoc (.snoc .nil (by exact le_rfl) rfl) (by exact le_rfl) rfl)
      (by exact Nat.zero_le _) rfl
  have hidle := (hall _ _ hrun).2.2.2 (fromMillis 1500) (by decide) (by decide) (by decide)
  cases hidle

end Noire
