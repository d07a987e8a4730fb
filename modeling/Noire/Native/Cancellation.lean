import Noire.Native.Request

namespace Noire

/-!
# The cancel flag

A request that returned a timeout must never become part of the owner's intent, then or later.
The owner reads the cancel flag once, before it carries the command out, so a caller that gives up
after that is not noticed.  Only `Apply` and `SetMeterMonitoring` assign part of the intent; a late
`Inputs` or `Observe` commits nothing.

* `System.Sound` — what links every request to the owner's position and to what it committed;
* `Undisturbed` — what assigns part of the intent and succeeds is carried out for a caller that
  waits, and it waits until it is answered;
* `intent_of_answered` — in every run of such steps, the committed intent is that of the
  requests answered `Ok`, and of no request that timed out;
* `System.step_intentAnswered_iff` — the condition is exact: the first step that does not meet it
  leaves the intent of a request that its caller will not be told of;
* `timed_out_apply_commits` — a run in which a request that timed out is committed later.

The invariant is kept step by step.  A command that was carried out with success is `accepted`
until its reply is sent, then `replied`, then `answered`: each step of its caller or of the owner
moves it along, and nothing but a disturbed step takes it off that path.
-/

/-! ## The invariant of undisturbed runs

Requests are numbered in the order in which they were made, and the owner's queue, its hand and
the list of what it committed all speak of these numbers.
-/

/-- The request is answered `Ok`, or its caller waits for an answer that is `Ok`. -/
inductive Request.Accepted (position : Position) (id : ℕ) (r : Request) : Prop
  | answered {reply} (caller : r.caller = .answered reply) (ok : reply.isOk = true)
  | replied {reply} (caller : r.caller = .waiting) (replied : r.reply = some reply)
      (ok : reply.isOk = true)
  | executed (caller : r.caller = .waiting) (executed : position.accepts id = true)

/-- What links one request to the owner's position, to the requests it can still carry out,
    and to what it committed. -/
structure Request.Sound (position : Position) (held : List ℕ)
    (committed : List (ℕ × NativeCommand)) (id : ℕ) (r : Request) : Prop where
  unanswered : id ∈ held → r.reply = none
  returns : id ∈ held → ∀ reply, r.caller ≠ .answered reply
  waits : position.accepts id = true → r.command.assigns = true → r.caller = .waiting
  accepted : ∀ command, (id, command) ∈ committed →
    command = r.command ∧ command.assigns = true ∧ r.Accepted position id
  answered : ∀ reply, r.caller = .answered reply → reply.isOk = true →
    r.command.assigns = true → (id, r.command) ∈ committed
  replied : ∀ reply, r.reply = some reply → reply.isOk = true →
    r.command.assigns = true → (id, r.command) ∈ committed
  executed : position.accepts id = true → r.command.assigns = true → (id, r.command) ∈ committed

namespace Request.Sound

variable {position position' : Position} {held held' : List ℕ}
  {committed committed' : List (ℕ × NativeCommand)} {id : ℕ} {r : Request}

/-- A request stays sound where the owner neither has carried it out nor comes to, and takes up
    nothing. -/
theorem of_other (h : r.Sound position held committed id)
    (hheld : id ∈ held' → id ∈ held) (hbefore : position.accepts id = false)
    (hafter : position'.accepts id = false) : r.Sound position' held' committed id where
  unanswered := fun hid => h.unanswered (hheld hid)
  returns := fun hid => h.returns (hheld hid)
  waits := fun haccepts => absurd haccepts (Bool.eq_false_iff.mp hafter)
  accepted := by
    intro command hcommand
    obtain ⟨hsame, hassigns, haccepted⟩ := h.accepted command hcommand
    refine ⟨hsame, hassigns, ?_⟩
    cases haccepted with
    | answered caller ok => exact .answered caller ok
    | replied caller replied ok => exact .replied caller replied ok
    | executed caller executed => exact absurd executed (Bool.eq_false_iff.mp hbefore)
  answered := h.answered
  replied := h.replied
  executed := fun haccepts => absurd haccepts (Bool.eq_false_iff.mp hafter)

end Request.Sound

/-- The invariant: the intent is what was committed, the owner holds requests that exist, each
    once, and every request is sound. -/
structure System.Sound (s : System) : Prop where
  intent : s.owner.intent = replay s.committed
  nodup : s.held.Nodup
  exists_held : ∀ id ∈ s.held, id < s.requests.length
  exists_committed : ∀ c ∈ s.committed, c.1 < s.requests.length
  requests : ∀ id (r : Request), s.requests[id]? = some r →
    r.Sound s.position s.held s.committed id

/-- The owner holds the request it has carried out. -/
theorem System.held_of_accepts {s : System} {id : ℕ} (h : s.position.accepts id = true) :
    id ∈ s.held := by
  unfold Position.accepts at h
  split at h
  · rename_i hposition
    simp only [Bool.and_eq_true, decide_eq_true_eq] at h
    simp [System.held, hposition, Position.holding, h.1]
  · cases h
  · cases h
  · cases h
  · cases h
  · cases h

/-- The owner holds the request it is about to carry out. -/
theorem System.held_of_checked {s : System} {id : ℕ} (h : s.position = .checked id) :
    id ∈ s.held := by
  simp [System.held, h, Position.holding]

/-- Changing one request to a sound one keeps the invariant. -/
theorem System.Sound.update {s : System} (h : s.Sound) {id : ℕ} {r : Request}
    {f : Request → Request} (found : s.requests[id]? = some r)
    (hsound : r.Sound s.position s.held s.committed id →
      (f r).Sound s.position s.held s.committed id) : (s.update id f).Sound where
  intent := h.intent
  nodup := h.nodup
  exists_held := fun id' hid' => by
    simpa [System.update] using h.exists_held id' hid'
  exists_committed := fun c hc => by
    simpa [System.update] using h.exists_committed c hc
  requests := by
    intro id' r' hr'
    by_cases hsame : id = id'
    · subst hsame
      simp only [System.update, List.getElem?_modify_eq, found] at hr'
      obtain rfl := Option.some.inj hr'
      exact hsound (h.requests id r found)
    · simp only [System.update, List.getElem?_modify_ne _ _ hsame] at hr'
      exact h.requests id' r' hr'

/-- A caller that is done with a request that has not been carried out leaves it sound. -/
theorem Request.Sound.leave {position : Position} {held : List ℕ}
    {committed : List (ℕ × NativeCommand)} {id : ℕ} {r : Request} {caller : Caller}
    (h : r.Sound position held committed id)
    (hunaccepted : ∀ command, (id, command) ∉ committed)
    (hdone : position.accepts id = true → r.command.assigns = false)
    (hcaller : ∀ reply, caller ≠ .answered reply) (cancelled : Bool) :
    ({ r with caller, cancelled } : Request).Sound position held committed id where
  unanswered := h.unanswered
  returns := fun _ => hcaller
  waits := fun haccepts hassigns => absurd hassigns (Bool.eq_false_iff.mp (hdone haccepts))
  accepted := fun command hcommand => absurd hcommand (hunaccepted command)
  answered := fun reply heq => absurd heq (hcaller reply)
  replied := h.replied
  executed := h.executed

/-- Nothing is committed of a caller that was not answered and whose command has not been carried
    out. -/
theorem Request.Sound.unaccepted {position : Position} {held : List ℕ}
    {committed : List (ℕ × NativeCommand)} {id : ℕ} {r : Request}
    (h : r.Sound position held committed id) (hwaits : ∀ reply, r.caller ≠ .answered reply)
    (hreply : r.caller = .waiting → r.reply = none)
    (hdone : position.accepts id = true → r.command.assigns = false)
    (command : NativeCommand) : (id, command) ∉ committed := by
  intro hcommand
  obtain ⟨rfl, hassigns, haccepted⟩ := h.accepted command hcommand
  cases haccepted with
  | answered caller ok => exact hwaits _ caller
  | replied caller replied ok => cases (hreply caller).symm.trans replied
  | executed caller executed => cases hassigns.symm.trans (hdone executed)

/-- A caller that has given up stores its flag and returns. -/
theorem Request.Sound.gaveUp {position : Position} {held : List ℕ}
    {committed : List (ℕ × NativeCommand)} {id : ℕ} {r : Request} {caller : Caller}
    (h : r.Sound position held committed id) (hwaiting : r.caller ≠ .waiting)
    (hanswered : ∀ reply, r.caller ≠ .answered reply) (hcaller : ∀ reply, caller ≠ .answered reply)
    (cancelled : Bool) :
    ({ r with caller, cancelled } : Request).Sound position held committed id := by
  have hdone : position.accepts id = true → r.command.assigns = false := fun haccepts =>
    Bool.eq_false_iff.mpr fun hassigns => hwaiting (h.waits haccepts hassigns)
  exact h.leave (h.unaccepted hanswered (fun hc => absurd hc hwaiting) hdone) hdone hcaller
    cancelled

/-- The system with one more request. -/
def System.append (s : System) (r : Request) (queue : List Message) : System :=
  { s with
    requests := s.requests ++ [r]
    queue }

/-- A new request keeps the invariant, whether it is sent or fails at once. -/
theorem System.Sound.append {s : System} (h : s.Sound) (command : NativeCommand) {caller : Caller}
    {queue : List Message} (hcaller : ∀ reply, caller ≠ .answered reply)
    (hheld : (s.append { command, caller } queue).held = s.held ∨
      (s.append { command, caller } queue).held = s.held ++ [s.requests.length]) :
    (s.append { command, caller } queue).Sound := by
  -- The new request has the next free number, so nothing held or committed is about it.
  have hold : ∀ id ∈ s.held, id ≠ s.requests.length := fun id hid => (h.exists_held id hid).ne
  have hidle : s.position.accepts s.requests.length = false :=
    Bool.eq_false_iff.mpr fun haccepts => hold _ (held_of_accepts haccepts) rfl
  have hsplit : ∀ id ∈ (s.append { command, caller } queue).held,
      id ∈ s.held ∨ id = s.requests.length := by
    intro id hid
    rcases hheld with heq | heq
    · exact .inl (heq ▸ hid)
    · rwa [heq, List.mem_append, List.mem_singleton] at hid
  have hlength : (s.append { command, caller } queue).requests.length = s.requests.length + 1 :=
    List.length_append
  refine ⟨h.intent, ?_, fun id hid => ?_, fun c hc => ?_, fun id r hr => ?_⟩
  · rcases hheld with heq | heq
    · rw [heq]
      exact h.nodup
    · rw [heq, List.nodup_append]
      refine ⟨h.nodup, List.nodup_singleton _, fun id hid id' hid' => ?_⟩
      rw [List.mem_singleton.mp hid']
      exact hold id hid
  · rw [hlength]
    rcases hsplit id hid with hid | rfl
    · exact (h.exists_held id hid).trans (Nat.lt_succ_self _)
    · exact Nat.lt_succ_self _
  · rw [hlength]
    exact (h.exists_committed c hc).trans (Nat.lt_succ_self _)
  · by_cases hlt : id < s.requests.length
    · -- an older request: it is held after the call only if it was before
      simp only [System.append, List.getElem?_append_left hlt] at hr
      have hr' := h.requests id r hr
      have hback : id ∈ (s.append { command, caller } queue).held → id ∈ s.held := fun hid =>
        (hsplit id hid).resolve_right hlt.ne
      exact ⟨fun hid => hr'.unanswered (hback hid), fun hid => hr'.returns (hback hid), hr'.waits,
        hr'.accepted, hr'.answered, hr'.replied, hr'.executed⟩
    · -- the new request: nothing is committed for it yet
      have hlast := (List.getElem?_eq_some_iff.mp hr).1
      rw [hlength] at hlast
      obtain rfl : id = s.requests.length := by omega
      simp only [System.append, List.getElem?_concat_length] at hr
      obtain rfl := Option.some.inj hr
      exact {
        unanswered := fun _ => rfl
        returns := fun _ => hcaller
        waits := fun haccepts => absurd haccepts (Bool.eq_false_iff.mp hidle)
        accepted := fun _ hc => absurd (h.exists_committed _ hc) (lt_irrefl _)
        answered := fun reply heq => absurd heq (hcaller reply)
        replied := fun _ heq => absurd heq (Option.some_ne_none _).symm
        executed := fun haccepts => absurd haccepts (Bool.eq_false_iff.mp hidle) }

/-- A call keeps the invariant. -/
theorem System.call_sound {s : System} (h : s.Sound) (command : NativeCommand) :
    (s.call command).Sound := by
  unfold System.call
  split
  · show (s.append { command, caller := .stopped } s.queue).Sound
    exact h.append command (fun _ => Caller.noConfusion) (.inl rfl)
  · split
    · show (s.append { command, caller := .busy } s.queue).Sound
      exact h.append command (fun _ => Caller.noConfusion) (.inl rfl)
    · show (s.append { command } (s.queue ++ [.command s.requests.length])).Sound
      refine h.append command (fun _ => Caller.noConfusion) (.inr ?_)
      simp [System.append, System.held, Message.id?, List.filterMap_append]

/-- A move of the owner that takes up no request, between two that it has carried out, keeps the
    invariant. -/
theorem System.Sound.move {s s' : System} (h : s.Sound) (hintent : s'.owner.intent = s.owner.intent)
    (hrequests : s'.requests = s.requests) (hcommitted : s'.committed = s.committed)
    (hheld : s'.held.Sublist s.held) (hbefore : ∀ id, s.position.accepts id = false)
    (hafter : ∀ id, s'.position.accepts id = false) : s'.Sound where
  intent := by rw [hintent, hcommitted, h.intent]
  nodup := h.nodup.sublist hheld
  exists_held := fun id hid => by
    rw [hrequests]
    exact h.exists_held id (hheld.subset hid)
  exists_committed := fun c hc => by
    rw [hrequests]
    exact h.exists_committed c (hcommitted ▸ hc)
  requests := fun id r hr => by
    rw [hcommitted]
    exact (h.requests id r (hrequests ▸ hr)).of_other (fun hid => hheld.subset hid) (hbefore id)
      (hafter id)

/-- What the owner receives keeps the invariant. -/
theorem System.receive_sound {s : System} (h : s.Sound) (elapsed : ℕ)
    (hidle : s.position = .receiving) : (s.receive elapsed).Sound := by
  have hbefore : ∀ id, s.position.accepts id = false := fun _ => by rw [hidle]; rfl
  have hheld : s.held = s.queue.filterMap Message.id? := by
    simp [System.held, hidle, Position.holding]
  unfold System.receive
  split
  · -- a command leaves the queue, and the owner holds it
    rename_i id rest hqueue
    refine h.move rfl rfl rfl ?_ hbefore fun _ => rfl
    rw [hheld, hqueue]
    exact List.Sublist.refl _
  · -- a shutdown drops the rest of the queue
    exact h.move rfl rfl rfl (List.nil_sublist _) hbefore fun _ => rfl
  · rename_i hqueue
    split
    · exact h.move rfl rfl rfl (by rw [hheld]; exact List.Sublist.refl _) hbefore fun _ => rfl
    · exact h.move rfl rfl rfl (by rw [hheld]; exact List.Sublist.refl _) hbefore fun _ => rfl

/-- Sending the reply keeps the invariant: what was carried out with success is replied. -/
theorem System.send_sound {s : System} (h : s.Sound) {id : ℕ} {reply : Reply}
    (holds : s.position = .executed id reply) :
    (({ s with position := .ticking } : System).update id
      ({ · with reply := some reply })).Sound := by
  have hheld : s.held = id :: s.queue.filterMap Message.id? := by
    simp [System.held, holds, Position.holding]
  have hmem : id ∈ s.held := hheld ▸ List.mem_cons_self
  -- The request that is answered was held, and is held no more.
  have hnodup := h.nodup
  rw [hheld, List.nodup_cons] at hnodup
  refine ⟨h.intent, hnodup.2, fun id' hid' => ?_, fun c hc => ?_, fun id' r' hr' => ?_⟩
  · simp only [System.update, List.length_modify]
    exact h.exists_held id' (hheld ▸ List.mem_cons_of_mem _ hid')
  · simp only [System.update, List.length_modify]
    exact h.exists_committed c hc
  · by_cases hsame : id = id'
    · subst hsame
      simp only [System.update, List.getElem?_modify_eq] at hr'
      obtain ⟨r, found, rfl⟩ := Option.map_eq_some_iff.mp hr'
      have hsound := h.requests id r found
      have haccepts : reply.isOk = true → s.position.accepts id = true := fun hok => by
        simp [holds, Position.accepts, hok]
      refine ⟨fun hid => absurd hid hnodup.1, fun hid => absurd hid hnodup.1,
        fun hc => absurd hc Bool.false_ne_true, fun command hc => ?_, hsound.answered, ?_,
        fun hc => absurd hc Bool.false_ne_true⟩
      · obtain ⟨heq, hassigns, haccepted⟩ := hsound.accepted command hc
        refine ⟨heq, hassigns, ?_⟩
        -- What was accepted while it was executed is accepted in its reply.
        cases haccepted with
        | answered caller ok => exact .answered caller ok
        | replied caller replied ok => cases (hsound.unanswered hmem).symm.trans replied
        | executed caller executed =>
          simp only [holds, Position.accepts, Bool.and_eq_true] at executed
          exact .replied caller rfl executed.2
      · rintro _ ⟨⟩ hok
        exact hsound.executed (haccepts hok)
    · -- another request is untouched
      simp only [System.update, List.getElem?_modify_ne _ _ hsame] at hr'
      refine (h.requests id' r' hr').of_other (fun hid => ?_) ?_ rfl
      · exact hheld ▸ List.mem_cons_of_mem _ hid
      · simp [holds, Position.accepts, hsame]

theorem fail_isOk (command : NativeCommand) (error : EngineError) :
    (command.fail error).isOk = false := by
  cases command <;> rfl

/-- A request that returned `Ok` was answered. -/
theorem answered_of_isOk {r : Request} {reply : Reply} (h : r.returned = some reply)
    (hok : reply.isOk = true) : r.caller = .answered reply := by
  unfold Request.returned at h
  split at h
  · cases h
  · cases h
  · cases h
  · rename_i hcaller
    exact hcaller.trans (congrArg Caller.answered (Option.some.inj h))
  all_goals
    obtain rfl := Option.some.inj h
    rw [fail_isOk] at hok
    cases hok

/-- No request has been made when the owner thread starts. -/
theorem System.Sound.start (clock : ℕ) : (System.start clock).Sound where
  intent := rfl
  nodup := List.nodup_nil
  exists_held := fun _ hid => absurd hid List.not_mem_nil
  exists_committed := fun _ hc => absurd hc List.not_mem_nil
  requests := fun _ _ hr => absurd hr (Option.some_ne_none _).symm

/-! ## Undisturbed steps

The condition is on the state before a step, and is decided from the request that the step is
about.
-/

/-- Whether the caller waits for its reply. -/
def Caller.waits : Caller → Bool
  | waiting => true
  | timingOut | stopping | answered _ | timedOut | stopped | busy => false

/-- Only an `Apply` is retained. -/
theorem assigns_of_retains {o : Owner} {command : NativeCommand}
    (h : o.retains command = true) : command.assigns = true := by
  cases command with
  | apply _ => rfl
  | inputs | observe | setMeterMonitoring _ => cases h

section
variable [UnicodeCase]

/-- A step during which no guarantee of the cancel flag can be missed: an `Apply` or
    `SetMeterMonitoring` that succeeds is carried out for a caller that still waits, no such caller
    gives up between its success and its reply, and no failing configuration is retained. -/
def System.undisturbed (s : System) : Action → Bool
  | .timeOut id => (s.requests[id]?).all fun r => !(r.command.assigns && s.position.accepts id)
  | .execute env =>
    match s.position with
    | .checked id => (s.requests[id]?).all fun r =>
        let ok := (handle s.owner r.command env).1.isOk
        (!(r.command.assigns && ok) || r.caller.waits) && (!s.owner.retains r.command || ok)
    | _ => true
  | _ => true

/-- A run of undisturbed steps. -/
def Undisturbed (s : System) (a : System.Action) : Prop := s.undisturbed a = true

instance (s : System) (a : System.Action) : Decidable (Undisturbed s a) :=
  inferInstanceAs (Decidable (s.undisturbed a = true))

/-- Carrying out a command keeps the invariant, if the caller of one that succeeds and assigns part
    of the intent waits for the answer. -/
theorem System.execute_sound {s : System} (h : s.Sound) {id : ℕ} {r : Request}
    (holds : s.position = .checked id) (found : s.requests[id]? = some r) {env : CommandEnv}
    (hwaits : r.command.assigns = true → (handle s.owner r.command env).1.isOk = true →
      r.caller = .waiting)
    (hretains : s.owner.retains r.command = true → (handle s.owner r.command env).1.isOk = true) :
    (s.execute id r.command env).Sound := by
  have hheld : (s.execute id r.command env).held = s.held := by
    simp [System.execute, System.held, holds, Position.holding]
  have hbefore : ∀ id, s.position.accepts id = false := fun _ => by rw [holds]; rfl
  have hlt : id < s.requests.length := (List.getElem?_eq_some_iff.mp found).1
  have hsound := h.requests id r found
  -- At most the command itself is new among the committed ones.
  have hsub : ∀ c ∈ s.committed, c ∈ (s.execute id r.command env).committed := by
    intro c hc
    simp only [System.execute]
    split
    · exact List.mem_append_left _ hc
    · exact hc
  have hnew : ∀ c ∈ (s.execute id r.command env).committed, c ∈ s.committed ∨
      c = (id, r.command) ∧ s.owner.commits r.command env = true := by
    intro c hc
    simp only [System.execute] at hc
    split at hc
    · rename_i hcommits
      rcases List.mem_append.mp hc with hc | hc
      · exact .inl hc
      · exact .inr ⟨List.mem_singleton.mp hc, hcommits⟩
    · exact .inl hc
  refine ⟨?_, hheld ▸ h.nodup, hheld ▸ h.exists_held, fun c hc => ?_, fun id' r' hr' => ?_⟩
  · simp only [System.execute, handle_intent, h.intent]
    split
    · exact (replay_append s.committed (id, r.command)).symm
    · rfl
  · rcases hnew c hc with hc | ⟨rfl, -⟩
    · exact h.exists_committed c hc
    · exact hlt
  · rw [hheld]
    by_cases hsame : id' = id
    · subst hsame
      obtain rfl := Option.some.inj (found.symm.trans hr')
      have hdone : (s.execute id' r.command env).position.accepts id' = true →
          (handle s.owner r.command env).1.isOk = true := fun haccepts => by
        simp only [System.execute, Position.accepts, Bool.and_eq_true] at haccepts
        exact haccepts.2
      refine ⟨hsound.unanswered, hsound.returns,
        fun haccepts hassigns => hwaits hassigns (hdone haccepts), fun command hc => ?_,
        fun reply heq hok hassigns => hsub _ (hsound.answered reply heq hok hassigns),
        fun reply heq hok hassigns => hsub _ (hsound.replied reply heq hok hassigns), ?_⟩
      · rcases hnew _ hc with hc | ⟨heq, hcommits⟩
        · obtain ⟨heq, hassigns, haccepted⟩ := hsound.accepted command hc
          refine ⟨heq, hassigns, ?_⟩
          cases haccepted with
          | answered caller ok => exact .answered caller ok
          | replied caller replied ok => exact .replied caller replied ok
          | executed caller executed => cases (hbefore id').symm.trans executed
        · -- a command is committed where it succeeds, as no failing one is retained
          obtain rfl := (Prod.mk.inj heq).2
          obtain ⟨hassigns, hcommits⟩ := Bool.and_eq_true_iff.mp hcommits
          have hok : (handle s.owner r.command env).1.isOk = true := by
            rcases (Bool.or_eq_true _ _).mp hcommits with hok | hretained
            · exact hok
            · exact hretains hretained
          refine ⟨rfl, hassigns, .executed (hwaits hassigns hok) ?_⟩
          simp [System.execute, Position.accepts, hok]
      · intro haccepts hassigns
        simp [System.execute, Owner.commits, hassigns, hdone haccepts]
    · -- no other request is committed or accepted by this step
      have hold := h.requests id' r' hr'
      have hback : ∀ command, (id', command) ∈ (s.execute id r.command env).committed →
          (id', command) ∈ s.committed := fun command hc =>
        (hnew _ hc).resolve_right fun hexecuted => hsame (Prod.mk.inj hexecuted.1).1
      have hafter : (s.execute id r.command env).position.accepts id' = false := by
        simp [System.execute, Position.accepts, Ne.symm hsame]
      have hother := hold.of_other (fun hid => hid) (hbefore id') hafter
      exact ⟨hother.unanswered, hother.returns, hother.waits,
        fun command hc => hother.accepted command (hback command hc),
        fun reply heq hok hassigns => hsub _ (hother.answered reply heq hok hassigns),
        fun reply heq hok hassigns => hsub _ (hother.replied reply heq hok hassigns),
        fun haccepts => absurd haccepts (Bool.eq_false_iff.mp hafter)⟩

/-- What an undisturbed `execute` is carried out for. -/
theorem System.undisturbed_execute {s : System} {id : ℕ} {r : Request} {env : CommandEnv}
    (hC : Undisturbed s (.execute env)) (holds : s.position = .checked id)
    (found : s.requests[id]? = some r) :
    (r.command.assigns = true → (handle s.owner r.command env).1.isOk = true →
        r.caller = .waiting) ∧
      (s.owner.retains r.command = true → (handle s.owner r.command env).1.isOk = true) := by
  simp only [Undisturbed, undisturbed, holds, found, Option.all_some, Bool.and_eq_true,
    Bool.or_eq_true, Bool.not_eq_true', Bool.and_eq_false_iff] at hC
  refine ⟨fun hassigns hok => ?_, fun hretains => ?_⟩
  · have hwaits := hC.1.resolve_left fun hnot => by
      rcases hnot with hnot | hnot
      · cases hassigns.symm.trans hnot
      · cases hok.symm.trans hnot
    unfold Caller.waits at hwaits
    split at hwaits
    · assumption
    all_goals cases hwaits
  · exact hC.2.resolve_left fun hnot => by cases hretains.symm.trans hnot

/-- **Every undisturbed step keeps the invariant.** -/
theorem System.step_sound {s s' : System} {a : Action} (h : s.Sound) (hC : Undisturbed s a)
    (hstep : Stepped s a s') : s'.Sound := by
  cases hstep with
  | call command => exact call_sound h command
  | @takeReply id r reply found waits replied =>
    -- a request that was answered is held no more
    refine h.update found fun hsound => ?_
    have hnot : id ∉ s.held := fun hid => by
      cases (hsound.unanswered hid).symm.trans replied
    have hidle : ¬s.position.accepts id = true := fun hc => hnot (held_of_accepts hc)
    refine ⟨hsound.unanswered, fun hid => absurd hid hnot, fun hc => absurd hc hidle,
      fun command hc => ?_, ?_,
      hsound.replied, hsound.executed⟩
    · obtain ⟨heq, hassigns, haccepted⟩ := hsound.accepted command hc
      refine ⟨heq, hassigns, ?_⟩
      cases haccepted with
      | answered caller ok => cases waits.symm.trans caller
      | replied caller same ok =>
        obtain rfl := Option.some.inj (replied.symm.trans same)
        exact .answered rfl ok
      | executed caller executed => exact absurd executed hidle
    · rintro _ ⟨⟩ hok
      exact hsound.replied reply replied hok
  | @timeOut id r found waits unanswered =>
    -- undisturbed: the owner has not carried out what would be committed
    refine h.update found fun hsound => ?_
    have hdone : s.position.accepts id = true → r.command.assigns = false := fun haccepts => by
      simpa [Undisturbed, undisturbed, found, haccepts] using hC
    exact hsound.leave (hsound.unaccepted (fun _ hc => by cases waits.symm.trans hc)
      (fun _ => unanswered) hdone) hdone (fun _ => Caller.noConfusion) _
  | @disconnect id r found waits unanswered gone =>
    refine h.update found fun hsound => ?_
    have hdone : s.position.accepts id = true → r.command.assigns = false := fun haccepts =>
      absurd (held_of_accepts haccepts) gone
    exact hsound.leave (hsound.unaccepted (fun _ hc => by cases waits.symm.trans hc)
      (fun _ => unanswered) hdone) hdone (fun _ => Caller.noConfusion) _
  | timedOut found gaveUp =>
    refine h.update found fun hsound => ?_
    exact hsound.gaveUp (by rw [gaveUp]; exact Caller.noConfusion)
      (fun _ => by rw [gaveUp]; exact Caller.noConfusion) (fun _ => Caller.noConfusion) _
  | stopped found gaveUp =>
    refine h.update found fun hsound => ?_
    exact hsound.gaveUp (by rw [gaveUp]; exact Caller.noConfusion)
      (fun _ => by rw [gaveUp]; exact Caller.noConfusion) (fun _ => Caller.noConfusion) _
  | drop =>
    -- a shutdown message carries no request
    have hheld : s.drop.held = s.held := by
      simp only [System.drop, System.held]
      split
      · rfl
      · simp [Message.id?, List.filterMap_append]
    refine ⟨h.intent, hheld ▸ h.nodup, hheld ▸ h.exists_held, h.exists_committed, ?_⟩
    rw [hheld]
    exact h.requests
  | receive elapsed idle => exact receive_sound h elapsed idle
  | skip holds found cancelled =>
    refine h.move rfl rfl rfl ?_ (fun _ => by rw [holds]; rfl) fun _ => rfl
    simp only [System.held, holds, Position.holding]
    exact List.sublist_append_right _ _
  | accept holds found clear =>
    refine h.move rfl rfl rfl ?_ (fun _ => by rw [holds]; rfl) fun _ => rfl
    simp [System.held, holds, Position.holding]
  | execute holds found =>
    obtain ⟨hwaits, hretains⟩ := undisturbed_execute hC holds found
    exact execute_sound h holds found hwaits hretains
  | send holds => exact send_sound h holds
  | tick env ticks =>
    refine h.move (serviceNative_intent _ _) rfl rfl ?_ (fun _ => by rw [ticks]; rfl) fun _ => rfl
    simp [System.held, ticks, Position.holding]

end

/-! ## Runs

At the end of a run the invariant is read for one request: what it returned says where its caller
is, and that says whether it is among what was committed.
-/

/-- The committed intent is that of the requests answered `Ok`. -/
structure System.IntentAnswered (s : System) : Prop where
  /-- No request that timed out is part of the intent. -/
  timedOut : ∀ id r, s.requests[id]? = some r →
    r.returned = some (r.command.fail timeoutError) → ∀ command, (id, command) ∉ s.committed
  /-- What is part of the intent was answered `Ok`, or its caller waits for that answer. -/
  accepted : ∀ id command, (id, command) ∈ s.committed → ∃ r, s.requests[id]? = some r ∧
    r.command = command ∧ r.Accepted s.position id
  /-- What was answered `Ok` is part of the intent, if it assigns any. -/
  answered : ∀ id r reply, s.requests[id]? = some r → r.returned = some reply →
    reply.isOk = true → r.command.assigns = true → (id, r.command) ∈ s.committed
  /-- The intent is that of these commands, in the order they were committed. -/
  intent : s.owner.intent = replay s.committed

theorem System.Sound.intentAnswered {s : System} (h : s.Sound) : s.IntentAnswered := by
  refine ⟨fun id r found hreturned command hcommand => ?_, fun id command hcommand => ?_,
    fun id r reply found hreturned hok => ?_, h.intent⟩
  · -- an accepted request waits, or returned what was answered; a timeout is not `Ok`
    obtain ⟨-, -, haccepted⟩ := (h.requests id r found).accepted command hcommand
    cases haccepted with
    | answered caller ok =>
      simp only [Request.returned, caller, Option.some.injEq] at hreturned
      rw [hreturned, fail_isOk] at ok
      cases ok
    | replied caller replied ok => simp [Request.returned, caller] at hreturned
    | executed caller executed => simp [Request.returned, caller] at hreturned
  · have hlt := h.exists_committed _ hcommand
    have found := List.getElem?_eq_getElem hlt
    obtain ⟨heq, -, haccepted⟩ := (h.requests id _ found).accepted command hcommand
    exact ⟨_, found, heq.symm, haccepted⟩
  · exact (h.requests id r found).answered reply (answered_of_isOk hreturned hok) hok

/-- The property fails where a command is committed and its request is not accepted. -/
theorem System.IntentAnswered.denied {s : System} {id : ℕ} {r : Request} {command : NativeCommand}
    (found : s.requests[id]? = some r) (hcommand : (id, command) ∈ s.committed)
    (h : ¬r.Accepted s.position id) : ¬s.IntentAnswered := by
  intro hanswered
  obtain ⟨r', found', -, haccepted⟩ := hanswered.accepted id command hcommand
  obtain rfl := Option.some.inj (found.symm.trans found')
  exact h haccepted

section
variable [UnicodeCase]

/-- Every state of an undisturbed run is sound. -/
theorem System.sound_of_run {clock : ℕ} {as : List System.Action} {s : System}
    (run : SystemRun Undisturbed clock as s) : s.Sound :=
  Lib.Run.invariant System.Sound (.start clock)
    (fun _ _ _ h hC hstep => System.step_sound h hC (System.step_stepped hstep)) run

/-- **Only answered requests are part of the intent.** In every undisturbed run, a request that
    timed out is not part of the owner's committed intent, which is that of the requests
    answered `Ok`. -/
theorem intent_of_answered {clock : ℕ} {as : List System.Action} {s : System}
    (run : SystemRun Undisturbed clock as s) : s.IntentAnswered :=
  (System.sound_of_run run).intentAnswered

/-! ## No weaker condition will do

A step that is disturbed commits a command its caller will not be told of, or takes the caller away
from one that is committed: what is part of the intent is no longer accepted.
-/

/-- A disturbed step breaks the property. -/
theorem System.disturbed_denies {s s' : System} {a : Action} (h : s.Sound)
    (hC : ¬Undisturbed s a) (hstep : Stepped s a s') : ¬s'.IntentAnswered := by
  cases hstep with
  | @timeOut id r found waits unanswered =>
    -- the command was carried out with success, so it is committed already
    have hdone : r.command.assigns = true ∧ s.position.accepts id = true := by
      simpa [Undisturbed, undisturbed, found] using hC
    have hleft : (s.update id ({ · with caller := .timingOut })).requests[id]? =
        some { r with caller := .timingOut } := by
      simp [System.update, found]
    refine IntentAnswered.denied hleft ((h.requests id r found).executed hdone.2 hdone.1) ?_
    rintro (⟨caller, -⟩ | ⟨caller, -, -⟩ | ⟨caller, -⟩) <;> cases caller
  | @execute id r env holds found =>
    have hheld := held_of_checked holds
    have hsound := h.requests id r found
    have hfails : (r.command.assigns = true ∧ (handle s.owner r.command env).1.isOk = true ∧
        r.caller.waits = false) ∨ (s.owner.retains r.command = true ∧
          (handle s.owner r.command env).1.isOk = false) := by
      by_contra hnot
      refine hC ?_
      simp only [Undisturbed, undisturbed, holds, found, Option.all_some]
      grind
    have hcommits : s.owner.commits r.command env = true := by
      rcases hfails with ⟨hassigns, hok, -⟩ | ⟨hretains, -⟩
      · simp [Owner.commits, hassigns, hok]
      · simp [Owner.commits, hretains, assigns_of_retains hretains]
    have hcommitted : (id, r.command) ∈ (s.execute id r.command env).committed := by
      simp [System.execute, hcommits]
    have hkept : (s.execute id r.command env).requests[id]? = some r := found
    refine IntentAnswered.denied hkept hcommitted ?_
    -- The owner held the request, so it has neither been answered nor replied to.
    rintro (⟨caller, -⟩ | ⟨-, replied, -⟩ | ⟨caller, executed⟩)
    · exact hsound.returns hheld _ caller
    · cases (hsound.unanswered hheld).symm.trans replied
    · simp only [System.execute, Position.accepts, Bool.and_eq_true] at executed
      rcases hfails with ⟨-, -, hwaits⟩ | ⟨-, hfailed⟩
      · rw [caller] at hwaits
        cases hwaits
      · cases hfailed.symm.trans executed.2
  | call _ | takeReply _ _ _ | disconnect _ _ _ _ | timedOut _ _ | stopped _ _ | drop
  | receive _ _ | skip _ _ _ | accept _ _ _ | send _ | tick _ _ => exact absurd rfl hC

/-- **The condition is exact.** A step of a run that was undisturbed so far keeps the property if
    and only if it is undisturbed. -/
theorem System.step_intentAnswered_iff {clock : ℕ} {as : List Action} {s s' : System} {a : Action}
    (run : SystemRun Undisturbed clock as s) (hstep : Stepped s a s') :
    s'.IntentAnswered ↔ Undisturbed s a := by
  have h := sound_of_run run
  refine ⟨fun hanswered => ?_, fun hC => (step_sound h hC hstep).intentAnswered⟩
  by_contra hC
  exact disturbed_denies h hC hstep hanswered

end

/-- A caller of `Observe` gives up while its command is carried out; then a request is carried out
    and answered; then a caller gives up while its configuration fails. -/
theorem intent_of_answered_apply :
    letI := asciiCase
    ∃ as s, SystemRun Undisturbed 0 as s ∧ s.owner.applied = some {} ∧ s.IntentAnswered := by
  let _ := asciiCase
  let as : List System.Action :=
    [.call .observe, .receive 0, .check, .timeOut 0, .execute {}, .cancel 0, .send, .tick {},
      .call (.apply {}), .receive 0, .check, .execute {}, .send, .takeReply 1, .tick {},
      .call (.apply { active := true }), .receive 0, .check, .timeOut 2, .cancel 2,
      .execute { first := { connect := .error "no server" } }, .send, .tick {}]
  obtain ⟨s, run, hend⟩ := SystemRun.of_compute (C := Undisturbed) 0 as
    (fun s => s.owner.applied = some {}) (by decide)
  exact ⟨as, s, run, by simpa using hend, intent_of_answered run⟩

/-- **A request that timed out is committed.** Its caller gives up after the owner found its
    flag clear; the flag is stored, the caller returns its error, and the owner commits the
    configuration. -/
theorem timed_out_apply_commits :
    letI := asciiCase
    ¬∀ (clock : ℕ) (as : List System.Action) (s : System), SystemRun Lib.Free clock as s →
      s.IntentAnswered := by
  let _ := asciiCase
  -- The caller's time is over after the owner has read the flag, and the command is executed.
  let as : List System.Action :=
    [.call (.apply {}), .receive 0, .check, .timeOut 0, .cancel 0, .execute {}]
  obtain ⟨s, run, hend⟩ := SystemRun.of_compute (C := Lib.Free) 0 as
    (fun s => s.committed = [(0, .apply {})] &&
      (s.requests[0]?).any fun r => match r.caller with
        | .timedOut => true
        | _ => false) (by decide)
  simp only [Bool.and_eq_true, decide_eq_true_eq, Option.any_eq_true] at hend
  obtain ⟨hcommitted, r, found, hcaller⟩ := hend
  intro h
  have htimedOut : r.returned = some (r.command.fail timeoutError) := by
    unfold Request.returned
    split at hcaller
    · rename_i heq
      rw [heq]
    · cases hcaller
  exact (h 0 as s run).timedOut 0 r found htimedOut (.apply {}) (by rw [hcommitted]; exact .head _)

end Noire
