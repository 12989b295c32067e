import UbqGateway.Chat.ClientCancel

/-!
# The outcome that a chat stream is billed with

However pulls, events of the upstream and a cancellation interleave, one outcome is recorded, and it
is `completed` only for a response that was translated.
-/

namespace UbqGateway.Chat

open Responses ChatStream ChatSession

/-! ### Reservations -/

/-- A lifecycle records its first outcome and no other. -/
inductive RecordsOnce : MeteredTransportLifecycle → Prop
  | nothing : RecordsOnce ⟨false, []⟩
  | one (outcome : MeteredOutcome) : RecordsOnce ⟨true, [outcome]⟩

namespace RecordsOnce

variable {lifecycle : MeteredTransportLifecycle}

section

variable (h : RecordsOnce lifecycle)

include h

theorem outcomes_of_recorded (hrec : lifecycle.recorded = true) :
    ∃ outcome, lifecycle.outcomes = [outcome] := by
  cases h with
  | nothing => cases hrec
  | one outcome => exact ⟨outcome, rfl⟩

theorem outcomes_of_unrecorded (hunr : lifecycle.recorded = false) :
    lifecycle.outcomes = [] := by
  cases h with
  | nothing => rfl
  | one => cases hunr

theorem schedule (outcome : MeteredOutcome) :
    RecordsOnce (lifecycle.schedule outcome) ∧ (lifecycle.schedule outcome).recorded = true ∧
      (lifecycle.recorded = true → lifecycle.schedule outcome = lifecycle) ∧
      (lifecycle.recorded = false → (lifecycle.schedule outcome).outcomes = [outcome]) := by
  cases h with
  | nothing => exact ⟨.one outcome, rfl, nofun, fun _ => rfl⟩
  | one recorded => exact ⟨.one recorded, rfl, fun _ => rfl, nofun⟩

theorem length_le : lifecycle.outcomes.length ≤ 1 := by
  cases h with
  | nothing => exact Nat.zero_le _
  | one => exact le_rfl

end

theorem mem_schedule (h : RecordsOnce lifecycle)
    (hmem : recorded ∈ (lifecycle.schedule outcome).outcomes) :
    recorded ∈ lifecycle.outcomes ∨ recorded = outcome := by
  cases h with
  | nothing => exact .inr (List.mem_singleton.mp hmem)
  | one => exact .inl hmem

theorem schedule_stays (h : RecordsOnce lifecycle) (hold : lifecycle.outcomes = [recorded])
    (outcome : MeteredOutcome) : (lifecycle.schedule outcome).outcomes = [recorded] := by
  cases h with
  | nothing => cases hold
  | one => exact hold

end RecordsOnce

/-- A marked terminal event schedules an outcome, which is `completed` for `response.completed`
only. -/
theorem terminal_eq (hmark : Marked event) (hterm : event.terminal = true)
    (lifecycle : MeteredTransportLifecycle) (usage : Option UsageTokens) :
    ∃ state, lifecycle.terminal event.type usage = lifecycle.schedule (.terminal state usage) ∧
      (event.type ≠ "response.completed" → state ≠ .completed) := by
  rw [hmark, decide_eq_true_iff] at hterm
  unfold terminalEventTypes at hterm
  unfold MeteredTransportLifecycle.terminal
  simp only [List.mem_cons, List.not_mem_nil, or_false] at hterm
  rcases hterm with htype | htype | htype | htype
  · rw [htype]
    exact ⟨.failed, rfl, fun _ => nofun⟩
  · exact ⟨.completed, by rw [htype]; rfl, fun hoth => absurd htype hoth⟩
  · rw [htype]
    exact ⟨.failed, rfl, fun _ => nofun⟩
  · rw [htype]
    exact ⟨.incomplete, rfl, fun _ => nofun⟩

/-! ### Handled events -/

/-- The controller is closed. -/
def Cancelled (s : ChatSession) : Prop := s.cancelling ≠ .notInvoked

/-- A pull waits to settle its failure. -/
def Failing (s : ChatSession) : Prop :=
  ∃ failure, s.pulling = .failed failure ∨ s.pulling = .returning failure

/-- What handling an event does to the settlement of a session. -/
inductive HandlesAs (s : ChatSession) (event : ResponsesStreamEvent)
    (translation : Option ChatTranslation) (s' : ChatSession) : Prop
  | quiet (hnt : event.terminal = false) (hal : SettledAlike s.stream s'.stream)
    (hpend : s'.stream.pending = none ∨ s'.stream.pending = some event)
    (hrest : Cancelled s ∨ s'.pulling = .handled ∨ s'.pulling = .idle)
  | terminates (hterm : event.terminal = true) (hoth : event.type ≠ "response.completed")
    (hcl : s'.stream.closed = true) (hset : s'.stream.terminalSettled = true)
    (hlife : s'.stream.lifecycle =
      s.stream.lifecycle.terminal event.type (usageOf event.value))
    (hrest : Cancelled s ∨ s'.pulling = .idle)
  | empty (hcomp : Completes event) (huns : s.stream.terminalSettled = false)
    (hcl : s'.stream.closed = true) (hset : s'.stream.terminalSettled = true)
    (hlife : s'.stream.lifecycle =
      s.stream.lifecycle.terminal "response.failed" (usageOf event.value))
    (hrest : Cancelled s ∨ s'.pulling = .idle)
  | again (hcomp : Completes event) (hbef : s.stream.terminalSettled = true)
    (hset : s'.stream.terminalSettled = true) (hlife : s'.stream.lifecycle = s.stream.lifecycle)
    (hrest : Cancelled s ∨ s'.pulling = .idle)
    (hcl : s'.stream.closed = true ∨
      s'.stream.closed = s.stream.closed ∧ s'.stream.pending = some event)
  | records (hcomp : Completes event) (huns : s.stream.terminalSettled = false)
    (hcl : s'.stream.closed = s.stream.closed) (hset : s'.stream.terminalSettled = true)
    (hlife : s'.stream.lifecycle =
      s.stream.lifecycle.terminal "response.completed" (usageOf event.value))
    (htranslated : ∃ t, translation = some t ∧ translatedChatOutputObserved t = true)
    (hrest : Cancelled s ∨ s'.pulling = .recording event (usageOf event.value))
  | fails (hcl : s'.stream.closed = s.stream.closed)
    (hset : s'.stream.terminalSettled = s.stream.terminalSettled)
    (hlife : s'.stream.lifecycle = s.stream.lifecycle)
    (hobs : s'.stream.observedCompletedUsage = some (usageOf event.value) ∧ Completes event ∨
      s'.stream.observedCompletedUsage = s.stream.observedCompletedUsage ∧ ¬Completes event)
    (hpossible : event.terminal = false ∨ event.type = "response.completed")
    (hrest : Failing s')

section

variable (s : ChatSession) (t : ChatStream)

include s t

theorem emitted_alike : SettledAlike t (s.emitted t) ∧ (s.emitted t).pending = t.pending := by
  unfold emitted
  split_ifs
  · exact ⟨.refl t, rfl⟩
  · exact ⟨⟨rfl, rfl, rfl, rfl⟩, rfl⟩

theorem emitting_eq (pulling : Pulling) : Cancelled s ∨ s.emitting t pulling = pulling := by
  unfold emitting
  by_cases hopen : s.cancelling = .notInvoked
  · exact .inr (if_pos (.inl hopen))
  · exact .inl hopen

theorem emitting_failed (failure : StreamFailure) :
    ∃ failure', s.emitting t (.failed failure) = .failed failure' := by
  unfold emitting
  split_ifs
  · exact ⟨_, rfl⟩
  · exact ⟨_, rfl⟩

theorem emitting_not_reading {pulling : Pulling} (hoth : pulling ≠ .reading) :
    s.emitting t pulling ≠ .reading := by
  unfold emitting
  split_ifs
  · exact hoth
  · nofun

end

/-- What a turn of the loop makes of an event, with the outcome that it schedules. -/
theorem handles_as (left : Leftover)
    (hsts : TurnSettles { s.stream with pending := none } event turn) :
    (s.handles event left turn).cancelling = s.cancelling ∧
      (s.handles event left turn).pulling ≠ .reading ∧ ∃ translation,
      (s.handles event left turn).handled =
        s.handled ++ [⟨event, decide (s.cancelling = .notInvoked), translation⟩] ∧
      HandlesAs s event translation (s.handles event left turn) := by
  cases hsts with
  | @next t hqt hal hpend =>
    obtain ⟨heq, hpend'⟩ := emitted_alike s t
    have hal : SettledAlike s.stream t := ⟨hal.1, hal.2, hal.3, hal.4⟩
    exact ⟨rfl, emitting_not_reading _ _ nofun, _, rfl, .quiet hqt (hal.trans heq)
      (.inl (hpend'.trans hpend)) ((emitting_eq s t _).imp id .inl)⟩
  | @emits t hqt hal hpend =>
    obtain ⟨heq, hpend'⟩ := emitted_alike s t
    have hal : SettledAlike s.stream t := ⟨hal.1, hal.2, hal.3, hal.4⟩
    exact ⟨rfl, emitting_not_reading _ _ nofun, _, rfl, .quiet hqt (hal.trans heq)
      (hpend.imp hpend'.trans hpend'.trans) ((emitting_eq s t _).imp id .inr)⟩
  | @terminates t hterm hoth hcl hset hlife =>
    obtain ⟨heq, _⟩ := emitted_alike s t
    exact ⟨rfl, emitting_not_reading _ _ nofun, _, rfl, .terminates hterm hoth
      (heq.closed.trans hcl) (heq.terminalSettled.trans hset)
      (heq.lifecycle.trans hlife) (emitting_eq s t _)⟩
  | @empty t hcomp huns hcl hset hlife =>
    obtain ⟨heq, _⟩ := emitted_alike s t
    exact ⟨rfl, emitting_not_reading _ _ nofun, _, rfl, .empty hcomp huns
      (heq.closed.trans hcl) (heq.terminalSettled.trans hset)
      (heq.lifecycle.trans hlife) (emitting_eq s t _)⟩
  | @again t hcomp hbef hset hlife hrest =>
    obtain ⟨heq, hpend⟩ := emitted_alike s t
    exact ⟨rfl, emitting_not_reading _ _ nofun, _, rfl, .again hcomp hbef
      (heq.terminalSettled.trans hset) (heq.lifecycle.trans hlife) (emitting_eq s t _)
      (hrest.imp heq.closed.trans fun h => ⟨heq.closed.trans h.1, hpend.trans h.2⟩)⟩
  | @records t hcomp huns hcl hset hlife htranslated =>
    obtain ⟨heq, _⟩ := emitted_alike s t
    exact ⟨rfl, emitting_not_reading _ _ nofun, _, rfl, .records hcomp huns
      (heq.closed.trans hcl) (heq.terminalSettled.trans hset)
      (heq.lifecycle.trans hlife) ⟨_, rfl, htranslated⟩ (emitting_eq s t _)⟩
  | @fails t failure hcl hset hlife hobs hpossible =>
    obtain ⟨heq, _⟩ := emitted_alike s
      { t with translation := left.translation, queuedDeltas := left.queuedDeltas }
    obtain ⟨failure', hfail⟩ := emitting_failed s
      { t with translation := left.translation, queuedDeltas := left.queuedDeltas } failure
    exact ⟨rfl, emitting_not_reading _ _ nofun, none, rfl, .fails (heq.closed.trans hcl)
      (heq.terminalSettled.trans hset) (heq.lifecycle.trans hlife)
      (hobs.imp (fun h => ⟨heq.observedCompletedUsage.trans h.1, h.2⟩)
        fun h => ⟨heq.observedCompletedUsage.trans h.1, h.2⟩)
      hpossible ⟨failure', .inl hfail⟩⟩

/-! ### The invariant -/

def GivesUsageOf (event : ResponsesStreamEvent) (outcome : MeteredOutcome) : Prop :=
  ∃ state, outcome = .terminal state (usageOf event.value)

/-- What holds of a session whose stream is open. -/
structure OpenSession (first : ResponsesStreamEvent) (s : ChatSession) : Prop where
  notInvoked : s.cancelling = .notInvoked
  unrecorded : s.stream.terminalSettled = false → s.stream.lifecycle.recorded = false
  marked : s.pulling = .idle ∨ s.pulling = .handled →
    ∀ event, s.stream.pending = some event → Marked event
  /-- A settled stream waits to deliver what its completed event has queued. -/
  waiting : s.stream.terminalSettled = true → ∃ event, Completes event ∧
    (∃ outcome, s.stream.lifecycle.outcomes = [outcome] ∧ GivesUsageOf event outcome) ∧
    (s.pulling = .idle ∧ s.stream.pending = some event ∨
      (∃ usage, s.pulling = .recording event usage) ∨ Failing s)
  recording : ∀ event usage, s.pulling = .recording event usage →
    s.stream.terminalSettled = true ∧ Completes event ∧ Marked event ∧
      (first.terminal = true → event = first)
  firstWaits : first.terminal = true → s.pulling ≠ .handled ∧
    (s.pulling = .idle → s.stream.pending = some first)
  failed : Completes first → s.stream.terminalSettled = false → Failing s →
    s.stream.observedCompletedUsage = some (usageOf first.value)

/-- What holds of every session. -/
structure SessionInvariant (first : ResponsesStreamEvent) (s : ChatSession) : Prop where
  once : RecordsOnce s.stream.lifecycle
  settled : s.stream.terminalSettled = true → s.stream.lifecycle.recorded = true
  closed : s.stream.closed = true → s.cancelling ≠ .settling → s.stream.lifecycle.recorded = true
  rest : s.stream.closed = true → s.cancelling = .notInvoked → s.pulling = .idle
  isOpen : s.stream.closed = false → OpenSession first s
  completed : ∀ usage, .terminal .completed usage ∈ s.stream.lifecycle.outcomes →
    ∃ h ∈ s.handled, h.event.type = "response.completed" ∧
      ∃ t, h.translation = some t ∧ translatedChatOutputObserved t = true
  /-- The usage of a completed event that was handled is recorded, or it is about to be. -/
  usage : ∀ h ∈ s.handled, h.beforeCancel = true → Completes h.event →
    (∃ outcome, s.stream.lifecycle.outcomes = [outcome] ∧ GivesUsageOf h.event outcome) ∨
      s.stream.closed = false ∧ s.stream.terminalSettled = false ∧
        s.stream.observedCompletedUsage = some (usageOf h.event.value) ∧ Failing s
  firstOnly : first.terminal = true → ∀ h ∈ s.handled, h.event = first
  firstReads : first.terminal = true → s.pulling ≠ .reading
  firstUsage : Completes first → ∀ outcome ∈ s.stream.lifecycle.outcomes, GivesUsageOf first outcome
  firstCancelled : first.terminal = true → Cancelled s → s.stream.terminalSettled = true

theorem terminal_of_completes (hmark : Marked event) (hcomp : Completes event) :
    event.terminal = true := by
  rw [hmark, hcomp.completed]
  decide

/-- The invariant holds before anything is done. -/
theorem SessionInvariant.start (hmark : Marked first) (id : String) (created : ℚ) :
    SessionInvariant first (.initial first id created) where
  once := .nothing
  settled hset := Bool.noConfusion hset
  closed hcl := Bool.noConfusion hcl
  rest hcl := Bool.noConfusion hcl
  isOpen _ :=
    { notInvoked := rfl
      unrecorded := fun _ => rfl
      marked := by
        rintro _ event hpend
        obtain rfl : first = event := Option.some.inj hpend
        exact hmark
      waiting := fun hset => Bool.noConfusion hset
      recording := fun _ _ => Pulling.noConfusion
      firstWaits := fun _ => ⟨Pulling.noConfusion, fun _ => rfl⟩
      failed := by
        rintro _ _ ⟨_, hfail | hfail⟩
        · cases hfail
        · cases hfail }
  completed _ hmem := absurd hmem List.not_mem_nil
  usage _ hmem := absurd hmem List.not_mem_nil
  firstOnly _ _ hmem := absurd hmem List.not_mem_nil
  firstReads _ := Pulling.noConfusion
  firstUsage _ _ hmem := absurd hmem List.not_mem_nil
  firstCancelled _ hcand := absurd rfl hcand

/-! ### Events -/

structure Taking (first : ResponsesStreamEvent) (s : ChatSession) (event : ResponsesStreamEvent) :
    Prop where
  marked : Marked event
  notFailing : ¬Failing s
  onlyFirst : first.terminal = true → event = first
  cancelled : s.stream.closed = true → Cancelled s
  settledFor : s.stream.closed = false → s.stream.terminalSettled = true → Completes event ∧
    ∃ outcome, s.stream.lifecycle.outcomes = [outcome] ∧ GivesUsageOf event outcome

variable {s : ChatSession}

theorem Taking.isOpen (htk : Taking first s event) (hopen : s.cancelling = .notInvoked) :
    s.stream.closed = false := by
  cases hcl : s.stream.closed with
  | false => rfl
  | true => exact absurd hopen (htk.cancelled hcl)

theorem Taking.not_completes (htk : Taking first s event) (hnt : event.terminal = false) :
    ¬Completes event := by
  intro hcpl
  rw [terminal_of_completes htk.marked hcpl] at hnt
  cases hnt

theorem not_failing_of {pulling : Pulling} (hat : s.pulling = pulling)
    (hfail : ∀ failure, pulling ≠ .failed failure)
    (hreturning : ∀ failure, pulling ≠ .returning failure) : ¬Failing s := by
  rintro ⟨failure, here | here⟩
  · exact hfail failure (hat.symm.trans here)
  · exact hreturning failure (hat.symm.trans here)

theorem not_failing_atLoop (hatl : s.AtLoop) : ¬Failing s := by
  rcases hatl.2 with ⟨hidle, _⟩ | hhd
  · exact not_failing_of hidle (fun _ => nofun) fun _ => nofun
  · exact not_failing_of hhd (fun _ => nofun) fun _ => nofun

theorem not_recording_atLoop (hatl : s.AtLoop) (event : ResponsesStreamEvent)
    (usage : Option UsageTokens) : s.pulling ≠ .recording event usage := by
  intro hrec
  rcases hatl.2 with ⟨hidle, _⟩ | hhd
  · cases hrec.symm.trans hidle
  · cases hrec.symm.trans hhd

section

variable (h : SessionInvariant first s)

include h

/-- A loop that starts over takes the pending event. -/
theorem taking_pending (hatl : s.AtLoop) (hpend : s.stream.pending = some event) :
    Taking first s event := by
  have hfine := not_failing_atLoop hatl
  have hnotRecording := not_recording_atLoop hatl
  obtain ⟨hopen, hat⟩ := hatl
  have hopen' := h.isOpen hopen
  refine ⟨?_, hfine, ?_, fun hcl => ?_, fun _ hset => ?_⟩
  · exact hopen'.marked (hat.imp And.left id) event hpend
  · intro hterm
    obtain ⟨hnotHandled, hwait⟩ := hopen'.firstWaits hterm
    rcases hat with ⟨hidle, _⟩ | hhd
    · have heq := hwait hidle
      rw [hpend] at heq
      exact Option.some.inj heq
    · exact absurd hhd hnotHandled
  · rw [hopen] at hcl
    cases hcl
  · obtain ⟨waiting, hcomp, hrec, hat' | ⟨usage, hrcg⟩ | hfail⟩ := hopen'.waiting hset
    · obtain rfl : event = waiting := Option.some.inj (hpend.symm.trans hat'.2)
      exact ⟨hcomp, hrec⟩
    · exact absurd hrcg (hnotRecording waiting usage)
    · exact absurd hfail hfine

/-- A loop that is reading takes the event that arrives. -/
theorem taking_received (hrdg : s.pulling = .reading) (hmark : Marked event) :
    Taking first s event := by
  have hfine : ¬Failing s := not_failing_of hrdg (fun _ => nofun) fun _ => nofun
  refine ⟨hmark, hfine, fun hterm => absurd hrdg (h.firstReads hterm), ?_, ?_⟩
  · intro hcl hopen'
    have hidle := h.rest hcl hopen'
    rw [hrdg] at hidle
    cases hidle
  · intro hopen hset
    obtain ⟨waiting, _, _, ⟨hidle, _⟩ | ⟨usage, hrec⟩ | hfail⟩ := (h.isOpen hopen).waiting hset
    · rw [hrdg] at hidle
      cases hidle
    · rw [hrdg] at hrec
      cases hrec
    · exact absurd hfail hfine

theorem usage_before (htk : Taking first s event) :
    ∀ h ∈ s.handled, h.beforeCancel = true → Completes h.event →
      ∃ outcome, s.stream.lifecycle.outcomes = [outcome] ∧ GivesUsageOf h.event outcome := by
  intro old hmem hbef hcomp
  rcases h.usage old hmem hbef hcomp with hrec | ⟨_, _, _, hfail⟩
  · exact hrec
  · exact absurd hfail htk.notFailing

end

variable {s' : ChatSession}

variable {translation : Option ChatTranslation}

/-! ### An open session after an event -/

section

variable (hop : OpenSession first s) (htk : Taking first s event)
  (hcan : s'.cancelling = s.cancelling)

include hop htk hcan

/-- An event that ends nothing leaves nothing but itself to wait for. -/
theorem OpenSession.quiet (hopen : s.stream.closed = false) (hnt : event.terminal = false)
    (hal : SettledAlike s.stream s'.stream)
    (hpend : s'.stream.pending = none ∨ s'.stream.pending = some event)
    (hrest : s'.pulling = .handled ∨ s'.pulling = .idle) : OpenSession first s' := by
  have hfine : ¬Failing s' := by
    rcases hrest with hrest | hrest
    · exact not_failing_of hrest (fun _ => nofun) fun _ => nofun
    · exact not_failing_of hrest (fun _ => nofun) fun _ => nofun
  refine ⟨hcan.trans hop.notInvoked, ?_, ?_, ?_, ?_, ?_, ?_⟩
  · rw [hal.terminalSettled, hal.lifecycle]
    exact hop.unrecorded
  · intro _ next hwait
    rcases hpend with hno | heq
    · rw [hno] at hwait
      cases hwait
    · rw [heq] at hwait
      cases hwait
      exact htk.marked
  · rw [hal.terminalSettled]
    intro hset
    exact absurd (htk.settledFor hopen hset).1 (htk.not_completes hnt)
  · intro _ _ hrcg
    rw [hrcg] at hrest
    rcases hrest with hrest | hrest <;> cases hrest
  · intro hterm
    rw [← htk.onlyFirst hterm, hnt] at hterm
    cases hterm
  · intro _ _ hfailing
    exact absurd hfailing hfine

/-- A completed event that is taken up again stays pending. -/
theorem OpenSession.again (hopen : s.stream.closed = false) (hcpl : Completes event)
    (hbef : s.stream.terminalSettled = true) (hset : s'.stream.terminalSettled = true)
    (hlife : s'.stream.lifecycle = s.stream.lifecycle) (hidle : s'.pulling = .idle)
    (hpend : s'.stream.pending = some event) : OpenSession first s' := by
  refine ⟨hcan.trans hop.notInvoked, ?_, ?_, ?_, ?_, ?_, ?_⟩
  · rw [hset]
    exact Bool.noConfusion
  · intro _ next hwait
    rw [hpend] at hwait
    cases hwait
    exact htk.marked
  · rw [hlife]
    exact fun _ => ⟨event, hcpl, (htk.settledFor hopen hbef).2, .inl ⟨hidle, hpend⟩⟩
  · rw [hidle]
    exact fun _ _ => Pulling.noConfusion
  · intro hterm
    rw [hidle, hpend, htk.onlyFirst hterm]
    exact ⟨Pulling.noConfusion, fun _ => rfl⟩
  · rw [hset]
    exact fun _ => Bool.noConfusion

/-- While its usage is being recorded, a completed event is what the session waits for. -/
theorem OpenSession.records (hcpl : Completes event) (hset : s'.stream.terminalSettled = true)
    (hrec : s'.stream.lifecycle.outcomes = [.terminal .completed (usageOf event.value)])
    (hrcg : s'.pulling = .recording event (usageOf event.value)) : OpenSession first s' := by
  refine ⟨hcan.trans hop.notInvoked, ?_, ?_, ?_, ?_, ?_, ?_⟩
  · rw [hset]
    exact Bool.noConfusion
  · rw [hrcg]
    rintro (hidle | hhd)
    · cases hidle
    · cases hhd
  · exact fun _ => ⟨event, hcpl, ⟨_, hrec, .completed, rfl⟩, .inr (.inl ⟨_, hrcg⟩)⟩
  · rw [hrcg]
    rintro _ _ ⟨⟩
    exact ⟨hset, hcpl, htk.marked, htk.onlyFirst⟩
  · rw [hrcg]
    exact fun _ => ⟨Pulling.noConfusion, Pulling.noConfusion⟩
  · rw [hset]
    exact fun _ => Bool.noConfusion

/-- A failure has observed the usage of the event that it failed on. -/
theorem OpenSession.fails (hmf : Marked first) (hopen : s.stream.closed = false)
    (hset : s'.stream.terminalSettled = s.stream.terminalSettled)
    (hlife : s'.stream.lifecycle = s.stream.lifecycle)
    (hobs : s'.stream.observedCompletedUsage = some (usageOf event.value) ∧ Completes event ∨
      s'.stream.observedCompletedUsage = s.stream.observedCompletedUsage ∧ ¬Completes event)
    (hrest : Failing s') : OpenSession first s' := by
  have hwait : s'.pulling = .idle ∨ s'.pulling = .handled → False := by
    rintro (hidle | hhd)
    · exact not_failing_of hidle (fun _ => nofun) (fun _ => nofun) hrest
    · exact not_failing_of hhd (fun _ => nofun) (fun _ => nofun) hrest
  refine ⟨hcan.trans hop.notInvoked, ?_, ?_, ?_, ?_, ?_, ?_⟩
  · rw [hset, hlife]
    exact hop.unrecorded
  · exact fun hat => absurd hat hwait
  · rw [hset, hlife]
    intro hset'
    obtain ⟨hcpl, hrec⟩ := htk.settledFor hopen hset'
    exact ⟨event, hcpl, hrec, .inr (.inr hrest)⟩
  · intro _ _ hrcg
    exact absurd hrest (not_failing_of hrcg (fun _ => nofun) fun _ => nofun)
  · exact fun _ => ⟨fun hhd => hwait (.inr hhd), fun hidle => absurd (.inl hidle) hwait⟩
  · intro hcpl _ _
    obtain rfl := htk.onlyFirst (terminal_of_completes hmf hcpl)
    rcases hobs with ⟨heq, _⟩ | ⟨_, hnot⟩
    · exact heq
    · exact absurd hcpl hnot

end

section

variable (h : SessionInvariant first s)

include h

section

variable (entries : List HandledEvent) (hhd : s'.handled = s.handled ++ entries)

include entries hhd

/-- A step that neither handles an event nor settles anything. -/
theorem SessionInvariant.keeps (hlife : s'.stream.lifecycle = s.stream.lifecycle)
    (hset : s'.stream.terminalSettled = s.stream.terminalSettled)
    (hcl : s'.stream.closed = true → s'.cancelling ≠ .settling → s.stream.lifecycle.recorded = true)
    (hrest : s'.stream.closed = true → s'.cancelling = .notInvoked → s'.pulling = .idle)
    (hopen : s'.stream.closed = false → OpenSession first s')
    (hrdg : first.terminal = true → s'.pulling ≠ .reading)
    (honly : first.terminal = true → ∀ entry ∈ entries, entry.event = first)
    (husg : ∀ entry ∈ s.handled ++ entries, entry.beforeCancel = true → Completes entry.event →
      (∃ outcome, s.stream.lifecycle.outcomes = [outcome] ∧ GivesUsageOf entry.event outcome) ∨
      s'.stream.closed = false ∧ s.stream.terminalSettled = false ∧
      s'.stream.observedCompletedUsage = some (usageOf entry.event.value) ∧ Failing s')
    (hcand : first.terminal = true → Cancelled s' → s.stream.terminalSettled = true) :
    SessionInvariant first s' := by
  refine ⟨?_, ?_, ?_, hrest, hopen, ?_, ?_, ?_, hrdg, ?_, ?_⟩
  · rw [hlife]
    exact h.once
  · rw [hset, hlife]
    exact h.settled
  · rw [hlife]
    exact hcl
  · rw [hlife]
    intro usage hmem
    obtain ⟨old, hin, hrest⟩ := h.completed usage hmem
    exact ⟨old, by rw [hhd]; exact List.mem_append_left _ hin, hrest⟩
  · rw [hlife, hhd, hset]
    exact husg
  · rw [hhd]
    exact fun hterm => List.forall_mem_append.mpr ⟨h.firstOnly hterm, honly hterm⟩
  · rw [hlife]
    exact h.firstUsage
  · rw [hset]
    exact hcand

/-- What a session keeps when an outcome is recorded, if none was. -/
theorem SessionInvariant.schedules {outcome : MeteredOutcome}
    (hlife : s'.stream.lifecycle = s.stream.lifecycle.schedule outcome)
    (hrest : s'.stream.closed = true → s'.cancelling = .notInvoked → s'.pulling = .idle)
    (hopen : s'.stream.closed = false → OpenSession first s')
    (hrdg : first.terminal = true → s'.pulling ≠ .reading)
    (honly : first.terminal = true → ∀ entry ∈ entries, entry.event = first)
    (hcomp : ∀ usage, outcome = .terminal .completed usage →
      ∃ entry ∈ entries, entry.event.type = "response.completed" ∧ ∃ t, entry.translation = some t ∧
      translatedChatOutputObserved t = true)
    (husg : ∀ h ∈ s.handled, h.beforeCancel = true → Completes h.event → s.stream.closed = false →
      s.stream.terminalSettled = false →
      s.stream.observedCompletedUsage = some (usageOf h.event.value) → Failing s →
      GivesUsageOf h.event outcome)
    (hnewUsage : ∀ entry ∈ entries, entry.beforeCancel = true → Completes entry.event →
      s.stream.lifecycle.recorded = false ∧ GivesUsageOf entry.event outcome)
    (hfirstUsage : Completes first → s.stream.lifecycle.recorded = false →
      GivesUsageOf first outcome)
    (hfirstCancelled : first.terminal = true → Cancelled s' → s'.stream.terminalSettled = true) :
    SessionInvariant first s' := by
  have hschd := h.once.schedule outcome
  refine ⟨?_, ?_, ?_, hrest, hopen, ?_, ?_, ?_, hrdg, ?_, hfirstCancelled⟩
  · rw [hlife]
    exact hschd.1
  · rw [hlife]
    exact fun _ => hschd.2.1
  · rw [hlife]
    exact fun _ _ => hschd.2.1
  · rw [hlife, hhd]
    intro usage hmem
    rcases h.once.mem_schedule hmem with hold | hnew
    · obtain ⟨entry, hin, hrest⟩ := h.completed usage hold
      exact ⟨entry, List.mem_append_left _ hin, hrest⟩
    · obtain ⟨entry, hin, hrest⟩ := hcomp usage hnew.symm
      exact ⟨entry, List.mem_append_right _ hin, hrest⟩
  · rw [hlife, hhd]
    intro entry hmem hbef hcpl
    left
    rcases List.mem_append.mp hmem with hold | hnew
    · rcases h.usage entry hold hbef hcpl with ⟨one, hrec, hgvs⟩ |
        ⟨hopen', huns, hobs, hfls⟩
      · exact ⟨one, h.once.schedule_stays hrec _, hgvs⟩
      · have hunr := (h.isOpen hopen').unrecorded huns
        exact ⟨outcome, hschd.2.2.2 hunr,
          husg entry hold hbef hcpl hopen' huns hobs hfls⟩
    · obtain ⟨hunr, hgvs⟩ := hnewUsage entry hnew hbef hcpl
      exact ⟨outcome, hschd.2.2.2 hunr, hgvs⟩
  · rw [hhd]
    exact fun hterm => List.forall_mem_append.mpr ⟨h.firstOnly hterm, honly hterm⟩
  · rw [hlife]
    intro hcpl one hmem
    cases hrec : s.stream.lifecycle.recorded with
    | true =>
      rw [hschd.2.2.1 hrec] at hmem
      exact h.firstUsage hcpl one hmem
    | false =>
      rw [hschd.2.2.2 hrec] at hmem
      rw [List.mem_singleton.mp hmem]
      exact hfirstUsage hcpl hrec

end

theorem SessionInvariant.recorded_of (hcan : s'.cancelling = s.cancelling)
    (hcl : s'.stream.closed = true → s.stream.closed = true ∨ s.stream.terminalSettled = true)
    (hcl' : s'.stream.closed = true) (hnotSettling : s'.cancelling ≠ .settling) :
    s.stream.lifecycle.recorded = true :=
  (hcl hcl').elim (fun hwas => h.closed hwas (hcan ▸ hnotSettling)) h.settled

/-- An event is handled and settles nothing. -/
theorem SessionInvariant.handles_same (htk : Taking first s event)
    (hcan : s'.cancelling = s.cancelling) (hrdg : s'.pulling ≠ .reading)
    (hhd : s'.handled =
      s.handled ++ [⟨event, decide (s.cancelling = .notInvoked), translation⟩])
    (hlife : s'.stream.lifecycle = s.stream.lifecycle)
    (hset : s'.stream.terminalSettled = s.stream.terminalSettled)
    (hcl : s'.stream.closed = true → s.stream.closed = true ∨ s.stream.terminalSettled = true)
    (hrest : s'.stream.closed = true → s.cancelling = .notInvoked → s'.pulling = .idle)
    (hopen : s'.stream.closed = false → OpenSession first s')
    (husg : s.cancelling = .notInvoked → Completes event →
      (∃ outcome, s.stream.lifecycle.outcomes = [outcome] ∧ GivesUsageOf event outcome) ∨
        s'.stream.closed = false ∧ s.stream.terminalSettled = false ∧
          s'.stream.observedCompletedUsage = some (usageOf event.value) ∧ Failing s') :
    SessionInvariant first s' := by
  refine h.keeps [_] hhd hlife hset (h.recorded_of hcan hcl)
    (by rw [hcan]; exact hrest) hopen (fun _ => hrdg)
    (fun hterm => List.forall_mem_singleton.mpr (htk.onlyFirst hterm))
    (List.forall_mem_append.mpr ⟨fun entry hold hbef hcomp =>
        .inl (usage_before h htk entry hold hbef hcomp), ?_⟩)
    (by unfold Cancelled; rw [hcan]; exact h.firstCancelled)
  exact List.forall_mem_singleton.mpr fun hbef => husg (of_decide_eq_true hbef)

section

variable (hmf : Marked first) (htk : Taking first s event)
  (hcan : s'.cancelling = s.cancelling) (hrdg : s'.pulling ≠ .reading)
  (hhd : s'.handled = s.handled ++ [⟨event, decide (s.cancelling = .notInvoked), translation⟩])

include hmf htk hcan hrdg hhd

/-- An event is handled and its outcome recorded. -/
theorem SessionInvariant.handles_recorded (state : MeteredTerminalState)
    (hlife : s'.stream.lifecycle = s.stream.lifecycle.schedule
      (.terminal state (usageOf event.value)))
    (hset : s'.stream.terminalSettled = true)
    (hrest : s'.stream.closed = true → s.cancelling = .notInvoked → s'.pulling = .idle)
    (hopen : s'.stream.closed = false → OpenSession first s')
    (hcomp : state = .completed → event.type = "response.completed" ∧ ∃ t, translation = some t ∧
      translatedChatOutputObserved t = true)
    (huns : Completes event → s.stream.terminalSettled = false) :
    SessionInvariant first s' := by
  refine h.schedules [_] hhd hlife (by rw [hcan]; exact hrest) hopen
    (fun _ => hrdg) (fun hterm => List.forall_mem_singleton.mpr (htk.onlyFirst hterm)) ?_
    (fun _ _ _ _ _ _ _ hfail => absurd hfail htk.notFailing)
    (List.forall_mem_singleton.mpr fun hbef hcpl => ⟨?_, state, rfl⟩) ?_ fun _ _ => hset
  · rintro _ ⟨⟩
    exact ⟨_, List.mem_singleton_self _, hcomp rfl⟩
  · exact (h.isOpen (htk.isOpen (of_decide_eq_true hbef))).unrecorded (huns hcpl)
  · intro hcpl _
    obtain rfl := htk.onlyFirst (terminal_of_completes hmf hcpl)
    exact ⟨state, rfl⟩

/-- **One event** keeps the invariant, whatever the handler makes of it. -/
theorem SessionInvariant.handles (has : HandlesAs s event translation s') :
    SessionInvariant first s' := by
  -- An open stream was open, and was not cancelled.
  have hopen : s'.stream.closed = s.stream.closed → s'.stream.closed = false →
      OpenSession first s := fun heq hopen' => h.isOpen (heq.symm.trans hopen')
  have hsty : s'.stream.closed = s.stream.closed → s'.stream.closed = true →
      s.cancelling ≠ .notInvoked := fun heq hcl => htk.cancelled (heq.symm.trans hcl)
  cases has with
  | quiet hnt hal hpend hrest =>
    refine h.handles_same htk hcan hrdg hhd hal.lifecycle hal.terminalSettled
      (fun hcl => .inl (hal.closed.symm.trans hcl))
      (fun hcl hopen' => absurd hopen' (hsty hal.closed hcl)) (fun hopen' => ?_)
      fun _ hcpl => absurd hcpl (htk.not_completes hnt)
    have hop := hopen hal.closed hopen'
    exact hop.quiet htk hcan (hal.closed.symm.trans hopen') hnt hal hpend
      (hrest.resolve_left fun hcand => hcand hop.notInvoked)
  | terminates hterm hoth hcl hset hlife hrest =>
    obtain ⟨state, heq, hnotCompleted⟩ :=
      terminal_eq htk.marked hterm s.stream.lifecycle (usageOf event.value)
    refine h.handles_recorded hmf htk hcan hrdg hhd state
      (hlife.trans heq) hset (fun _ hopen' => hrest.resolve_left fun hcand =>
        hcand hopen') (fun hopen' => ?_)
      (fun hcomp => absurd hcomp (hnotCompleted hoth))
      fun hcpl => absurd hcpl.completed hoth
    rw [hcl] at hopen'
    cases hopen'
  | empty _ huns hcl hset hlife hrest =>
    refine h.handles_recorded hmf htk hcan hrdg hhd .failed hlife hset
      (fun _ hopen' => hrest.resolve_left fun hcand => hcand hopen')
      (fun hopen' => ?_) nofun fun _ => huns
    rw [hcl] at hopen'
    cases hopen'
  | again hcpl hbef hset hlife hrest hcl =>
    refine h.handles_same htk hcan hrdg hhd hlife (hset.trans hbef.symm)
      (fun _ => .inr hbef) (fun _ hopen' => hrest.resolve_left fun hcand => hcand hopen')
      (fun hopen' => ?_) fun hopen' _ => .inl (htk.settledFor (htk.isOpen hopen') hbef).2
    obtain ⟨heq, hpend⟩ := hcl.resolve_left (by rw [hopen']; exact Bool.noConfusion)
    have hop := hopen heq hopen'
    exact hop.again htk hcan (heq.symm.trans hopen') hcpl hbef hset hlife
      (hrest.resolve_left fun hcand => hcand hop.notInvoked) hpend
  | records hcpl huns hcl hset hlife htranslated hrest =>
    refine h.handles_recorded hmf htk hcan hrdg hhd .completed hlife hset
      (fun hcl' hopen' => absurd hopen' (hsty hcl hcl')) (fun hopen' => ?_)
      (fun _ => ⟨hcpl.completed, htranslated⟩) fun _ => huns
    have hop := hopen hcl hopen'
    have hrec := (h.once.schedule (.terminal .completed (usageOf event.value))).2.2.2
      (hop.unrecorded huns)
    exact hop.records htk hcan hcpl hset (hlife ▸ hrec)
      (hrest.resolve_left fun hcand => hcand hop.notInvoked)
  | fails hcl hset hlife hobs _ hrest =>
    refine h.handles_same htk hcan hrdg hhd hlife hset
      (fun hcl' => .inl (hcl.symm.trans hcl'))
      (fun hcl' hopen' => absurd hopen' (hsty hcl hcl')) (fun hopen' => ?_) fun hopen' hcpl => ?_
    · exact (hopen hcl hopen').fails htk hcan hmf (hcl.symm.trans hopen') hset hlife
        hobs hrest
    · have hopen'' := htk.isOpen hopen'
      cases hbef : s.stream.terminalSettled with
      | true => exact .inl (htk.settledFor hopen'' hbef).2
      | false =>
        rcases hobs with ⟨heq, _⟩ | ⟨_, hnot⟩
        · exact .inr ⟨hcl.trans hopen'', rfl, heq, hrest⟩
        · exact absurd hcpl hnot

end

/-! ### Steps -/

/-- A step of the loop that handles no event. -/
theorem SessionInvariant.moves
    (hcan : s'.cancelling = s.cancelling) (hhd : s'.handled = s.handled)
    (hlife : s'.stream.lifecycle = s.stream.lifecycle)
    (hset : s'.stream.terminalSettled = s.stream.terminalSettled)
    (hcl : s'.stream.closed = true → s.stream.closed = true ∨ s.stream.terminalSettled = true)
    (hrest : s'.stream.closed = true → s.cancelling = .notInvoked → s'.pulling = .idle)
    (hopen : s'.stream.closed = false → OpenSession first s')
    (hrdg : first.terminal = true → s'.pulling ≠ .reading)
    (hfail : s.stream.closed = false → s.stream.terminalSettled = false → Failing s →
      s'.stream.closed = false ∧
      s'.stream.observedCompletedUsage = s.stream.observedCompletedUsage ∧ Failing s') :
    SessionInvariant first s' := by
  refine h.keeps [] (hhd.trans (List.append_nil _).symm) hlife hset
    (h.recorded_of hcan hcl) (by rw [hcan]; exact hrest) hopen hrdg
    (fun _ => List.forall_mem_nil _) ?_ (by unfold Cancelled; rw [hcan]; exact h.firstCancelled)
  rw [List.append_nil]
  intro entry hmem hbef hcomp
  rcases h.usage entry hmem hbef hcomp with hrec | ⟨hopen', huns, hobs, hfls⟩
  · exact .inl hrec
  · obtain ⟨hopen'', heq, hfls'⟩ := hfail hopen' huns hfls
    exact .inr ⟨hopen'', huns, heq.trans hobs, hfls'⟩

end

/-- The client cancels while a pull waits to settle the failed translation of a completed event,
which was not the first event. -/
def CompletionFailed (first : ResponsesStreamEvent) (s : ChatSession) : Prop :=
  Failing s ∧ s.stream.terminalSettled = false ∧ s.stream.observedCompletedUsage ≠ none ∧
    first.terminal = false

/-- A step that does not cancel a stream whose completion failed. -/
def Spares (first : ResponsesStreamEvent) (s : ChatSession) (action : Action) : Prop :=
  action = .cancel → ¬CompletionFailed first s

/-- A queued delta is given out. -/
theorem SessionInvariant.emitsQueued (request : ChatRequest) (h : SessionInvariant first s)
    (hidle : s.pulling = .idle) (hopen : s.stream.closed = false) :
    SessionInvariant first { s with stream := (s.stream.emitNextQueuedDelta request).1 } := by
  obtain ⟨hal, hpend⟩ := emitNext_alike request s.stream
  have hfine : ¬Failing s := not_failing_of hidle (fun _ => nofun) fun _ => nofun
  have hopen' := h.isOpen hopen
  refine h.moves rfl rfl hal.lifecycle hal.terminalSettled
    (fun hcl => .inl (hal.closed.symm.trans hcl)) (fun _ _ => hidle) (fun _ => ?_)
    h.firstReads fun _ _ hfail => absurd hfail hfine
  refine ⟨hopen'.notInvoked, ?_, ?_, ?_, ?_, ?_, fun _ _ hfail => absurd hfail hfine⟩
  · show (emitNextQueuedDelta request s.stream).1.terminalSettled = false →
      (emitNextQueuedDelta request s.stream).1.lifecycle.recorded = false
    rw [hal.terminalSettled, hal.lifecycle]
    exact hopen'.unrecorded
  · intro hat event hwait
    exact hopen'.marked hat event (hpend.symm.trans hwait)
  · show (emitNextQueuedDelta request s.stream).1.terminalSettled = true →
      ∃ event, Completes event ∧
      (∃ outcome, (emitNextQueuedDelta request s.stream).1.lifecycle.outcomes = [outcome] ∧
        GivesUsageOf event outcome) ∧
      (s.pulling = .idle ∧ (emitNextQueuedDelta request s.stream).1.pending = some event ∨
        (∃ usage, s.pulling = .recording event usage) ∨ Failing s)
    rw [hal.terminalSettled, hal.lifecycle, hpend]
    exact hopen'.waiting
  · intro event usage hrec
    rw [show s.pulling = _ from hrec] at hidle
    cases hidle
  · intro hterm
    exact ⟨(hopen'.firstWaits hterm).1, fun hidle =>
      hpend.trans ((hopen'.firstWaits hterm).2 hidle)⟩

section

variable (h : SessionInvariant first s)

include h

/-- The loop waits for an event. -/
theorem SessionInvariant.reads (hatl : s.AtLoop) (hpend : s.stream.pending = none) :
    SessionInvariant first { s with pulling := .reading } := by
  have hfine := not_failing_atLoop hatl
  have hnotRecording := not_recording_atLoop hatl
  obtain ⟨hopen, hat⟩ := hatl
  have hopen' := h.isOpen hopen
  -- A settled stream has a pending event, and so has one that waits for its first event.
  have huns : s.stream.terminalSettled = false := by
    cases hset : s.stream.terminalSettled with
    | false => rfl
    | true =>
      obtain ⟨event, _, _, ⟨_, hwait⟩ | ⟨usage, hrec⟩ | hfail⟩ := hopen'.waiting hset
      · rw [hpend] at hwait
        cases hwait
      · exact absurd hrec (hnotRecording event usage)
      · exact absurd hfail hfine
  have hnotFirst : first.terminal ≠ true := by
    intro hterm
    obtain ⟨hnotHandled, hwait⟩ := hopen'.firstWaits hterm
    rcases hat with ⟨hidle, _⟩ | hhd
    · have hwait := hwait hidle
      rw [hpend] at hwait
      cases hwait
    · exact hnotHandled hhd
  have hfine' : ¬Failing { s with pulling := .reading } :=
    @not_failing_of { s with pulling := .reading } .reading rfl (fun _ => nofun) fun _ => nofun
  refine h.moves rfl rfl rfl rfl (fun hcl => .inl hcl) ?_ (fun _ => ?_)
    (fun hterm => absurd hterm hnotFirst) fun _ _ hfail => absurd hfail hfine
  · intro hcl
    rw [show s.stream.closed = true from hcl] at hopen
    cases hopen
  · refine ⟨hopen'.notInvoked, hopen'.unrecorded, ?_, ?_, fun _ _ => Pulling.noConfusion,
      fun hterm => absurd hterm hnotFirst, fun _ _ hfail => absurd hfail hfine'⟩
    · rintro (hidle | hhd)
      · cases hidle
      · cases hhd
    · intro hset
      rw [show s.stream.terminalSettled = true from hset] at huns
      cases huns

/-- The events end or fail. -/
theorem SessionInvariant.ends (hmf : Marked first) (hrdg : s.pulling = .reading)
    (failure : StreamFailure) : SessionInvariant first { s with pulling := .failed failure } := by
  have hfine : ¬Failing s := not_failing_of hrdg (fun _ => nofun) fun _ => nofun
  have hnotFirst : first.terminal ≠ true := fun hterm => h.firstReads hterm hrdg
  refine h.moves rfl rfl rfl rfl (fun hcl => .inl hcl) ?_ (fun hopen => ?_)
    (fun _ => Pulling.noConfusion) fun _ _ hfail => absurd hfail hfine
  · intro hcl hni
    have hidle := h.rest hcl hni
    rw [hrdg] at hidle
    cases hidle
  · have hopen' := h.isOpen hopen
    refine ⟨hopen'.notInvoked, hopen'.unrecorded, ?_, ?_, fun _ _ => Pulling.noConfusion,
      fun hterm => absurd hterm hnotFirst, ?_⟩
    · rintro (hidle | hhd)
      · cases hidle
      · cases hhd
    · intro hset
      obtain ⟨event, _, _, ⟨hidle, _⟩ | ⟨usage, hrec⟩ | hfail⟩ := hopen'.waiting hset
      · rw [hrdg] at hidle
        cases hidle
      · rw [hrdg] at hrec
        cases hrec
      · exact absurd hfail hfine
    · exact fun hcomp => absurd (terminal_of_completes hmf hcomp) hnotFirst

theorem SessionInvariant.idles (hcl : s.stream.closed = true) :
    SessionInvariant first { s with pulling := .idle } := by
  refine h.moves rfl rfl rfl rfl .inl (fun _ _ => rfl) (fun hopen => ?_)
    (fun _ => Pulling.noConfusion) fun hopen => ?_
  · rw [show s.stream.closed = false from hopen] at hcl
    cases hcl
  · rw [hopen] at hcl
    cases hcl

end

/-- The completion is given out once its usage is recorded. -/
theorem SessionInvariant.delivers (request : ChatRequest) (h : SessionInvariant first s)
    {usageTokens : Option UsageTokens} (hrcg : s.pulling = .recording event usageTokens) :
    SessionInvariant first
      { s with
        stream := s.emitted (s.stream.deliverCompleted request event usageTokens)
        pulling := s.emitting (s.stream.deliverCompleted request event usageTokens) .idle } := by
  have hfine : ¬Failing s := not_failing_of hrcg (fun _ => nofun) fun _ => nofun
  obtain ⟨hal, hpend⟩ := emitted_alike s (s.stream.deliverCompleted request event usageTokens)
  have hdlv : (s.stream.deliverCompleted request event usageTokens).lifecycle =
        s.stream.lifecycle ∧
      (s.stream.deliverCompleted request event usageTokens).terminalSettled =
        s.stream.terminalSettled ∧
      ((s.stream.deliverCompleted request event usageTokens).closed = true ∨
        (s.stream.deliverCompleted request event usageTokens).closed = s.stream.closed ∧
        (s.stream.deliverCompleted request event usageTokens).pending = some event) := by
    unfold deliverCompleted
    split_ifs
    · exact ⟨rfl, rfl, .inl rfl⟩
    · obtain ⟨hal, hpend⟩ := deferEvent_alike request s.stream event
      exact ⟨hal.lifecycle, hal.terminalSettled, .inr ⟨hal.closed, hpend⟩⟩
  have hgoesOn := emitting_eq s (s.stream.deliverCompleted request event usageTokens) .idle
  refine h.moves rfl rfl (hal.lifecycle.trans hdlv.1)
    (hal.terminalSettled.trans hdlv.2.1) ?_ ?_ (fun hopen => ?_)
    (fun _ => emitting_not_reading _ _ nofun) fun _ _ hfail => absurd hfail hfine
  · intro _
    cases hcl : s.stream.closed with
    | true => exact .inl rfl
    | false => exact .inr ((h.isOpen hcl).recording event usageTokens hrcg).1
  · exact fun _ hni => hgoesOn.resolve_left fun hcand => hcand hni
  · obtain ⟨heq, hwait⟩ := hdlv.2.2.resolve_left (by
      rw [← hal.closed, show _ = false from hopen]
      exact Bool.noConfusion)
    have hopen' := h.isOpen (heq.symm.trans (hal.closed.symm.trans hopen))
    obtain ⟨hset, hcomp, hmark, honlyFirst⟩ := hopen'.recording event usageTokens hrcg
    have hidle := hgoesOn.resolve_left fun hcand => hcand hopen'.notInvoked
    have hset' := (hal.terminalSettled.trans hdlv.2.1).trans hset
    obtain ⟨other, _, hrec, ⟨hidle', _⟩ | ⟨usage, heq'⟩ | hfail⟩ := hopen'.waiting hset
    · rw [hrcg] at hidle'
      cases hidle'
    · rw [hrcg] at heq'
      cases heq'
      refine ⟨hopen'.notInvoked, ?_, ?_, ?_, ?_, ?_, ?_⟩
      · intro huns
        rw [show _ = false from huns] at hset'
        cases hset'
      · intro _ next hat
        rw [show _ = some event from hpend.trans hwait] at hat
        cases hat
        exact hmark
      · intro _
        refine ⟨event, hcomp, ?_, .inl ⟨hidle, hpend.trans hwait⟩⟩
        show ∃ outcome, (s.emitted _).lifecycle.outcomes = [outcome] ∧ _
        rw [hal.lifecycle, hdlv.1]
        exact hrec
      · intro next usage hagn
        rw [show _ = Pulling.idle from hidle] at hagn
        cases hagn
      · intro hterm
        rw [show s.emitting _ _ = Pulling.idle from hidle, hpend, hwait, honlyFirst hterm]
        exact ⟨Pulling.noConfusion, fun _ => rfl⟩
      · intro _ huns
        rw [show _ = false from huns] at hset'
        cases hset'
    · exact absurd hfail hfine

variable {failure : StreamFailure}

/-- A failure is passed on. -/
theorem SessionInvariant.returns (h : SessionInvariant first s)
    (hfail : s.pulling = .failed failure) (hopen : s.stream.closed = false) :
    SessionInvariant first { s with pulling := .returning failure } := by
  have hfailing : Failing s := ⟨failure, .inl hfail⟩
  have hfail' : Failing { s with pulling := .returning failure } := ⟨failure, .inr rfl⟩
  have hopen' := h.isOpen hopen
  refine h.moves rfl rfl rfl rfl .inl ?_ (fun _ => ?_) (fun _ => Pulling.noConfusion)
    fun _ _ _ => ⟨hopen, rfl, hfail'⟩
  · intro hcl
    rw [show s.stream.closed = true from hcl] at hopen
    cases hopen
  · refine ⟨hopen'.notInvoked, hopen'.unrecorded, ?_, ?_, fun _ _ => Pulling.noConfusion, ?_, ?_⟩
    · rintro (hidle | hhd)
      · cases hidle
      · cases hhd
    · intro hset
      obtain ⟨event, hcomp, hrec, _⟩ := hopen'.waiting hset
      exact ⟨event, hcomp, hrec, .inr (.inr hfail')⟩
    · exact fun _ => ⟨Pulling.noConfusion, Pulling.noConfusion⟩
    · exact fun hcomp huns _ => hopen'.failed hcomp huns hfailing

/-- A failure settles what is not settled: with the observed usage, if there is one, and never as
completed. -/
theorem settleFailedStream_cases (s : ChatStream) (failure : StreamFailure) (signals : Signals) :
    s.terminalSettled = true ∧ s.settleFailedStream failure signals = s ∨
      s.terminalSettled = false ∧ ∃ outcome,
        (s.settleFailedStream failure signals).lifecycle = s.lifecycle.schedule outcome ∧
        (∀ usage, outcome ≠ .terminal .completed usage) ∧
        ∀ usage, s.observedCompletedUsage = some usage → outcome = .terminal .failed usage := by
  unfold settleFailedStream
  cases hset : s.terminalSettled with
  | true => exact .inl ⟨rfl, if_pos rfl⟩
  | false =>
    refine .inr ⟨rfl, ?_⟩
    rw [if_neg Bool.false_ne_true]
    cases hobs : s.observedCompletedUsage with
    | some usage =>
      exact ⟨.terminal .failed usage, rfl, fun _ =>
        nofun, fun _ heq => by rw [Option.some.inj heq]⟩
    | none =>
      by_cases hcand : classifyStreamFailure failure signals = .cancelled
      · exact ⟨.cancelled, if_pos hcand, fun _ => nofun, fun _ => nofun⟩
      · exact ⟨.ambiguous, if_neg hcand, fun _ => nofun, fun _ => nofun⟩

/-- The failure is settled. -/
theorem SessionInvariant.settlesFailure (h : SessionInvariant first s) (hmf : Marked first)
    (hreturning : s.pulling = .returning failure) (signals : Signals) : SessionInvariant first
      { s with
        stream := s.emitted (s.stream.settleStreamFailure failure signals), pulling := .idle } := by
  have hfail : Failing s := ⟨failure, .inr hreturning⟩
  obtain ⟨hal, _⟩ := emitted_alike s (s.stream.settleStreamFailure failure signals)
  have hcl : (s.emitted (s.stream.settleStreamFailure failure signals)).closed = true := hal.closed
  have hlife : (s.emitted (s.stream.settleStreamFailure failure signals)).lifecycle =
      (s.stream.settleFailedStream failure signals).lifecycle := hal.lifecycle
  have hset' : (s.emitted (s.stream.settleStreamFailure failure signals)).terminalSettled =
      (s.stream.settleFailedStream failure signals).terminalSettled := hal.terminalSettled
  rcases settleFailedStream_cases s.stream failure signals with
    ⟨hset, heq⟩ | ⟨huns, outcome, hschd, hinc, hobs⟩
  · rw [heq] at hlife hset'
    refine h.moves rfl rfl hlife hset' (fun _ => .inr hset) (fun _ _ => rfl)
      (fun hopen => ?_) (fun _ => Pulling.noConfusion) fun _ huns => ?_
    · rw [show _ = false from hopen] at hcl
      cases hcl
    · rw [hset] at huns
      cases huns
  · refine h.schedules [] (List.append_nil _).symm (hlife.trans hschd) (fun _ _ => rfl)
      (fun hopen => nomatch hcl.symm.trans hopen) (fun _ => nofun) (fun _ => List.forall_mem_nil _)
      (fun usage heq => absurd heq (hinc usage)) ?_ (List.forall_mem_nil _) ?_ ?_
    · intro entry _ _ _ _ _ husg _
      exact ⟨.failed, hobs _ husg⟩
    · intro hcomp _
      cases hwasClosed : s.stream.closed with
      | false => exact ⟨.failed, hobs _ ((h.isOpen hwasClosed).failed hcomp huns hfail)⟩
      | true =>
        have hcand : Cancelled s := by
          intro hni
          have hidle := h.rest hwasClosed hni
          rw [hreturning] at hidle
          cases hidle
        rw [h.firstCancelled (terminal_of_completes hmf hcomp) hcand] at huns
        cases huns
    · intro hterm hcand
      rw [h.firstCancelled hterm hcand] at huns
      cases huns

/-- The cancellation is settled. -/
theorem SessionInvariant.settlesCancel (h : SessionInvariant first s) (hmf : Marked first)
    (hsttl : s.cancelling = .settling) :
    SessionInvariant first
      { s with stream := settleCancelled s.stream, cancelling := .settled } := by
  have hcand : Cancelled s := by
    unfold Cancelled
    rw [hsttl]
    exact nofun
  have hcl : s.stream.closed = true := by
    cases hcl : s.stream.closed with
    | true => rfl
    | false => exact absurd (h.isOpen hcl).notInvoked hcand
  have hschd : (settleCancelled s.stream).lifecycle =
      s.stream.lifecycle.schedule .cancelled := by
    unfold settleCancelled
    by_cases hset : s.stream.terminalSettled = true
    · simp only [if_pos hset]
      exact ((h.once.schedule .cancelled).2.2.1 (h.settled hset)).symm
    · exact if_neg hset
  have hinc : ∀ usage, MeteredOutcome.cancelled ≠ .terminal .completed usage := by
    rintro usage ⟨⟩
  refine h.schedules [] (List.append_nil _).symm hschd (fun _ => nofun)
    (fun hopen => nomatch hcl.symm.trans hopen) h.firstReads (fun _ => List.forall_mem_nil _)
    (fun usage heq => absurd heq (hinc usage)) (fun _ _ _ _ hopen => ?_)
    (List.forall_mem_nil _) (fun hcomp hunr => ?_)
    fun hterm _ => h.firstCancelled hterm hcand
  · rw [hcl] at hopen
    cases hopen
  · have hset := h.firstCancelled (terminal_of_completes hmf hcomp) hcand
    rw [h.settled hset] at hunr
    cases hunr

/-- What a cancellation makes of the first event: nothing, or it settles a terminal one. -/
theorem settleInitial_cases (s : ChatSession) (left : Leftover) (hmark : Marked first) :
    ((s.stream.terminalSettled = true ∨ first.terminal = false) ∧
        settleInitialTerminalOnCancel s.stream first left = s.stream ∧
        initialHandled s.stream first = []) ∨
      first.terminal = true ∧ ∃ outcome translation,
        (settleInitialTerminalOnCancel s.stream first left).lifecycle =
          s.stream.lifecycle.schedule outcome ∧
        (settleInitialTerminalOnCancel s.stream first left).terminalSettled = true ∧
        initialHandled s.stream first = [⟨first, false, translation⟩] ∧
        (Completes first → GivesUsageOf first outcome) ∧
        ∀ usage, outcome = .terminal .completed usage → first.type = "response.completed" ∧
          ∃ t, translation = some t ∧ translatedChatOutputObserved t = true := by
  unfold settleInitialTerminalOnCancel initialHandled
  by_cases hskp : s.stream.terminalSettled = true ∨ first.terminal = false
  · rw [if_pos hskp, if_pos hskp]
    exact .inl ⟨hskp, rfl, rfl⟩
  rw [if_neg hskp, if_neg hskp]
  have hterm : first.terminal = true := by
    rw [not_or, Bool.not_eq_false] at hskp
    exact hskp.2
  refine .inr ⟨hterm, ?_⟩
  split_ifs with hcomp
  · unfold settleInitialCompletion
    split_ifs with hrsp
    · refine ⟨.ambiguous, _, rfl, rfl, rfl, fun hcpl => ?_, fun _ => nofun⟩
      rw [hcpl.response] at hrsp
      cases hrsp
    · cases htranslated : initialTranslation s.stream.translation first with
      | error error =>
        exact ⟨.terminal .failed (usageOf first.value), none, rfl, rfl, rfl, fun _ =>
          ⟨.failed, rfl⟩,
          fun _ => nofun⟩
      | ok translation =>
        by_cases hobs : translatedChatOutputObserved translation = true
        · refine ⟨.terminal .completed (usageOf first.value), some translation, ?_, rfl, rfl,
            fun _ => ⟨.completed, rfl⟩, fun _ _ => ⟨hcomp, translation, rfl, hobs⟩⟩
          simp only [if_pos hobs]
          rfl
        · refine ⟨.terminal .failed (usageOf first.value), some translation, ?_, rfl, rfl,
            fun _ => ⟨.failed, rfl⟩, fun _ => nofun⟩
          simp only [if_neg hobs]
          rfl
  · obtain ⟨state, heq, hnotCompleted⟩ :=
      terminal_eq hmark hterm s.stream.lifecycle (usageOf first.value)
    refine ⟨.terminal state (usageOf first.value), _, heq, rfl, rfl, fun _ => ⟨state, rfl⟩, ?_⟩
    intro usage houtc
    cases houtc
    exact absurd rfl (hnotCompleted hcomp)

section

variable (h : SessionInvariant first s) (hmark : Marked first)

include h hmark

/-- The client cancels; this is where the completion has to be spared. -/
theorem SessionInvariant.cancels (left : Leftover) (hspr : ¬CompletionFailed first s) :
    SessionInvariant first (s.cancel first left) := by
  rcases settleInitial_cases s left hmark with
    ⟨hskp, heq, hnth⟩ | ⟨hterm, outcome, translation, hschd, hset, hhd, hgvs, hcomp⟩
  · have hlife : (s.cancel first left).stream.lifecycle = s.stream.lifecycle := by
      show (settleInitialTerminalOnCancel s.stream first left).lifecycle = _
      rw [heq]
    have hset : (s.cancel first left).stream.terminalSettled = s.stream.terminalSettled := by
      show (settleInitialTerminalOnCancel s.stream first left).terminalSettled = _
      rw [heq]
    have hhd : (s.cancel first left).handled = s.handled := by
      show s.handled ++ initialHandled s.stream first = _
      rw [hnth, List.append_nil]
    refine h.keeps [] (hhd.trans (List.append_nil _).symm) hlife hset
      (fun _ hsttl => absurd rfl hsttl) (fun _ => nofun) nofun h.firstReads
      (fun _ => List.forall_mem_nil _) ?_ fun hterm _ =>
        hskp.resolve_right (by rw [hterm]; exact Bool.noConfusion)
    rw [List.append_nil]
    intro entry hmem hbef hcpl
    rcases h.usage entry hmem hbef hcpl with hrec | ⟨_, huns, hobs, hfail⟩
    · exact .inl hrec
    · refine absurd ⟨hfail, huns, ?_, ?_⟩ hspr
      · rw [hobs]
        exact nofun
      · exact hskp.resolve_left (by rw [huns]; exact Bool.noConfusion)
  · refine h.schedules [⟨first, false, translation⟩] ?_ hschd (fun _ =>
      nofun) nofun h.firstReads
      (fun _ => List.forall_mem_singleton.mpr rfl) ?_ ?_ (List.forall_mem_singleton.mpr nofun)
      (fun hcpl _ => hgvs hcpl) fun _ _ => hset
    · show s.handled ++ initialHandled s.stream first = _
      rw [hhd]
    · exact fun usage heq => ⟨_, List.mem_singleton_self _, hcomp usage heq⟩
    · intro entry hmem _ hcpl _ _ _ _
      have honly := h.firstOnly hterm entry hmem
      rw [honly] at hcpl ⊢
      exact hgvs hcpl

/-- **One step** keeps the invariant, by what the step is. -/
theorem SessionInvariant.step (hstep : Step request first s action s')
    (hspr : Spares first s action) :
    SessionInvariant first s' := by
  cases hstep with
  | emitsQueued hidle hopen => exact h.emitsQueued request hidle hopen
  | handlesPending hatl hpend left =>
    have htk := taking_pending h hatl hpend
    obtain ⟨hcan, hrdg, translation, hhd, has⟩ :=
      handles_as left (handleStreamEvent_settles request htk.marked)
    exact h.handles hmark htk hcan hrdg hhd has
  | reads hatl hpend => exact h.reads hatl hpend
  | stops _ hcl | leaves _ hcl => exact h.idles hcl
  | receives hrdg hmarkedEvent left =>
    have htk := taking_received h hrdg hmarkedEvent
    obtain ⟨hcan, hrdg, translation, hhd, has⟩ :=
      handles_as left (handleStreamEvent_settles request hmarkedEvent)
    exact h.handles hmark htk hcan hrdg hhd has
  | ends hrdg failure => exact h.ends hmark hrdg failure
  | delivers hrec => exact h.delivers request hrec
  | returns hfail hopen => exact h.returns hfail hopen
  | settlesFailure hreturning signals => exact h.settlesFailure hmark hreturning signals
  | cancels _ _ left => exact h.cancels hmark left (hspr rfl)
  | settlesCancel hsttl => exact h.settlesCancel hmark hsttl

theorem SessionInvariant.steps (hstps : Steps request first (Spares first) s s') :
    SessionInvariant first s' := by
  induction hstps with
  | refl => exact h
  | tail _ hstep hspr ih => exact ih.step hmark hstep hspr

end

/-! ### The outcome -/

/-- One outcome is recorded when the stream is closed, and it is what the consumed events say. -/
structure Billed (first : ResponsesStreamEvent) (s : ChatSession) : Prop where
  atMostOne : s.stream.lifecycle.outcomes.length ≤ 1
  exactlyOne : s.stream.closed = true → s.cancelling ≠ .settling →
    s.stream.lifecycle.outcomes.length = 1
  completed : ∀ usage, .terminal .completed usage ∈ s.stream.lifecycle.outcomes →
    ∃ h ∈ s.handled, h.event.type = "response.completed" ∧
      ∃ t, h.translation = some t ∧ translatedChatOutputObserved t = true
  usage : ∀ event, Completes event →
    (event = first ∨ ∃ h ∈ s.handled, h.beforeCancel = true ∧ h.event = event) →
    ∀ outcome ∈ s.stream.lifecycle.outcomes, GivesUsageOf event outcome

/-- Whatever pulls, the upstream and the client do, the stream is billed once and rightly, if the
client does not cancel while a pull waits to settle a completion that failed. -/
theorem streamChatCompletions_billed (request : ChatRequest) (first : ResponsesStreamEvent)
    (hmark : Marked first) (id : String) (created : ℚ) (s : ChatSession)
    (hstps : Steps request first (Spares first) (.initial first id created) s) :
      Billed first s := by
  have hinv := (SessionInvariant.start hmark id created).steps hmark hstps
  refine ⟨?_, ?_, hinv.completed, ?_⟩
  · exact hinv.once.length_le
  · intro hcl hnotSettling
    obtain ⟨outcome, heq⟩ :=
      hinv.once.outcomes_of_recorded (hinv.closed hcl hnotSettling)
    rw [heq]
    rfl
  · intro event hcomp hcsm outcome hmem
    rcases hcsm with rfl | ⟨h, hhd, hbef, rfl⟩
    · exact hinv.firstUsage hcomp outcome hmem
    · rcases hinv.usage h hhd hbef hcomp with ⟨one, heq, hgvs⟩ | ⟨hopen, huns, _⟩
      · rw [heq] at hmem
        rw [List.mem_singleton.mp hmem]
        exact hgvs
      · have hunr := (hinv.isOpen hopen).unrecorded huns
        rw [hinv.once.outcomes_of_unrecorded hunr] at hmem
        cases hmem

def createdEvent : ResponsesStreamEvent where
  raw := ""
  value := .obj [("response", .obj [])]
  type := "response.created"
  terminal := false

/-- A completed response with a usage, whose function call has no arguments. -/
def unfinishedCompletion : ResponsesStreamEvent where
  raw := ""
  value := .obj [("response", .obj [
    ("usage", .obj [("input_tokens", .num 1), ("output_tokens", .num 1), ("total_tokens", .num 2)]),
    ("output", .arr [.obj [("type", .str "function_call")]])])]
  type := "response.completed"
  terminal := true

/-- A completed response with a usage and a text. -/
def finishedCompletion : ResponsesStreamEvent where
  raw := ""
  value := .obj [("response", .obj [
    ("usage", .obj [("input_tokens", .num 1), ("output_tokens", .num 1), ("total_tokens", .num 2)]),
    ("output", .arr [.obj [("type", .str "message"), ("content", .arr [
      .obj [("type", .str "output_text"), ("text", .str "hi")]])]])])]
  type := "response.completed"
  terminal := true

/-- A session that has handled the created response. -/
def createdSession (request : ChatRequest) : ChatSession :=
  (ChatSession.initial createdEvent "" 0).handles createdEvent ⟨.initial, []⟩
    ({ (ChatSession.initial createdEvent "" 0).stream with pending := none }.handleStreamEvent
      request
      createdEvent)

/-- A session that has handled another event after it. -/
def receivedSession (request : ChatRequest) (event : ResponsesStreamEvent) : ChatSession :=
  { createdSession request with pulling := .reading }.handles event ⟨.initial, []⟩
    ({ (createdSession request).stream with pending := none }.handleStreamEvent request event)

/-- The client cancels, and the cancellation is settled. -/
def cancelledSession (s : ChatSession) : ChatSession :=
  { s.cancel createdEvent ⟨.initial, []⟩ with
    stream := settleCancelled (s.cancel createdEvent ⟨.initial, []⟩).stream
    cancelling := .settled }

theorem cancelledSession_steps {event : ResponsesStreamEvent} (hmkd : Marked event)
    (hcancelling : (receivedSession ⟨"m", false⟩ event).cancelling = .notInvoked)
    (hopen : (receivedSession ⟨"m", false⟩ event).stream.closed = false)
    {P : ChatSession → Action → Prop} (hP : ∀ s action, action ≠ .cancel → P s action)
    (hcan : P (receivedSession ⟨"m", false⟩ event) .cancel) :
    Steps ⟨"m", false⟩ createdEvent P (.initial createdEvent "" 0)
      (cancelledSession (receivedSession ⟨"m", false⟩ event)) := by
  have hhnd : (createdSession ⟨"m", false⟩).pulling = .handled ∧
      (createdSession ⟨"m", false⟩).stream.closed = false ∧
      (createdSession ⟨"m", false⟩).stream.pending = none := by decide +kernel
  have hstr : Steps ⟨"m", false⟩ createdEvent P (.initial createdEvent "" 0)
      (.initial createdEvent "" 0) := .refl _
  have hcr : Step ⟨"m", false⟩ createdEvent (.initial createdEvent "" 0) .pull
      (createdSession ⟨"m", false⟩) := .handlesPending ⟨rfl, .inl ⟨rfl, rfl⟩⟩ rfl _
  have hrds : Step ⟨"m", false⟩ createdEvent (createdSession ⟨"m", false⟩) .pull
      { createdSession ⟨"m", false⟩ with pulling := .reading } :=
    .reads ⟨hhnd.2.1, .inr hhnd.1⟩ hhnd.2.2
  have hreceives : Step ⟨"m", false⟩ createdEvent
      { createdSession ⟨"m", false⟩ with pulling := .reading } .upstream
      (receivedSession ⟨"m", false⟩ event) := .receives rfl hmkd _
  have hcancels : Step ⟨"m", false⟩ createdEvent (receivedSession ⟨"m", false⟩ event) .cancel
      ((receivedSession ⟨"m", false⟩ event).cancel createdEvent ⟨.initial, []⟩) :=
    .cancels hcancelling hopen _
  have hreceived := ((hstr.tail hcr (hP _ _ nofun)).tail hrds (hP _ _ nofun)).tail hreceives
    (hP _ _ nofun)
  exact (hreceived.tail hcancels hcan).tail (.settlesCancel rfl) (hP _ _ nofun)

/-- The client cancels while a translated completion is recorded: its usage is the outcome. -/
theorem streamChatCompletions_billed_finished : ∃ s,
    Steps ⟨"m", false⟩ createdEvent (Spares createdEvent) (.initial createdEvent "" 0) s ∧
      s.cancelling = .settled ∧ s.stream.lifecycle.outcomes.length = 1 ∧
      (∃ h ∈ s.handled, h.beforeCancel = true ∧ h.event = finishedCompletion) ∧
      ∀ outcome ∈ s.stream.lifecycle.outcomes, GivesUsageOf finishedCompletion outcome := by
  have hmkd : Marked createdEvent ∧ Marked finishedCompletion := by
    unfold Marked
    decide
  have hreceived : (receivedSession ⟨"m", false⟩ finishedCompletion).cancelling = .notInvoked ∧
      (receivedSession ⟨"m", false⟩ finishedCompletion).stream.closed = false ∧
      (receivedSession ⟨"m", false⟩ finishedCompletion).stream.terminalSettled = true := by
    decide +kernel
  have hstps := cancelledSession_steps hmkd.2 hreceived.1 hreceived.2.1
    (P := Spares createdEvent) (fun _ _ hoth hcan => absurd hcan hoth) fun _ hfail => by
      rw [hfail.2.1] at hreceived
      cases hreceived.2.2
  have hcsm : ∃ h ∈ (cancelledSession (receivedSession ⟨"m",
    false⟩ finishedCompletion)).handled,
      h.beforeCancel = true ∧ h.event = finishedCompletion := by decide +kernel
  have hbld := streamChatCompletions_billed ⟨"m", false⟩ createdEvent hmkd.1 "" 0 _ hstps
  exact ⟨_, hstps, rfl, hbld.exactlyOne (by decide +kernel) nofun, hcsm,
    hbld.usage finishedCompletion ⟨rfl, by decide⟩ (.inr hcsm)⟩

/-- The client cancels while the pull waits to settle the failed completion: the cancellation is
recorded, without the usage. -/
theorem streamChatCompletions_not_billed : ∃ s,
    Steps ⟨"m", false⟩ createdEvent (fun _ _ => True) (.initial createdEvent "" 0) s ∧
      s.stream.lifecycle.outcomes = [.cancelled] ∧
      (∃ h ∈ s.handled, h.beforeCancel = true ∧ h.event = unfinishedCompletion) ∧
      ¬Billed createdEvent s := by
  have hmkd : Marked unfinishedCompletion := by
    unfold Marked
    decide
  have hfail : (receivedSession ⟨"m", false⟩ unfinishedCompletion).cancelling = .notInvoked ∧
      (receivedSession ⟨"m", false⟩ unfinishedCompletion).stream.closed = false := by decide +kernel
  have hstps := cancelledSession_steps hmkd hfail.1 hfail.2 (P := fun _ _ => True)
    (fun _ _ _ => trivial) trivial
  have houtcomes : (cancelledSession
      (receivedSession ⟨"m", false⟩ unfinishedCompletion)).stream.lifecycle.outcomes =
        [.cancelled] := by decide +kernel
  have hcsm : ∃ h ∈ (cancelledSession
      (receivedSession ⟨"m", false⟩ unfinishedCompletion)).handled,
      h.beforeCancel = true ∧ h.event = unfinishedCompletion := by decide +kernel
  refine ⟨_, hstps, houtcomes, hcsm, fun hbld => ?_⟩
  obtain ⟨state, heq⟩ := hbld.usage unfinishedCompletion ⟨rfl, by decide⟩ (.inr hcsm)
    .cancelled (houtcomes ▸ List.mem_singleton_self _)
  cases heq

end UbqGateway.Chat
