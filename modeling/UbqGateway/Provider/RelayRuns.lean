import UbqGateway.DeepSeek.StreamTerminals
import UbqGateway.Provider.StreamRelay

/-!
# Runs of the Responses relay

What a client received and what the relay recorded agree, in every run in which the client does not
cancel while `finishStream` awaits `recordCompletionUsage` (`run_consistent_iff`).  There the
terminal event is delivered and the stream is not yet settled, so that a cancellation is recorded
for a completed stream.
-/

namespace UbqGateway.Provider

open Relay

open DeepSeek (Translator StreamState StreamEvent isTerminal)

/-! ### The log -/

namespace RelayEntry

def event? : RelayEntry → Option RelayEvent
  | delivered _ event => some event
  | recorded _ => none

def number? : RelayEntry → Option ℕ
  | delivered sequenceNumber _ => some sequenceNumber
  | recorded _ => none

def type? : RelayEntry → Option StreamTerminalType
  | delivered _ _ => none
  | recorded terminalType => some terminalType

end RelayEntry

/-- The events that a client received. -/
def events (log : List RelayEntry) : List RelayEvent := log.filterMap RelayEntry.event?

/-- The sequence numbers that a client received. -/
def numbers (log : List RelayEntry) : List ℕ := log.filterMap RelayEntry.number?

def records (log : List RelayEntry) : List StreamTerminalType := log.filterMap RelayEntry.type?

@[simp] theorem events_append (log rest : List RelayEntry) :
    events (log ++ rest) = events log ++ events rest :=
  List.filterMap_append

@[simp] theorem numbers_append (log rest : List RelayEntry) :
    numbers (log ++ rest) = numbers log ++ numbers rest :=
  List.filterMap_append

@[simp] theorem records_append (log rest : List RelayEntry) :
    records (log ++ rest) = records log ++ records rest :=
  List.filterMap_append

@[simp] theorem events_recorded (type : StreamTerminalType) : events [.recorded type] = [] := rfl

@[simp] theorem numbers_recorded (type : StreamTerminalType) : numbers [.recorded type] = [] := rfl

/-- No event ends the response. -/
def Quiet (events : List RelayEvent) : Prop := ∀ event ∈ events, event.terminalType = none

/-- Only the last event may end the response. -/
def EndsLast (events : List RelayEvent) : Prop :=
  events.Pairwise fun earlier _ => earlier.terminalType = none

/-- When a cancellation is recorded, no event has ended the response. -/
def CancelledFirst (log : List RelayEntry) : Prop :=
  ∀ before after, log = before ++ .recorded .cancelled :: after → Quiet (events before)

theorem Quiet.append {first second : List RelayEvent} (h : Quiet first) (h' : Quiet second) :
    Quiet (first ++ second) := by
  intro event hmem
  rcases List.mem_append.mp hmem with hmem | hmem
  · exact h event hmem
  · exact h' event hmem

theorem Quiet.endsLast {events : List RelayEvent} (h : Quiet events) (event : RelayEvent) :
    EndsLast (events ++ [event]) := by
  refine List.pairwise_append.mpr ⟨?_, List.pairwise_singleton _ _, fun earlier hmem _ _ =>
    h earlier hmem⟩
  exact List.pairwise_iff_forall_sublist.mpr fun {earlier later} hsub =>
    h earlier (hsub.subset List.mem_cons_self)

theorem Quiet.endsLast_self {events : List RelayEvent} (h : Quiet events) : EndsLast events :=
  List.pairwise_iff_forall_sublist.mpr fun {earlier _} hsub =>
    h earlier (hsub.subset List.mem_cons_self)

theorem CancelledFirst.of_quiet (h : Quiet (events log)) : CancelledFirst log := by
  rintro before after rfl event hmem
  refine h event ?_
  rw [events_append]
  exact List.mem_append_left _ hmem

theorem CancelledFirst.of_not_mem (h : .cancelled ∉ records log) : CancelledFirst log := by
  rintro before after rfl
  refine absurd ?_ h
  rw [records_append]
  exact List.mem_append_right _ List.mem_cons_self

theorem quiet_of_cancelledFirst (h : CancelledFirst (log ++ [.recorded .cancelled])) :
    Quiet (events log) :=
  h log [] rfl

/-! ### What a client and the records say of a stream -/

/-- What was delivered and what was recorded agree. -/
structure Consistent (s : RelayState) : Prop where
  numbered : numbers s.log = List.range (events s.log).length
  endsLast : EndsLast (events s.log)
  atMostOnce : (records s.log).length ≤ 1
  recorded : s.closed = true ∨ s.cancelled = true → (records s.log).length = 1
  completed : .completed ∈ records s.log →
    ∃ event ∈ events s.log, event.terminalType = some .completed
  incomplete : .incomplete ∈ records s.log →
    ∃ event ∈ events s.log, event.terminalType = some .incomplete
  cancelledFirst : CancelledFirst s.log

/-- No cancellation lands while `finishStream` awaits `recordCompletionUsage`. -/
def SparesCompletion (r : Relay) : RelayState → List RelayTurn → Prop
  | _, [] => True
  | s, turn :: turns =>
    (turn = .cancel → s.awaiting ≠ .completionUsage) ∧ SparesCompletion r (r.turn s turn) turns

/-- The numbers of the delivered events, which every turn extends. -/
structure Numbered (s : RelayState) : Prop where
  numbers : numbers s.log = List.range s.sequenceNumber
  events : (events s.log).length = s.sequenceNumber

/-- A stream that waits for this has neither recorded nor delivered its end. -/
def Awaiting.beforeEnd : Awaiting → Bool
  | .refusalUsage _ _ => false
  | .completionUsage => false
  | .errorUsage => false
  | _ => true

/-- The stream runs: nothing has ended it. -/
structure Live (s : RelayState) : Prop where
  numbered : Numbered s
  settled : s.settled = false
  closed : s.closed = false
  cancelled : s.cancelled = false
  unfinished : s.translator.completed = false
  unrecorded : records s.log = []
  quiet : Quiet (events s.log)
  awaiting : s.awaiting.beforeEnd = true

/-- `response.completed` is delivered and its usage is being recorded. -/
structure Completing (s : RelayState) : Prop where
  numbered : Numbered s
  settled : s.settled = false
  closed : s.closed = false
  cancelled : s.cancelled = false
  unrecorded : records s.log = []
  awaiting : s.awaiting = .completionUsage
  delivered : ∃ before event, events s.log = before ++ [event] ∧ Quiet before ∧
    event.terminalType = some .completed

/-- A failure is recorded and its event is not yet delivered. -/
structure Failing (s : RelayState) : Prop where
  numbered : Numbered s
  settled : s.settled = true
  closed : s.closed = false
  cancelled : s.cancelled = false
  quiet : Quiet (events s.log)
  recorded : ∃ type, records s.log = [type] ∧ type ≠ .completed ∧ type ≠ .incomplete ∧
    type ≠ .cancelled
  awaiting : s.awaiting = .errorUsage ∨ ∃ code message, s.awaiting = .refusalUsage code message

/-- The stream has ended, so that nothing is delivered and nothing recorded any more. -/
structure Ended (s : RelayState) : Prop where
  numbered : Numbered s
  settled : s.settled = true
  stopped : s.closed = true ∨ s.cancelled = true
  endsLast : EndsLast (events s.log)
  recorded : ∃ type, records s.log = [type] ∧
    (type = .completed ∨ type = .incomplete →
      ∃ event ∈ events s.log, event.terminalType = some type)
  awaiting : s.awaiting = .completionUsage → ¬ CancelledFirst s.log

/-- The stages that a relay goes through. -/
inductive Staged (s : RelayState) : Prop
  | live (h : Live s)
  | completing (h : Completing s)
  | failing (h : Failing s)
  | ended (h : Ended s)

/-- What the stages of a relay add up to. -/
theorem Staged.consistent (h : Staged s) (hcancelledFirst : CancelledFirst s.log) :
    Consistent s := by
  have hnum : Numbered s := by
    cases h with
    | live h | completing h | failing h | ended h => exact h.numbered
  have hctd : numbers s.log = List.range (events s.log).length := by
    rw [hnum.events]
    exact hnum.numbers
  cases h with
  | live h =>
    refine ⟨hctd, h.quiet.endsLast_self, ?_, ?_, ?_, ?_, hcancelledFirst⟩
    · simp [h.unrecorded]
    · simp [h.closed, h.cancelled]
    · simp [h.unrecorded]
    · simp [h.unrecorded]
  | completing h =>
    obtain ⟨before, event, hdlv, hqt, -⟩ := h.delivered
    refine ⟨hctd, ?_, ?_, ?_, ?_, ?_, hcancelledFirst⟩
    · rw [hdlv]
      exact hqt.endsLast event
    · simp [h.unrecorded]
    · simp [h.closed, h.cancelled]
    · simp [h.unrecorded]
    · simp [h.unrecorded]
  | failing h =>
    obtain ⟨type, hrec, hcomp, hinc, -⟩ := h.recorded
    refine ⟨hctd, h.quiet.endsLast_self, ?_, ?_, ?_, ?_, hcancelledFirst⟩
    · simp [hrec]
    · simp [hrec]
    · simp [hrec, hcomp.symm]
    · simp [hrec, hinc.symm]
  | ended h =>
    obtain ⟨type, hrec, hbacked⟩ := h.recorded
    refine ⟨hctd, h.endsLast, ?_, ?_, ?_, ?_, hcancelledFirst⟩
    · simp [hrec]
    · simp [hrec]
    · intro hmem
      obtain rfl : StreamTerminalType.completed = type := by simpa [hrec] using hmem
      exact hbacked (.inl rfl)
    · intro hmem
      obtain rfl : StreamTerminalType.incomplete = type := by simpa [hrec] using hmem
      exact hbacked (.inr rfl)

/-! ### What is emitted -/

section

/-- What a client receives when the controller accepts events. -/
structure Emits (sent : List RelayEvent) (s s' : RelayState) : Prop where
  events : events s'.log = events s.log ++ sent
  records : records s'.log = records s.log
  numbered : Numbered s → Numbered s'
  settled : s'.settled = s.settled
  closed : s'.closed = s.closed
  cancelled : s'.cancelled = s.cancelled
  completed : s'.translator.completed = s.translator.completed

theorem emit_of_open (sent : List RelayEvent) (hcl : s.closed = false)
    (hcan : s.cancelled = false) :
    ∃ s', RelayState.emit sent s = .ok s' ∧ Emits sent s s' := by
  induction sent generalizing s with
  | nil =>
    refine ⟨s, rfl, ?_⟩
    exact ⟨(List.append_nil _).symm, rfl, id, rfl, rfl, rfl, rfl⟩
  | cons event _ ih =>
    obtain ⟨s', hemd, hemit⟩ := ih (s := s.enqueue event) hcl hcan
    have hacc : ¬ (s.closed = true ∨ s.cancelled = true) := by simp [hcl, hcan]
    refine ⟨s', (if_neg hacc).trans hemd, ?_⟩
    have hevents_enqueue : events (s.enqueue event).log = events s.log ++ [event] :=
      events_append ..
    have hnumbers_enqueue : numbers (s.enqueue event).log = numbers s.log ++ [s.sequenceNumber] :=
      numbers_append ..
    have hrecords_enqueue : records (s.enqueue event).log = records s.log :=
      (records_append ..).trans (List.append_nil _)
    refine ⟨?_, hemit.records.trans hrecords_enqueue, fun h => hemit.numbered ⟨?_, ?_⟩,
      hemit.settled,
      hemit.closed, hemit.cancelled, hemit.completed⟩
    · rw [hemit.events, hevents_enqueue, List.append_assoc, List.singleton_append]
    · rw [hnumbers_enqueue, h.numbers]
      exact List.range_succ.symm
    · rw [hevents_enqueue, List.length_append, h.events]
      rfl

theorem emit_of_stopped (sent : List RelayEvent) (hstopped : s.closed = true ∨ s.cancelled = true) :
    RelayState.emit sent s = .ok s ∨ RelayState.emit sent s = .error s := by
  cases sent with
  | nil => exact .inl rfl
  | cons event rest => exact .inr (if_pos hstopped)

theorem quiet_translated {sent : List StreamEvent} (h : ∀ event ∈ sent, isTerminal event = false) :
    Quiet (sent.map .translated) := by
  intro event hmem
  obtain ⟨inner, hin, rfl⟩ := List.mem_map.mp hmem
  have hrng := h inner hin
  cases inner with
  | terminal => cases hrng
  | _ => rfl

def terminalTypeOf : DeepSeek.TerminalKind → StreamTerminalType
  | .completed => .completed
  | .incomplete => .incomplete
  | .failed => .failed

theorem finish_translated (t : Translator) {state : StreamState}
    (hunfinished : state.completed = false) :
    ∃ before event, (t.finish state).2.map RelayEvent.translated = before ++ [event] ∧
      Quiet before ∧
      event.terminalType = some (terminalTypeOf (t.terminalKind state)) := by
  refine ⟨(t.finishItems state).2.map .translated,
    .translated (.terminal { t.terminalEnvelope state with
    usage := (t.finishItems state).1.usage } (t.finishItems state).1.output), ?_, ?_, ?_⟩
  · rw [t.finish_eq state hunfinished, List.map_append]
    rfl
  · exact quiet_translated (t.keeps_finishItems state).quiet
  · have hsts := t.status_terminalEnvelope state
    unfold RelayEvent.terminalType terminalTypeOf
    simp only [hsts]
    cases t.terminalKind state <;> rfl

/-! ### Ends of a stream -/

theorem Numbered.record (h : Numbered s) (s' : RelayState) (type : StreamTerminalType)
    (hlog : s'.log = s.log ++ [.recorded type]) (hnbr : s'.sequenceNumber = s.sequenceNumber) :
    Numbered s' := by
  refine ⟨?_, ?_⟩
  · rw [hlog, numbers_append, numbers_recorded, List.append_nil, hnbr]
    exact h.numbers
  · rw [hlog, events_append, events_recorded, List.append_nil, hnbr]
    exact h.events

/-- What a state is after a turn that spares the completion. -/
def Fine (s : RelayState) : Prop := Staged s ∧ CancelledFirst s.log

theorem Live.fine (h : Live s) : Fine s := ⟨.live h, .of_quiet h.quiet⟩

theorem Completing.fine (h : Completing s) : Fine s :=
  ⟨.completing h, .of_not_mem (by simp [h.unrecorded])⟩

theorem Failing.fine (h : Failing s) : Fine s := ⟨.failing h, .of_quiet h.quiet⟩

theorem Live.stopped (h : Live s) (type : StreamTerminalType) (hcomp : type ≠ .completed)
    (hinc : type ≠ .incomplete) (hlog : s'.log = s.log ++ [.recorded type])
    (hnbr : s'.sequenceNumber = s.sequenceNumber) (hset : s'.settled = true)
    (hstopped : s'.closed = true ∨ s'.cancelled = true)
      (hawaiting : s'.awaiting ≠ .completionUsage) : Fine s' := by
  have hqt : Quiet (events s'.log) := by
    rw [hlog, events_append, events_recorded, List.append_nil]
    exact h.quiet
  refine ⟨.ended ⟨h.numbered.record _ _ hlog hnbr, hset, hstopped, hqt.endsLast_self,
    ⟨type, ?_, ?_⟩, ?_⟩,
    .of_quiet hqt⟩
  · rw [hlog, records_append, h.unrecorded]
    rfl
  · rintro (rfl | rfl)
    · exact absurd rfl hcomp
    · exact absurd rfl hinc
  · exact fun hwait => absurd hwait hawaiting

theorem ended_of_delivered (hnum : Numbered s') (hset : s'.settled = true)
    (hcl : s'.closed = true) (hdlv : events s'.log = before ++ [event])
    (hqt : Quiet before)
    (hsh : type = .completed ∨ type = .incomplete → event.terminalType = some type)
    (hrec : records s'.log = [type]) (hkept : type ≠ .cancelled)
    (hawaiting : s'.awaiting ≠ .completionUsage) : Fine s' := by
  have hfst : CancelledFirst s'.log := .of_not_mem (by simp [hrec, hkept.symm])
  refine ⟨.ended ⟨hnum, hset, .inl hcl, ?_, ⟨type, hrec, fun hbacked => ⟨event, ?_, hsh hbacked⟩⟩,
    ?_⟩, hfst⟩
  · rw [hdlv]
    exact hqt.endsLast event
  · rw [hdlv]
    exact List.mem_append_right _ List.mem_cons_self
  · exact fun hwait => absurd hwait hawaiting

end

/-! ### Turns of a live stream -/

variable {awaiting : Awaiting}

section

variable {r : Relay}

theorem settleTerminal_of_unsettled (type : StreamTerminalType) (h : s.settled = false) :
    RelayState.settleTerminal type s = { s with settled := true, log := s.log ++
      [.recorded type] } :=
  if_neg (by rw [h]; exact Bool.false_ne_true)

theorem settleTerminal_of_settled (type : StreamTerminalType) (h : s.settled = true) :
    RelayState.settleTerminal type s = s :=
  if_pos h

section

variable (h : Live s)

include h

theorem Live.await (hearl : awaiting.beforeEnd = true) : Live (s.await awaiting) :=
  { h with numbered := ⟨h.numbered.numbers, h.numbered.events⟩, awaiting := hearl }

theorem Live.emptyCompletion : Fine (RelayState.closeAfter (emitEmptyCompletionFailure s)) := by
  have hsts := settleTerminal_of_unsettled .failed h.settled
  obtain ⟨s', hemd, hemit⟩ := emit_of_open
    (s := { RelayState.settleTerminal .failed s with translator := (Translator.startEvents
      s.translator).1 })
    ((Translator.startEvents s.translator).2.map .translated ++ [emptyCompletionFailure])
    (by rw [hsts]; exact h.closed) (by rw [hsts]; exact h.cancelled)
  have heq : emitEmptyCompletionFailure s = .ok s' := hemd
  rw [heq]
  have hstr : Quiet ((Translator.startEvents s.translator).2.map .translated) :=
    quiet_translated (Translator.keeps_startEvents s.translator).quiet
  have hrec : records s'.log = [.failed] := by
    rw [hemit.records]
    show records (RelayState.settleTerminal .failed s).log = _
    rw [hsts]
    show records (s.log ++ [_]) = _
    rw [records_append, h.unrecorded]
    rfl
  have hdlv : events s'.log =
      (events s.log ++ (Translator.startEvents s.translator).2.map .translated) ++
        [emptyCompletionFailure] := by
    rw [hemit.events]
    show events (RelayState.settleTerminal .failed s).log ++ _ = _
    rw [hsts, List.append_assoc]
    show events (s.log ++ [_]) ++ _ = _
    rw [events_append, events_recorded, List.append_nil]
  have hnum : Numbered s' := by
    refine hemit.numbered (h.numbered.record _ .failed ?_ ?_)
    · rw [hsts]
    · rw [hsts]
  have hset : s'.settled = true := by
    rw [hemit.settled, hsts]
  exact ended_of_delivered
    ⟨hnum.numbers, hnum.events⟩ hset rfl hdlv (h.quiet.append hstr) (fun _ =>
      rfl) hrec nofun nofun

/-- The finish is given out and settled. -/
theorem Live.emitFinish :
    Fine (settleFinish (r.translator.terminalKind s.translator) (r.emitFinish s)) := by
  obtain ⟨before, event, hsent, hqt, hsh⟩ := finish_translated r.translator h.unfinished
  obtain ⟨s', hemd, hemit⟩ := emit_of_open
    (s := { s with translator := (r.translator.finish s.translator).1 })
    ((r.translator.finish s.translator).2.map .translated) h.closed h.cancelled
  have heq : r.emitFinish s = .ok s' := hemd
  rw [heq]
  have hnum : Numbered s' := hemit.numbered ⟨h.numbered.numbers, h.numbered.events⟩
  have huns : s'.settled = false := hemit.settled.trans h.settled
  have hdlv : events s'.log = (events s.log ++ before) ++ [event] := by
    rw [hemit.events, hsent, List.append_assoc]
  have hunr : records s'.log = [] := hemit.records.trans h.unrecorded
  -- the two kinds that settle in the turn that sends the terminal event
  have hsts : ∀ type : StreamTerminalType, event.terminalType = some type → type ≠ .cancelled →
      Fine (RelayState.closeAfter (.ok (RelayState.settleTerminal type s'))) := by
    intro type hsh hkept
    rw [settleTerminal_of_unsettled type huns]
    have hnum' := hnum.record { s' with settled := true, log := s'.log ++ [.recorded type] } type
      rfl
      rfl
    refine ended_of_delivered ⟨hnum'.numbers, hnum'.events⟩ rfl rfl
      ?_ (h.quiet.append hqt) (fun _ => hsh) ?_ hkept nofun
    · show events (s'.log ++ [_]) = _
      rw [events_append, events_recorded, List.append_nil, hdlv]
    · show records (s'.log ++ [_]) = _
      rw [records_append, hunr]
      rfl
  cases hkind : r.translator.terminalKind s.translator with
  | completed =>
    rw [hkind] at hsh
    refine Completing.fine ⟨⟨hnum.numbers, hnum.events⟩, huns, hemit.closed.trans h.closed,
      hemit.cancelled.trans h.cancelled, hunr, rfl, ?_⟩
    exact ⟨events s.log ++ before, event, hdlv, h.quiet.append hqt, hsh⟩
  | incomplete =>
    rw [hkind] at hsh
    exact hsts .incomplete hsh nofun
  | failed =>
    rw [hkind] at hsh
    exact hsts .failed hsh nofun

theorem Live.finishStream : Fine (r.finishStream s) := by
  unfold Relay.finishStream
  rw [if_neg (by rw [h.settled]; exact Bool.false_ne_true)]
  split_ifs with hemp
  · exact h.emptyCompletion
  · exact h.emitFinish

theorem Live.openResponse (response : UpstreamResponse) : Fine (openResponse response s) := by
  unfold Relay.openResponse
  by_cases hend : s.streamEnded = true
  · rw [if_pos hend]
    exact (h.await rfl).fine
  rw [if_neg hend]
  split_ifs with href
  · unfold Relay.refuseStream
    rw [if_neg (by rw [h.settled]; exact Bool.false_ne_true)]
    exact (h.await rfl).fine
  · exact Live.fine { h with
      numbered := ⟨h.numbered.numbers, h.numbered.events⟩
      awaiting := rfl }

theorem Live.pull : Fine (pull s) := by
  unfold Relay.pull
  rw [if_neg (by rw [h.settled]; exact Bool.false_ne_true)]
  by_cases hiterating : s.hasIterator = true
  · rw [if_pos hiterating]
    exact (h.await rfl).fine
  rw [if_neg hiterating]
  split_ifs with hend
  · exact h.fine
  cases s.upstream with
  | pending | rejected => exact (h.await rfl).fine
  | responded response => exact h.openResponse response

theorem Live.sourceSettled : Fine (sourceSettled s) := by
  unfold Relay.sourceSettled
  cases s.upstream with
  | pending => exact h.fine
  | responded response => exact h.openResponse response
  | rejected => exact (h.await rfl).fine

theorem Live.refusalRead (response : UpstreamResponse) (gatewayDeadline : Bool)
    (code message : Option String) : Fine
      (r.refusalRead response gatewayDeadline code message s) := by
  unfold Relay.refusalRead
  by_cases habandoned : response.status = 499 ∨ gatewayDeadline = true
  · rw [if_pos habandoned, settleTerminal_of_unsettled _ h.settled]
    refine h.stopped _ ?_ ?_ rfl rfl rfl (.inl rfl) nofun
    · split_ifs <;> exact nofun
    · split_ifs <;> exact nofun
  · rw [if_neg habandoned, settleTerminal_of_unsettled _ h.settled]
    have hnum := h.numbered.record
      { s with settled := true, log := s.log ++ [.recorded .failed] } .failed rfl rfl
    refine Failing.fine ⟨⟨hnum.numbers, hnum.events⟩, rfl, h.closed, h.cancelled, ?_,
      ⟨.failed, ?_, nofun, nofun, nofun⟩,
      .inr ⟨_, _, rfl⟩⟩
    · show Quiet (events (s.log ++ [_]))
      rw [events_append, events_recorded, List.append_nil]
      exact h.quiet
    · show records (s.log ++ [_]) = _
      rw [records_append, h.unrecorded]
      rfl

theorem Live.failStream (terminalType : ErrorTerminalType) : Fine (failStream terminalType s) := by
  have houtc : terminalType.terminalType ≠ .completed ∧
    terminalType.terminalType ≠ .incomplete := by
    cases terminalType <;> exact ⟨nofun, nofun⟩
  unfold Relay.failStream
  rw [if_neg (by rw [h.settled]; exact Bool.false_ne_true), settleTerminal_of_unsettled _ h.settled]
  split_ifs with hcan
  · exact h.stopped _ houtc.1 houtc.2 rfl rfl rfl (.inl rfl) nofun
  · have hnum := h.numbered.record
      { s with settled := true, log := s.log ++ [.recorded terminalType.terminalType] } _ rfl rfl
    refine Failing.fine ⟨⟨hnum.numbers, hnum.events⟩, rfl, h.closed, h.cancelled, ?_,
      ⟨terminalType.terminalType, ?_, houtc.1, houtc.2, ?_⟩, .inl rfl⟩
    · show Quiet (events (s.log ++ [_]))
      rw [events_append, events_recorded, List.append_nil]
      exact h.quiet
    · show records (s.log ++ [_]) = _
      rw [records_append, h.unrecorded]
      rfl
    · cases terminalType with
      | cancelled => exact absurd rfl hcan
      | _ => exact nofun

theorem Live.emitChunk (value : Json) : Fine (r.emitChunk value s) := by
  have hkps := r.translator.keeps_push s.translator value
  obtain ⟨s', hemd, hemit⟩ := emit_of_open
    (s := { s with translator := (r.translator.push value s.translator).1 })
    ((r.translator.push value s.translator).2.map .translated) h.closed h.cancelled
  unfold Relay.emitChunk
  rw [hemd]
  have hnum := hemit.numbered ⟨h.numbered.numbers, h.numbered.events⟩
  have hlive : Live (s'.await .nothing) := by
    refine ⟨⟨hnum.numbers, hnum.events⟩, hemit.settled.trans h.settled, hemit.closed.trans h.closed,
      hemit.cancelled.trans h.cancelled, ?_, hemit.records.trans h.unrecorded, ?_, rfl⟩
    · exact hemit.completed.trans (hkps.completed.trans h.unfinished)
    · show Quiet (events s'.log)
      rw [hemit.events]
      exact h.quiet.append (quiet_translated hkps.quiet)
  show Fine (s'.await _)
  split_ifs
  · exact Live.fine { hlive with numbered := ⟨hnum.numbers, hnum.events⟩, awaiting := rfl }
  · exact hlive.fine

theorem Live.nextFrame (frame : NextFrame) : Fine (r.nextFrame s frame) := by
  cases frame with
  | ended => exact h.finishStream
  | done =>
    exact Live.fine { h with
      numbered := ⟨h.numbered.numbers, h.numbered.events⟩
      awaiting := rfl }
  | comment => exact h.fine
  | chunk value => exact h.emitChunk value
  | failed => exact (h.await rfl).fine

theorem Live.cancel : Fine (cancel s) := by
  unfold Relay.cancel
  rw [if_neg (by rw [h.cancelled]; exact Bool.false_ne_true)]
  have huns : ({ s with cancelled := true } : RelayState).settled = false := h.settled
  rw [settleTerminal_of_unsettled _ huns]
  refine h.stopped .cancelled nofun nofun rfl rfl rfl (.inr rfl) ?_
  intro hwait
  have hearl := h.awaiting
  rw [show s.awaiting = .completionUsage from hwait] at hearl
  cases hearl

/-- **The step** of a live relay. -/
theorem Live.turn (turn : RelayTurn) : Fine (r.turn s turn) := by
  cases turn with
  | pull =>
    simp only [Relay.turn]
    split_ifs
    · exact h.pull
    · exact h.fine
  | cancel => exact h.cancel
  | abortDownstream =>
    exact Live.fine { h with numbered := ⟨h.numbered.numbers, h.numbered.events⟩ }
  | abortRequest => exact Live.fine { h with numbered := ⟨h.numbered.numbers, h.numbered.events⟩ }
  | resolve | reject =>
    simp only [Relay.turn]
    split_ifs
    · exact Live.fine { h with numbered := ⟨h.numbered.numbers, h.numbered.events⟩ }
    · exact h.fine
  | sourceSettled =>
    simp only [Relay.turn]
    split_ifs
    · exact h.sourceSettled
    · exact h.fine
  | refusalRead code message =>
    simp only [Relay.turn]
    cases s.awaiting with
    | refusal response gatewayDeadline => exact h.refusalRead response gatewayDeadline code message
    | _ => exact h.fine
  | usageRecorded =>
    simp only [Relay.turn]
    have hearl := h.awaiting
    cases hawaits : s.awaiting with
    | refusalUsage | completionUsage | errorUsage =>
      rw [hawaits] at hearl
      cases hearl
    | _ => exact h.fine
  | next frame =>
    simp only [Relay.turn]
    split_ifs
    · exact h.nextFrame frame
    · exact h.fine
  | returned =>
    simp only [Relay.turn]
    split_ifs
    · exact h.finishStream
    · exact (h.await rfl).fine
    · exact h.fine
  | handled terminalType =>
    simp only [Relay.turn]
    split_ifs
    · exact h.failStream terminalType
    · exact h.fine

end

end

/-! ### Turns of a stream that is settled -/

section

variable {r : Relay}

/-- What a stream that has ended keeps. -/
structure Frozen (s s' : RelayState) : Prop where
  log : s'.log = s.log
  number : s'.sequenceNumber = s.sequenceNumber
  settled : s'.settled = true
  stopped : s'.closed = true ∨ s'.cancelled = true
  awaiting : s'.awaiting = .completionUsage → s.awaiting = .completionUsage

section

variable (h : Ended s)

include h

theorem Ended.frozen (hfrz : Frozen s s') : Ended s' where
  numbered := by
    refine ⟨?_, ?_⟩
    · rw [hfrz.log, hfrz.number]
      exact h.numbered.numbers
    · rw [hfrz.log, hfrz.number]
      exact h.numbered.events
  settled := hfrz.settled
  stopped := hfrz.stopped
  endsLast := by
    rw [hfrz.log]
    exact h.endsLast
  recorded := by
    rw [hfrz.log]
    exact h.recorded
  awaiting := by
    rw [hfrz.log]
    exact fun hwait => h.awaiting (hfrz.awaiting hwait)

theorem Ended.keeps : Frozen s s := ⟨rfl, rfl, h.settled, h.stopped, id⟩

theorem Ended.await (hdiff : awaiting ≠ .completionUsage) : Frozen s (s.await awaiting) :=
  ⟨rfl, rfl, h.settled, h.stopped, fun hwait => absurd hwait hdiff⟩

theorem Ended.close (hdiff : awaiting ≠ .completionUsage) :
    Frozen s ((RelayState.closeController s).await awaiting) :=
  ⟨rfl, rfl, h.settled, .inl rfl, fun hwait => absurd hwait hdiff⟩

theorem Ended.finishStream : Frozen s (r.finishStream s) := by
  unfold Relay.finishStream
  rw [if_pos h.settled]
  exact h.await nofun

theorem Ended.openResponse (response : UpstreamResponse) : Frozen s (openResponse response s) := by
  have hend : s.streamEnded = true := by simp [RelayState.streamEnded, h.settled]
  unfold Relay.openResponse
  rw [if_pos hend]
  exact h.await nofun

theorem Ended.emitChunk (value : Json) : Frozen s (r.emitChunk value s) := by
  unfold Relay.emitChunk
  have hstopped : ({ s with translator := (r.translator.push value s.translator).1 } :
    RelayState).closed = true ∨
      ({ s with translator := (r.translator.push value s.translator).1 } : RelayState).cancelled =
        true := h.stopped
  rcases emit_of_stopped ((r.translator.push value s.translator).2.map .translated)
    hstopped with hemit | hemit
  · rw [hemit]
    refine ⟨rfl, rfl, h.settled, h.stopped, fun hwait => ?_⟩
    revert hwait
    show (if _ then Awaiting.frame else Awaiting.nothing) = _ → _
    split_ifs <;> exact nofun
  · rw [hemit]
    exact ⟨rfl, rfl, h.settled, h.stopped, nofun⟩

theorem Ended.nextFrame (frame : NextFrame) : Frozen s (r.nextFrame s frame) := by
  cases frame with
  | ended => exact h.finishStream
  | done => exact ⟨rfl, rfl, h.settled, h.stopped, nofun⟩
  | comment => exact h.keeps
  | chunk value => exact h.emitChunk value
  | failed => exact h.await nofun

theorem Ended.usageRecorded : Frozen s (r.turn s .usageRecorded) := by
  simp only [turn]
  cases s.awaiting with
  | refusalUsage code message =>
    simp only [emitRefusal]
    rcases emit_of_stopped [.failed code message] h.stopped with hemit | hemit
    · rw [hemit]
      exact h.close nofun
    · rw [hemit]
      exact h.await nofun
  | completionUsage =>
    simp only [settleTerminal_of_settled _ h.settled]
    exact h.close nofun
  | errorUsage =>
    simp only [emitFailure]
    rcases emit_of_stopped [.failed r.streamErrorCode upstreamStreamRefusalMessage]
      h.stopped with hemit | hemit
    · rw [hemit]
      exact h.close nofun
    · rw [hemit]
      exact h.close nofun
  | _ => exact h.keeps

/-- **The step** of a relay that has ended, which changes nothing. -/
theorem Ended.turn (turn : RelayTurn) : Frozen s (r.turn s turn) := by
  cases turn with
  | pull =>
    have hidle : pull s = s := if_pos h.settled
    simp only [Relay.turn, hidle, ite_self]
    exact h.keeps
  | cancel =>
    simp only [Relay.turn, Relay.cancel]
    split_ifs with hcan
    · exact h.keeps
    · have hset : ({ s with cancelled := true } : RelayState).settled = true := h.settled
      rw [settleTerminal_of_settled _ hset]
      exact ⟨rfl, rfl, h.settled, .inr rfl, id⟩
  | abortDownstream | abortRequest => exact ⟨rfl, rfl, h.settled, h.stopped, id⟩
  | resolve | reject =>
    simp only [Relay.turn]
    split_ifs
    · exact ⟨rfl, rfl, h.settled, h.stopped, id⟩
    · exact h.keeps
  | sourceSettled =>
    simp only [Relay.turn]
    split_ifs
    · unfold Relay.sourceSettled
      cases s.upstream with
      | pending => exact h.keeps
      | responded response => exact h.openResponse response
      | rejected => exact h.await nofun
    · exact h.keeps
  | refusalRead =>
    simp only [Relay.turn]
    cases s.awaiting with
    | refusal =>
      simp only [refusalRead, settleTerminal_of_settled _ h.settled]
      split_ifs
      · exact h.close nofun
      · exact h.await nofun
    | _ => exact h.keeps
  | usageRecorded => exact h.usageRecorded
  | next frame =>
    simp only [Relay.turn]
    split_ifs
    · exact h.nextFrame frame
    · exact h.keeps
  | returned =>
    simp only [Relay.turn]
    split_ifs
    · exact h.finishStream
    · exact h.await nofun
    · exact h.keeps
  | handled =>
    simp only [Relay.turn, Relay.failStream]
    split_ifs with hwait hset
    · exact h.close nofun
    · exact absurd h.settled hset
    · exact absurd h.settled hset
    · exact h.keeps

end

theorem Failing.send (h : Failing s) (code message : String) :
    ∃ s', RelayState.emit [.failed code message] s = .ok s' ∧
      Fine ((RelayState.closeController s').await .nothing) := by
  obtain ⟨s', hemd, hemit⟩ := emit_of_open [.failed code message] h.closed h.cancelled
  obtain ⟨type, hrec, hcomp, hinc, hcan⟩ := h.recorded
  have hnum := hemit.numbered h.numbered
  refine ⟨s', hemd, ended_of_delivered ⟨hnum.numbers, hnum.events⟩
    (hemit.settled.trans h.settled) rfl hemit.events h.quiet ?_
      (hemit.records.trans hrec) hcan nofun⟩
  rintro (rfl | rfl)
  · exact absurd rfl hcomp
  · exact absurd rfl hinc

theorem Failing.usageRecorded (h : Failing s) : Fine (r.turn s .usageRecorded) := by
  rcases h.awaiting with hwait | ⟨code, message, hwait⟩
  · obtain ⟨s', hemit, hfine⟩ := h.send r.streamErrorCode upstreamStreamRefusalMessage
    simp only [turn, hwait, emitFailure, hemit]
    exact hfine
  · obtain ⟨s', hemit, hfine⟩ := h.send code message
    simp only [turn, hwait, emitRefusal, hemit]
    exact hfine

theorem Failing.cancel (h : Failing s) : Fine (cancel s) := by
  obtain ⟨type, hrec, hcomp, hinc, -⟩ := h.recorded
  have hset : ({ s with cancelled := true } : RelayState).settled = true := h.settled
  unfold Relay.cancel
  rw [if_neg (by rw [h.cancelled]; exact Bool.false_ne_true), settleTerminal_of_settled _ hset]
  refine ⟨.ended ⟨⟨h.numbered.numbers, h.numbered.events⟩, hset, .inr rfl, h.quiet.endsLast_self,
    ⟨type, hrec, ?_⟩, ?_⟩, .of_quiet h.quiet⟩
  · rintro (rfl | rfl)
    · exact absurd rfl hcomp
    · exact absurd rfl hinc
  · intro hwait
    have heq : s.awaiting = .completionUsage := hwait
    rcases h.awaiting with herr | ⟨code, message, hrfs⟩
    · rw [herr] at heq
      cases heq
    · rw [hrfs] at heq
      cases heq

/-- **A turn of a stream whose failure is recorded.** -/
theorem Failing.turn (h : Failing s) (turn : RelayTurn) : Fine (r.turn s turn) := by
  have hwait : s.awaiting ≠ .nothing ∧ s.awaiting ≠ .source ∧ s.awaiting ≠ .frame ∧
    s.awaiting ≠ .returned ∧
      s.awaiting ≠ .handler ∧ ∀ response deadline, s.awaiting ≠ .refusal response deadline := by
    rcases h.awaiting with hwait | ⟨code, message, hwait⟩
    · simp [hwait]
    · simp [hwait]
  cases turn with
  | pull =>
    simp only [Relay.turn, if_neg hwait.1]
    exact h.fine
  | cancel => exact h.cancel
  | abortDownstream =>
    exact Failing.fine { h with numbered := ⟨h.numbered.numbers, h.numbered.events⟩ }
  | abortRequest => exact Failing.fine { h with numbered := ⟨h.numbered.numbers,
    h.numbered.events⟩ }
  | resolve | reject =>
    simp only [Relay.turn]
    split_ifs
    · exact Failing.fine { h with numbered := ⟨h.numbered.numbers, h.numbered.events⟩ }
    · exact h.fine
  | sourceSettled =>
    simp only [Relay.turn, if_neg hwait.2.1]
    exact h.fine
  | refusalRead =>
    simp only [Relay.turn]
    cases his : s.awaiting with
    | refusal response gatewayDeadline =>
      exact absurd his (hwait.2.2.2.2.2 response gatewayDeadline)
    | _ => exact h.fine
  | usageRecorded => exact h.usageRecorded
  | next =>
    simp only [Relay.turn, if_neg hwait.2.2.1]
    exact h.fine
  | returned =>
    simp only [Relay.turn, if_neg hwait.2.2.2.1]
    exact h.fine
  | handled =>
    simp only [Relay.turn, if_neg hwait.2.2.2.2.1]
    exact h.fine

/-! ### Turns of a completion -/

theorem Completing.usageRecorded (h : Completing s) : Fine (r.turn s .usageRecorded) := by
  obtain ⟨before, event, hdlv, hqt, hsh⟩ := h.delivered
  simp only [turn, h.awaiting, settleTerminal_of_unsettled _ h.settled]
  have hnum := h.numbered.record
    { s with settled := true, log := s.log ++ [.recorded .completed] } .completed rfl rfl
  refine ended_of_delivered ⟨hnum.numbers, hnum.events⟩ rfl rfl ?_ hqt
    (fun _ => hsh) ?_ nofun nofun
  · show events (s.log ++ [_]) = _
    rw [events_append, events_recorded, List.append_nil, hdlv]
  · show records (s.log ++ [_]) = _
    rw [records_append, h.unrecorded]
    rfl

/-- **A turn of a completion** in which the client does not cancel. -/
theorem Completing.turn (h : Completing s) {turn : RelayTurn} (hspr : turn ≠ .cancel) :
    Fine (r.turn s turn) := by
  cases turn with
  | pull | sourceSettled | next | returned | handled =>
    simp only [Relay.turn, h.awaiting, reduceCtorEq, if_false]
    exact h.fine
  | cancel => exact absurd rfl hspr
  | abortDownstream =>
    exact Completing.fine { h with numbered := ⟨h.numbered.numbers, h.numbered.events⟩ }
  | abortRequest => exact Completing.fine { h with numbered := ⟨h.numbered.numbers,
    h.numbered.events⟩ }
  | resolve | reject =>
    simp only [Relay.turn]
    split_ifs
    · exact Completing.fine { h with numbered := ⟨h.numbered.numbers, h.numbered.events⟩ }
    · exact h.fine
  | refusalRead =>
    simp only [Relay.turn, h.awaiting]
    exact h.fine
  | usageRecorded => exact h.usageRecorded

theorem Completing.cancel (h : Completing s) : Staged (cancel s) ∧
    ¬ CancelledFirst (cancel s).log := by
  obtain ⟨before, event, hdlv, hqt, hsh⟩ := h.delivered
  have huns : ({ s with cancelled := true } : RelayState).settled = false := h.settled
  unfold Relay.cancel
  rw [if_neg (by rw [h.cancelled]; exact Bool.false_ne_true), settleTerminal_of_unsettled _ huns]
  have hlate : ¬ CancelledFirst (s.log ++ [.recorded .cancelled]) := by
    intro hfst
    have hend := quiet_of_cancelledFirst hfst event
      (hdlv ▸ List.mem_append_right _ List.mem_cons_self)
    rw [hsh] at hend
    cases hend
  have hnum := h.numbered.record
    { s with cancelled := true, settled := true, log := s.log ++ [.recorded .cancelled] } .cancelled
      rfl
    rfl
  refine ⟨.ended ⟨hnum, rfl, .inr rfl, ?_, ⟨.cancelled, ?_, nofun⟩, fun _ => hlate⟩, hlate⟩
  · show EndsLast (events (s.log ++ [_]))
    rw [events_append, events_recorded, List.append_nil, hdlv]
    exact hqt.endsLast event
  · show records (s.log ++ [_]) = _
    rw [records_append, h.unrecorded]
    rfl

end

/-! ### Runs -/

/-- **What a turn preserves**, and when a cancellation it records comes first. -/
theorem Staged.turn {r : Relay} (h : Staged s) (turn : RelayTurn) :
    Staged (r.turn s turn) ∧ (CancelledFirst (r.turn s turn).log ↔
      CancelledFirst s.log ∧ (turn = .cancel → s.awaiting ≠ .completionUsage)) := by
  -- a turn that leaves a consistent log comes from one, unless it cancels a completion
  have hof_fine {s' : RelayState} (hbef : CancelledFirst s.log)
      (hspr : turn = .cancel → s.awaiting ≠ .completionUsage) (hfine : Fine s') :
      Staged s' ∧ (CancelledFirst s'.log ↔
        CancelledFirst s.log ∧ (turn = .cancel → s.awaiting ≠ .completionUsage)) :=
    ⟨hfine.1, iff_of_true hfine.2 ⟨hbef, hspr⟩⟩
  cases h with
  | live h =>
    refine hof_fine h.fine.2 (fun _ hwait => ?_) (h.turn turn)
    have hearl := h.awaiting
    rw [hwait] at hearl
    cases hearl
  | completing h =>
    by_cases hcancels : turn = .cancel
    · subst hcancels
      obtain ⟨hstaged, hlate⟩ := h.cancel
      exact ⟨hstaged, iff_of_false hlate fun hboth => hboth.2 rfl h.awaiting⟩
    · exact hof_fine h.fine.2 (fun his => absurd his hcancels) (h.turn hcancels)
  | failing h =>
    refine hof_fine h.fine.2 (fun _ hwait => ?_) (h.turn turn)
    rcases h.awaiting with herr | ⟨code, message, hrfs⟩
    · rw [herr] at hwait
      cases hwait
    · rw [hrfs] at hwait
      cases hwait
  | ended h =>
    have hfrz := h.turn (r := r) turn
    refine ⟨.ended (h.frozen hfrz), ?_⟩
    rw [hfrz.log]
    exact ⟨fun hfst => ⟨hfst, fun _ hwait => h.awaiting hwait hfst⟩, And.left⟩

/-- A run keeps the relay at one of its stages. -/
theorem Staged.run {r : Relay} (h : Staged s) (turns : List RelayTurn) :
    Staged (r.run s turns) ∧ (CancelledFirst (r.run s turns).log ↔
      CancelledFirst s.log ∧ SparesCompletion r s turns) := by
  induction turns generalizing s with
  | nil => exact ⟨h, (and_iff_left trivial).symm⟩
  | cons turn turns ih =>
    obtain ⟨hstaged, hstep⟩ := h.turn (r := r) turn
    obtain ⟨hstaged', hrun⟩ := ih hstaged
    refine ⟨hstaged', ?_⟩
    show CancelledFirst (r.run (r.turn s turn) turns).log ↔ _
    rw [hrun, hstep, and_assoc]
    rfl

theorem staged_start (upstream : UpstreamSource) : Staged (.start upstream) := by
  refine .live ⟨⟨rfl, rfl⟩, rfl, rfl, rfl, rfl, rfl, ?_, rfl⟩
  exact fun event hmem => absurd hmem List.not_mem_nil

/-- **What a client received and what was recorded agree, exactly when no cancellation lands between
a completed response and its recorded usage.** -/
theorem Relay.run_consistent_iff (r : Relay) (upstream : UpstreamSource) (turns : List RelayTurn) :
    Consistent (r.run (.start upstream) turns) ↔ SparesCompletion r (.start upstream) turns := by
  obtain ⟨hstaged, hrun⟩ := (staged_start upstream).run (r := r) turns
  have hfst : CancelledFirst (RelayState.start upstream).log := .of_not_mem List.not_mem_nil
  constructor
  · exact fun hcst => (hrun.mp hcst.cancelledFirst).2
  · exact fun hspr => hstaged.consistent (hrun.mpr ⟨hfst, hspr⟩)

/-- A relay for a provider whose finish reason `stop` completes a response. -/
def stopRelay : Relay where
  translator :=
    { responseId := Utf16.ofString "resp_1"
      toolNames := .empty
      customToolNames := []
      profile :=
        { label := "Provider"
          finishDisposition := fun reason =>
            if reason = some "stop" then .completed else .failed "error"
          cachedPromptTokens := fun _ _ => none
          reasoningTokens := fun _ _ => none }
      numberText := fun _ => []
      parse := fun _ => none }
  streamErrorCode := "upstream_error"

/-- A chunk with a text and the finish reason `stop`. -/
def stopChunk : Json :=
  .obj [("choices", .arr [.obj [("delta", .obj [("content", .str "Hi")]),
    ("finish_reason", .str "stop")]])]

/-- A client that cancels while the usage of its completed response is recorded. -/
def lateCancel : List RelayTurn := [.pull, .next (.chunk stopChunk), .pull, .next .ended, .cancel]

theorem lateCancel_not_consistent :
    ¬ Consistent (stopRelay.run (.start (.responded ⟨200, none⟩)) lateCancel) := by
  intro hcst
  have hspr := ((staged_start (.responded ⟨200, none⟩)).run (r := stopRelay) lateCancel).2.mp
    hcst.cancelledFirst
  have hwait : (stopRelay.run (.start (.responded ⟨200, none⟩)) (lateCancel.take 4)).awaiting =
    .completionUsage := by
    decide +kernel
  exact hspr.2.2.2.2.2.1 rfl hwait

end UbqGateway.Provider
