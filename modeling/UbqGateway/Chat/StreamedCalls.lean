import UbqGateway.Chat.Agreement
import UbqGateway.Chat.CallExact

/-!
# The function calls of a stream

However often a stream is pulled and however it ends, the deltas of function calls that it has
emitted and queued are those of the events from the front that it has handled (`streamed_calls`).
An event that waits for its queued deltas is handled again, and shows nothing a second time.
-/

namespace UbqGateway.Chat

open Responses ChatStream ChatFunctionCallAccumulator

theorem handleEvents_append (events events' : List ResponsesStreamEvent) :
    handleEvents calls log (events ++ events') =
      (handleEvents calls log events).bind fun x => handleEvents x.1 x.2 events' := by
  induction events generalizing calls log with
  | nil => rfl
  | cons event _ ih =>
    rw [List.cons_append, handleEvents, handleEvents]
    cases handleCalls calls event with
    | error error => rfl
    | ok x => exact ih

/-- The stream has handled the events before these, or some of them, and shows the calls of
those. -/
structure ShowsCalls (all : List ResponsesStreamEvent) (s : ChatStream)
    (rest : List ResponsesStreamEvent) (handled : List ResponsesStreamEvent) (log : List Handling) :
    Prop where
  front : handled <+: all
  noneSkipped : s.closed = false → handled ++ rest = all
  calls : handleEvents .empty [] handled = .ok (s.translation.functionCalls, log)
  shown : s.toolCalls = allDeltas log

theorem ShowsCalls.same (h : ShowsCalls all s rest handled log)
    (hcl : s'.closed = false → s.closed = false ∧ rest' = rest)
    (htr : s'.translation = s.translation) (hsh : s'.toolCalls = s.toolCalls) :
    ShowsCalls all s' rest' handled log where
  front := h.front
  noneSkipped := by
    intro hopen
    obtain ⟨hopen, rfl⟩ := hcl hopen
    exact h.noneSkipped hopen
  calls := by
    rw [htr]
    exact h.calls
  shown := hsh.trans h.shown

theorem ShowsCalls.handles (h : ShowsCalls all s (event :: rest) handled log)
    (hopen : s.closed = false) (hshows : Shows s event s') :
    ∃ handled log, ShowsCalls all s' rest handled log := by
  obtain ⟨deltas, hcls, hsh⟩ := hshows
  have htkn : handled ++ [event] ++ rest = all := by
    rw [List.append_assoc]
    exact h.noneSkipped hopen
  refine ⟨handled ++ [event], log ++ [⟨s.translation.functionCalls, event, deltas⟩], ?_, fun _ =>
    htkn,
    ?_, ?_⟩
  · exact ⟨rest, htkn⟩
  · rw [handleEvents_append, h.calls]
    show handleEvents s.translation.functionCalls log [event] = _
    rw [handleEvents, hcls]
    rfl
  · rw [hsh, h.shown, allDeltas_concat]

variable {s : ChatStream}

/-- A handler that fails shows no calls. -/
theorem handleStreamEvent_fails {failure : StreamFailure}
    (h : s.handleStreamEvent request event = .fails s' failure) :
    s'.closed = s.closed ∧ s'.translation = s.translation ∧ s'.toolCalls = s.toolCalls := by
  have hturn : ∀ handled : Handled, s.turnOf handled = .fails s' failure → s' = s := by
    rintro (error | ⟨t, _ | _⟩) hfls <;> cases hfls
    rfl
  unfold handleStreamEvent at h
  split at h
  · cases h
  · unfold handleUpstreamEvent at h
    split at h
    · obtain rfl := hturn _ h
      exact ⟨rfl, rfl, rfl⟩
    · split_ifs at h
      · obtain rfl := hturn _ h
        exact ⟨rfl, rfl, rfl⟩
      · unfold handleCompletedEvent at h
        split_ifs at h
        · cases h
          exact ⟨rfl, rfl, rfl⟩
        · dsimp only at h
          split at h
          · cases h
            exact ⟨rfl, rfl, rfl⟩
          · unfold settleCompleted at h
            split_ifs at h

theorem settleStreamFailure_frame (s : ChatStream) (failure : StreamFailure) :
    (s.settleStreamFailure failure .quiet).closed = true ∧
      (s.settleStreamFailure failure .quiet).translation = s.translation ∧
      (s.settleStreamFailure failure .quiet).toolCalls = s.toolCalls := by
  have heq : (s.settleFailedStream failure .quiet).translation = s.translation ∧
      (s.settleFailedStream failure .quiet).toolCalls = s.toolCalls := by
    unfold settleFailedStream
    cases s.observedCompletedUsage <;> split_ifs <;> exact ⟨rfl, rfl⟩
  refine ⟨rfl, heq.1, Eq.trans ?_ heq.2⟩
  show List.filterMap chunkToolCall (_ ++ [streamErrorChunk]) ++ _ = _
  rw [List.filterMap_append]
  exact congrArg (· ++ _) (List.append_nil _)

/-! ### Pulls -/

/-- The loop keeps the log of what it showed. -/
theorem pumpLoop_calls (h : Ready s b) (hmark : ∀ event ∈ events, Marked event)
    (hsh : ShowsCalls all s events handled log) :
    ∃ handled log, ShowsCalls all (pumpLoop request thrown s events).1
      (pumpLoop request thrown s events).2 handled log := by
  induction events generalizing s b handled log with
  | nil =>
    obtain ⟨hcl, htr, hcls⟩ := settleStreamFailure_frame s (thrown.getD prematureEof)
    exact ⟨handled, log,
      hsh.same (fun hopen => Bool.noConfusion (hcl.symm.trans hopen)) htr hcls⟩
  | cons event events ih =>
    have hrest := fun event' hmem => hmark event' (List.mem_cons_of_mem event hmem)
    have hagr := handleStreamEvent_agrees request h (hmark event (List.mem_cons_self ..))
    rw [pumpLoop]
    generalize hturn : s.handleStreamEvent request event = turned at hagr
    generalize b.consumeEvent event = consumed at hagr
    have htake : ∀ s', turned.stream = some s' →
      ∃ handled log, ShowsCalls all s' events handled log := by
      intro s' hstream
      rw [← hturn] at hstream
      exact hsh.handles h.live.isOpen
        (handleStreamEvent_calls request h.live.numbered h.drained hstream)
    cases hagr with
    | next hrdy =>
      obtain ⟨handled, log, htkn⟩ := htake _ rfl
      exact ih hrdy hrest htkn
    | returns _ | stops _ | empty _ => exact htake _ rfl
    | completes =>
      obtain ⟨handled, log, htkn⟩ := htake _ rfl
      obtain ⟨hcls, htr⟩ := deliverCompleted_frame request _ _ _
      exact ⟨handled, log, htkn.same (fun _ => ⟨‹Live _›.isOpen, rfl⟩) htr hcls⟩
    | fails _ | unanswered _ =>
      obtain ⟨-, htr, hcls⟩ := handleStreamEvent_fails hturn
      obtain ⟨hcl, htr', hcls'⟩ := settleStreamFailure_frame _ _
      exact ⟨handled, log, hsh.same (fun hopen => Bool.noConfusion (hcl.symm.trans hopen))
        (htr'.trans htr) (hcls'.trans hcls)⟩

/-- A pull keeps the log of what it showed. -/
theorem pull_calls (h : Gives request thrown s events response)
    (hsh : ShowsCalls all s events handled log) :
    ∃ handled log, ShowsCalls all (s.pull request thrown events).1 (s.pull request thrown events).2
      handled log := by
  have hlive : Live s := by
    cases h with
    | reading hfol => exact hfol.live
    | completing hlive => exact hlive
  unfold pull
  rw [if_neg (by rw [hlive.isOpen]; exact Bool.noConfusion)]
  split_ifs with hemit
  · exact ⟨handled, log, hsh.same (fun _ => ⟨hlive.isOpen, rfl⟩)
      (emitNextQueuedDelta_frame request s).2.2 (toolCalls_emitNext request s)⟩
  · have hdr : s.queuedDeltas = [] := by
      rw [emitNextQueuedDelta_snd] at hemit
      simpa using hemit
    have hidle : ShowsCalls all { s with pending := none } events handled log :=
      hsh.same (fun hopen => ⟨hopen, rfl⟩) rfl rfl
    have hlive' : Live { s with pending := none } :=
      ⟨hlive.isOpen, hlive.shown, hlive.numbered, hlive.notDone, hlive.role, hlive.unfinished⟩
    cases h with
    | reading hfol hmark =>
      rcases hfol.waits with hwait | ⟨event, hwait, hout, hrpt⟩
      · rw [hwait]
        exact pumpLoop_calls ⟨hfol, hdr, hwait⟩ hmark hsh
      · rw [hwait]
        simp only
        rw [pumpLoop, handleStreamEvent_output (s := { s with pending := none }) hlive.numbered hdr
          hout hrpt]
        exact pumpLoop_calls ⟨⟨hlive', hfol.unsettled, .inl rfl, hfol.same⟩, hdr, rfl⟩ hmark
          hidle
    | @completing _ event _ _ hset hwait _ _ hagn =>
      rw [hwait]
      simp only
      rw [pumpLoop, handleStreamEvent_completed (s := { s with pending := none }) hlive.numbered
        hset
        hagn]
      obtain ⟨hcls, htr⟩ := deliverCompleted_frame request { s with
        pending := none, observedCompletedUsage := some (usageOf event.value) } event
        (usageOf event.value)
      exact ⟨handled, log, hidle.same (fun _ => ⟨hlive.isOpen, rfl⟩) htr hcls⟩

theorem pulls_calls (n : ℕ) (h : s.closed = true ∨ Gives request thrown s events response)
    (hsh : ShowsCalls all s events handled log) :
    ∃ handled log, ShowsCalls all (pulls request thrown n s events).1
      (pulls request thrown n s events).2 handled log := by
  induction n generalizing s events handled log with
  | zero => exact ⟨handled, log, hsh⟩
  | succ _ ih =>
    rw [pulls]
    rcases h with hcl | hgvs
    · have hsty : s.pull request thrown events = (s, events) := by
        unfold pull
        rw [if_pos hcl]
      rw [hsty]
      exact ih (.inl hcl) hsh
    · obtain ⟨handled, log, hsh⟩ := pull_calls hgvs hsh
      exact ih ((pull_gives hgvs).imp And.left And.left) hsh

/-- **What is streamed of function calls**, after any number of pulls, is what the events show that
were handled, each once and in order: every call is announced before its arguments, whose fragments
add up to what was accumulated.  While the stream is open no event was skipped. -/
theorem streamed_calls (request : ChatRequest) (id : String) (created : ℚ)
    (lifecycle : MeteredTransportLifecycle) (first : ResponsesStreamEvent)
    (events : List ResponsesStreamEvent) (thrown : Option StreamFailure)
    (hmark : ∀ event ∈ first :: events, Marked event) (n : ℕ) (s : ChatStream)
    (rest : List ResponsesStreamEvent)
    (hpulled : pulls request thrown (n + 1) (.initial first id created lifecycle) events =
      (s, rest)) :
    ∃ handled log, handled <+: first :: events ∧
      (s.closed = false → handled ++ rest = first :: events) ∧
      handleEvents .empty [] handled = .ok (s.translation.functionCalls, log) ∧
      s.toolCalls = allDeltas log ∧ Shown s.translation.functionCalls s.toolCalls := by
  have hgvs : Gives request thrown _ _ _ := gives_initial hmark id created lifecycle
  obtain ⟨handled, log, hsh⟩ := pulls_calls (n + 1) (.inr hgvs)
    (show ShowsCalls (first :: events) _ _ [] [] from ⟨List.nil_prefix, fun _ => rfl, rfl, rfl⟩)
  rw [← pulls_initial, hpulled] at hsh
  refine ⟨handled, log, hsh.front, hsh.noneSkipped, hsh.calls, hsh.shown, ?_⟩
  rw [hsh.shown]
  exact (Run.start.events hsh.calls).shown

/-- The stream of a call that is added and done, after two pulls. -/
def calledStream : ChatStream × List ResponsesStreamEvent :=
  pulls ⟨"m", false⟩ none 2
    (.initial (callEvent "response.output_item.added" [("item", callItem "a")]) "c" 1 .fresh)
    calledOnce.tail

theorem streamed_calls_calledOnce :
    Shown calledStream.1.translation.functionCalls calledStream.1.toolCalls := by
  have hmark : ∀ event ∈ calledOnce, Marked event := by
    intro event hmem
    rcases List.mem_cons.mp hmem with rfl | hmem
    · rfl
    · obtain rfl := List.mem_singleton.mp hmem
      rfl
  obtain ⟨handled, log, -, -, -, -, hsh⟩ := streamed_calls ⟨"m", false⟩ "c" 1 .fresh _ _ none
    hmark 1 calledStream.1 calledStream.2 rfl
  exact hsh

end UbqGateway.Chat
