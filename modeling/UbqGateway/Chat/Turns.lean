import UbqGateway.Chat.Handlers

/-!
# How an event settles a stream

An event that is not terminal leaves the settlement of a stream alone.  A terminal event settles the
stream once, or it fails.
-/

namespace UbqGateway.Chat

open Responses ChatStream

variable (request : ChatRequest)

structure SettledAlike (s s' : ChatStream) : Prop where
  closed : s'.closed = s.closed
  terminalSettled : s'.terminalSettled = s.terminalSettled
  observedCompletedUsage : s'.observedCompletedUsage = s.observedCompletedUsage
  lifecycle : s'.lifecycle = s.lifecycle

structure Completes (event : ResponsesStreamEvent) : Prop where
  completed : event.type = "response.completed"
  response : isObject (event.value.get "response") = true

/-- What an event does to the settlement of a stream. -/
inductive TurnSettles (s : ChatStream) (event : ResponsesStreamEvent) : Turn → Prop
  | next {t : ChatStream} (hqt : event.terminal = false) (hal : SettledAlike s t)
    (hpend : t.pending = s.pending) : TurnSettles s event (.next t)
  | emits {t : ChatStream} (hqt : event.terminal = false) (hal : SettledAlike s t)
    (hpend : t.pending = s.pending ∨ t.pending = some event) : TurnSettles s event (.returns t)
  | terminates {t : ChatStream} (hterm : event.terminal = true)
    (hoth : event.type ≠ "response.completed") (hcl : t.closed = true)
    (hset : t.terminalSettled = true)
    (hlife : t.lifecycle = s.lifecycle.terminal event.type (usageOf event.value)) :
    TurnSettles s event (.returns t)
  | empty {t : ChatStream} (hcomp : Completes event) (huns : s.terminalSettled = false)
    (hcl : t.closed = true) (hset : t.terminalSettled = true)
    (hlife : t.lifecycle = s.lifecycle.terminal "response.failed" (usageOf event.value)) :
    TurnSettles s event (.returns t)
  | again {t : ChatStream} (hcomp : Completes event) (hbef : s.terminalSettled = true)
    (hset : t.terminalSettled = true) (hlife : t.lifecycle = s.lifecycle)
    (hrest : t.closed = true ∨ t.closed = s.closed ∧ t.pending = some event) :
    TurnSettles s event (.returns t)
  | records {t : ChatStream} (hcomp : Completes event) (huns : s.terminalSettled = false)
    (hcl : t.closed = s.closed) (hset : t.terminalSettled = true)
    (hlife : t.lifecycle = s.lifecycle.terminal "response.completed" (usageOf event.value))
    (htranslated : translatedChatOutputObserved t.translation = true) :
    TurnSettles s event (.recording t event (usageOf event.value))
  | fails {t : ChatStream} {failure : StreamFailure} (hcl : t.closed = s.closed)
    (hset : t.terminalSettled = s.terminalSettled) (hlife : t.lifecycle = s.lifecycle)
    (hobs : t.observedCompletedUsage = some (usageOf event.value) ∧ Completes event ∨
      t.observedCompletedUsage = s.observedCompletedUsage ∧ ¬Completes event)
    (hpossible : event.terminal = false ∨ event.type = "response.completed") :
    TurnSettles s event (.fails t failure)

theorem SettledAlike.refl (s : ChatStream) : SettledAlike s s := ⟨rfl, rfl, rfl, rfl⟩

variable {α : Type}

/-- A handler that leaves the settlement alone. -/
def Leaves (s : ChatStream) (event : ResponsesStreamEvent) (handled : Handled) : Prop :=
  ∀ t outcome, handled = .ok (t, outcome) → SettledAlike s t ∧
    (t.pending = s.pending ∨ outcome = .returns ∧ t.pending = some event)

theorem leaves_of
    (h : ∀ t outcome, handled = .ok (t, outcome) → SettledAlike s t ∧ t.pending = s.pending) :
    Leaves s event handled := fun t outcome hok =>
  ⟨(h t outcome hok).1, .inl (h t outcome hok).2⟩

theorem leaves_map {x : Except ResponsesStreamError α}
    (h : ∀ a, SettledAlike s (f a).1 ∧ (f a).1.pending = s.pending) : Leaves s event (x.map f) := by
  refine leaves_of fun t outcome hok => ?_
  obtain ⟨a, _, heq⟩ := Results.of_map hok
  have hal := h a
  rw [heq] at hal
  exact hal

theorem leaves_text (h : s.handleTextEvent request event = some handled) :
    Leaves s event handled := by
  unfold handleTextEvent at h
  split_ifs at h
  · cases h
    exact leaves_map fun x => ⟨⟨rfl, rfl, rfl, rfl⟩, rfl⟩
  · cases h
    refine leaves_map fun x => ?_
    split_ifs <;> exact ⟨⟨rfl, rfl, rfl, rfl⟩, rfl⟩
  · cases h
    exact leaves_map fun x => ⟨⟨rfl, rfl, rfl, rfl⟩, rfl⟩
  · cases h
    refine leaves_map fun x => ?_
    split_ifs <;> exact ⟨⟨rfl, rfl, rfl, rfl⟩, rfl⟩
  · cases h
    refine leaves_map fun x => ?_
    split_ifs <;> exact ⟨⟨rfl, rfl, rfl, rfl⟩, rfl⟩

theorem emitNext_alike (s : ChatStream) : SettledAlike s (s.emitNextQueuedDelta request).1 ∧
      (s.emitNextQueuedDelta request).1.pending = s.pending := by
  cases hqd : s.queuedDeltas with
  | nil =>
    rw [emitNextQueuedDelta_nil request hqd]
    exact ⟨.refl s, rfl⟩
  | cons delta rest =>
    rw [emitNextQueuedDelta_cons request hqd]
    exact ⟨⟨rfl, rfl, rfl, rfl⟩, rfl⟩

theorem SettledAlike.trans {t u : ChatStream} (h : SettledAlike s t) (h' : SettledAlike t u) :
    SettledAlike s u where
  closed := h'.closed.trans h.closed
  terminalSettled := h'.terminalSettled.trans h.terminalSettled
  observedCompletedUsage := h'.observedCompletedUsage.trans h.observedCompletedUsage
  lifecycle := h'.lifecycle.trans h.lifecycle

theorem queue_alike (s : ChatStream) (translation : ChatTranslation) (queued : List QueuedDelta) :
    SettledAlike s { s with translation := translation, queuedDeltas := queued } :=
  ⟨rfl, rfl, rfl, rfl⟩

theorem leaves_content (event : ResponsesStreamEvent) (s : ChatStream) (t : ChatStream)
    (outcome : Outcome) (h : s.handleContentItemDone request event.value = .ok (t, outcome)) :
    SettledAlike s t ∧ t.pending = s.pending := by
  unfold handleContentItemDone at h
  obtain ⟨completed, _, heq⟩ := Results.of_map h
  obtain ⟨hal, hpend⟩ := emitNext_alike request
    { s with
      translation := s.translation.addContent completed
      queuedDeltas := s.queuedDeltas ++ contentDeltas completed.2 }
  obtain rfl : _ = t := congrArg Prod.fst heq
  exact ⟨(queue_alike s _ _).trans hal, hpend⟩

theorem leaves_tool (h : s.handleToolEvent request event = some handled) :
    Leaves s event handled := by
  unfold handleToolEvent at h
  split_ifs at h
  · cases h
    refine leaves_map fun x => ?_
    obtain ⟨calls, _ | added⟩ := x
    · exact ⟨⟨rfl, rfl, rfl, rfl⟩, rfl⟩
    · simp only
      split_ifs <;> exact ⟨⟨rfl, rfl, rfl, rfl⟩, rfl⟩
  · cases h
    exact leaves_map fun x => ⟨⟨rfl, rfl, rfl, rfl⟩, rfl⟩
  · cases h
    refine leaves_map fun x => ?_
    split_ifs <;> exact ⟨⟨rfl, rfl, rfl, rfl⟩, rfl⟩
  · cases h
    unfold handleOutputItemDone
    cases hone : s.translation.functionCalls.reconcileItem event.value (event.value.get "item") with
    | error error =>
      refine leaves_of fun t outcome hok => ?_
      rw [Except.bind] at hok
      cases hok
    | ok x =>
      obtain ⟨calls, _ | change⟩ := x
      · refine leaves_of fun t outcome hok => ?_
        obtain ⟨hal, hpend⟩ := leaves_content request event
          { s with translation := s.translation.withCalls calls } t outcome hok
        exact ⟨(queue_alike s _ _).trans hal, hpend⟩
      · refine leaves_of fun t outcome hok => ?_
        simp only [Except.bind] at hok
        split_ifs at hok
        · cases hok
          exact ⟨⟨rfl, rfl, rfl, rfl⟩, rfl⟩
        · cases hok
          exact ⟨⟨rfl, rfl, rfl, rfl⟩, rfl⟩

theorem turnOf_settles (hlvs : Leaves s event handled) (hqt : event.terminal = false)
    (hoth : event.type ≠ "response.completed") : TurnSettles s event (s.turnOf handled) := by
  obtain error | ⟨t, outcome⟩ := handled
  · exact .fails rfl rfl rfl (.inr ⟨rfl, fun h => hoth h.completed⟩) (.inl hqt)
  · obtain ⟨hal, hpend⟩ := hlvs t outcome rfl
    cases outcome with
    | next =>
      rcases hpend with heq | ⟨hretd, _⟩
      · exact .next hqt hal heq
      · cases hretd
    | returns => exact .emits hqt hal (hpend.imp id And.right)

variable {mid : ChatStream}

theorem queueFinalOutput_alike {event : Json} (h : s.queueFinalOutput event output = .ok mid) :
    SettledAlike s mid ∧ mid.pending = s.pending := by
  unfold queueFinalOutput at h
  obtain ⟨completed, _, h⟩ := Results.of_bind h
  obtain ⟨reconciled, _, heq⟩ := Results.of_map h
  rw [← heq]
  exact ⟨queue_alike s _ _, rfl⟩

theorem deferEvent_alike (s : ChatStream) (event : ResponsesStreamEvent) :
    SettledAlike s (s.deferEvent request event) ∧
      (s.deferEvent request event).pending = some event := by
  obtain ⟨hnext, hpend⟩ := emitNext_alike request { s with pending := some event }
  have hdef : SettledAlike s { s with pending := some event } := ⟨rfl, rfl, rfl, rfl⟩
  exact ⟨hdef.trans hnext, hpend⟩

theorem leaves_finalOutput : Leaves s event (s.handleFinalOutputEvent request event) := by
  intro t outcome h
  unfold handleFinalOutputEvent at h
  obtain ⟨mid, hqd, h⟩ := Results.of_map h
  have hal := queueFinalOutput_alike hqd
  split_ifs at h with hdr
  · cases h
    exact ⟨hal.1, .inl hal.2⟩
  · cases h
    obtain ⟨hdef, hpend⟩ := deferEvent_alike request mid event
    exact ⟨hal.1.trans hdef, .inr ⟨rfl, hpend⟩⟩

theorem settleCompleted_settles (hcomp : Completes event) (hcl : mid.closed = s.closed)
    (hset : mid.terminalSettled = s.terminalSettled) (hlife : mid.lifecycle = s.lifecycle) :
    TurnSettles s event (mid.settleCompleted request event (usageOf event.value)) := by
  unfold settleCompleted
  by_cases hbef : mid.terminalSettled = true
  · rw [if_pos hbef]
    have hdlv : (mid.deliverCompleted request event (usageOf event.value)).terminalSettled =
          mid.terminalSettled ∧
        (mid.deliverCompleted request event (usageOf event.value)).lifecycle = mid.lifecycle ∧
        ((mid.deliverCompleted request event (usageOf event.value)).closed = true ∨
          (mid.deliverCompleted request event (usageOf event.value)).closed = mid.closed ∧
          (mid.deliverCompleted request event (usageOf event.value)).pending = some event) := by
      unfold deliverCompleted
      split_ifs with hdr
      · exact ⟨rfl, rfl, .inl rfl⟩
      · obtain ⟨hal, hpend⟩ := deferEvent_alike request mid event
        exact ⟨hal.terminalSettled, hal.lifecycle, .inr ⟨hal.closed, hpend⟩⟩
    refine .again hcomp (hset ▸ hbef) (hdlv.1.trans hbef)
      (hdlv.2.1.trans hlife) ?_
    rw [← hcl]
    exact hdlv.2.2
  · rw [if_neg hbef]
    have huns : s.terminalSettled = false := by
      rw [← hset]
      exact Bool.not_eq_true _ ▸ hbef
    split_ifs with hnth
    · exact .empty hcomp huns rfl rfl (by rw [← hlife])
    · exact .records hcomp huns hcl rfl (by rw [← hlife])
        (by rw [← Bool.not_eq_false]; exact hnth)

theorem handleCompletedEvent_settles (hcomp : event.type = "response.completed") :
    TurnSettles s event (s.handleCompletedEvent request event) := by
  unfold handleCompletedEvent
  split_ifs with hrsp
  · refine .fails rfl rfl rfl (.inr ⟨rfl, fun h => ?_⟩) (.inr hcomp)
    rw [h.response] at hrsp
    cases hrsp
  · have hcpl : Completes event := ⟨hcomp, by rw [← Bool.not_eq_false]; exact hrsp⟩
    simp only
    cases hqd : queueFinalOutput { s with observedCompletedUsage := some (usageOf event.value) }
        event.value (itemGet (event.value.get "response") "output") with
    | error error => exact .fails rfl rfl rfl (.inl ⟨rfl, hcpl⟩) (.inr hcomp)
    | ok mid =>
      simp only [Except.bind]
      obtain ⟨hal, _⟩ := queueFinalOutput_alike hqd
      cases mid.translation.functionCalls.assertFinalized with
      | error error => exact .fails rfl rfl rfl (.inl ⟨rfl, hcpl⟩) (.inr hcomp)
      | ok _ =>
        exact settleCompleted_settles request hcpl hal.closed hal.terminalSettled
          hal.lifecycle

/-- What a turn settles, by the type of its event. -/
theorem handleStreamEvent_settles (hmark : Marked event) :
    TurnSettles s event (s.handleStreamEvent request event) := by
  have hqt : event.type ∉ terminalEventTypes → event.terminal = false := by
    intro hoth
    rw [hmark]
    exact decide_eq_false hoth
  unfold handleStreamEvent
  cases hcr : createdResponse event with
  | some response =>
    unfold createdResponse at hcr
    split_ifs at hcr with htype
    exact .next (hqt (by rw [htype]; decide)) ⟨rfl, rfl, rfl, rfl⟩ rfl
  | none =>
  simp only
  unfold handleUpstreamEvent
  cases htext : s.handleTextEvent request event with
  | some handled =>
    have htypes : event.type ∉ terminalEventTypes ∧ event.type ≠ "response.completed" := by
      unfold handleTextEvent at htext
      split_ifs at htext with h h h h h <;> (rw [h]; decide)
    exact turnOf_settles (leaves_text request htext) (hqt htypes.1) htypes.2
  | none =>
  cases htool : s.handleToolEvent request event with
  | some handled =>
    have htypes : event.type ∉ terminalEventTypes ∧ event.type ≠ "response.completed" := by
      unfold handleToolEvent at htool
      split_ifs at htool with h h h h <;> (rw [h]; decide)
    exact turnOf_settles (leaves_tool request htool) (hqt htypes.1) htypes.2
  | none =>
  simp only [Option.or_none]
  by_cases hout : event.type = "response.output"
  · rw [if_pos hout]
    exact turnOf_settles (leaves_finalOutput request) (hqt (by rw [hout]; decide))
      (by rw [hout]; decide)
  rw [if_neg hout]
  by_cases hcomp : event.type = "response.completed"
  · rw [if_pos hcomp]
    exact handleCompletedEvent_settles request hcomp
  rw [if_neg hcomp]
  split_ifs with hterm
  · exact .terminates hterm hcomp rfl rfl rfl
  · exact .next (Bool.not_eq_true _ ▸ hterm) (.refl s) rfl

end UbqGateway.Chat
