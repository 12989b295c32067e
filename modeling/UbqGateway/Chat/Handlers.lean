import UbqGateway.Chat.Folding

/-!
# One event, streamed and buffered

The two translations handle every event alike (`handleStreamEvent_agrees`): they fail on the same
events, they accumulate the same, and what the stream has emitted and queued folds to the message of
what was accumulated.
-/

namespace UbqGateway.Chat

open Responses ChatStream

variable (request : ChatRequest)

/-! ### Streams that are read -/

/-- What holds of a stream that is not closed. -/
structure Live (s : ChatStream) : Prop where
  isOpen : s.closed = false
  shown : foldQueued (foldMessage s.chunks) s.queuedDeltas = s.translation.message
  numbered : s.translation.functionCalls.Numbered
  notDone : Chunk.done ∉ s.chunks
  role : foldRole s.chunks = if s.sentRole = true then some "assistant" else none
  unfinished : foldFinishReason s.chunks = none

variable (chunks : List Chunk)

theorem foldMessage_append (chunk : Chunk) :
    foldMessage (chunks ++ [chunk]) = foldChunk (foldMessage chunks) chunk := List.foldl_append

theorem foldRole_append (chunk : Chunk) :
    foldRole (chunks ++ [chunk]) = (foldRole chunks).or (chunkRole chunk) := by
  unfold foldRole
  rw [List.findSome?_append, List.findSome?_singleton]

theorem foldFinishReason_append (chunk : Chunk) : foldFinishReason (chunks ++ [chunk]) =
      (foldFinishReason chunks).or (chunkFinishReason chunk) := by
  unfold foldFinishReason
  rw [List.findSome?_append, List.findSome?_singleton]

theorem emitQueued_eq (s : ChatStream) (delta : QueuedDelta) :
    s.emitQueued request delta = s.emitDelta request delta.chunk := by
  cases delta <;> rfl

variable {translation : ChatTranslation} {s : ChatStream}

theorem Live.emit (h : Live s) (queued : List QueuedDelta) (delta : QueuedDelta)
    (hnum : translation.functionCalls.Numbered)
    (hsh : foldQueued (foldDelta (foldMessage s.chunks) delta.chunk) queued = translation.message) :
    Live (emitQueued request { s with translation := translation, queuedDeltas := queued }
      delta) := by
  rw [emitQueued_eq]
  refine ⟨h.isOpen, ?_, hnum, ?_, ?_, ?_⟩
  · show foldQueued (foldMessage (s.chunks ++ [_])) queued = translation.message
    rw [foldMessage_append]
    exact hsh
  · intro hmem
    rcases List.mem_append.mp hmem with hold | hnew
    · exact h.notDone hold
    · rw [List.mem_singleton] at hnew
      cases hnew
  · show foldRole (s.chunks ++ [_]) = some "assistant"
    rw [foldRole_append, h.role]
    show (if s.sentRole = true then some "assistant" else none).or
      (if s.sentRole = true then none else some "assistant") = some "assistant"
    cases s.sentRole <;> rfl
  · show foldFinishReason (s.chunks ++ [_]) = none
    rw [foldFinishReason_append, h.unfinished]
    rfl

theorem Live.translate (h : Live s) (hnum : translation.functionCalls.Numbered)
    (heq : translation.message = s.translation.message) :
    Live { s with translation := translation } :=
  ⟨h.isOpen, h.shown.trans heq.symm, hnum, h.notDone, h.role, h.unfinished⟩

theorem Live.queue (h : Live s) (translation : ChatTranslation) (queued : List QueuedDelta)
    (hnum : translation.functionCalls.Numbered)
    (hsh : foldQueued s.translation.message queued = translation.message) :
    Live { s with translation := translation, queuedDeltas := s.queuedDeltas ++ queued } := by
  refine ⟨h.isOpen, ?_, hnum, h.notDone, h.role, h.unfinished⟩
  show foldQueued (foldMessage s.chunks) (s.queuedDeltas ++ queued) = translation.message
  rw [← hsh, ← h.shown]
  exact List.foldl_append

theorem emitNextQueuedDelta_nil (h : s.queuedDeltas = []) :
    s.emitNextQueuedDelta request = (s, false) := by
  unfold emitNextQueuedDelta
  rw [h]

theorem emitNextQueuedDelta_cons (h : s.queuedDeltas = delta :: rest) :
    s.emitNextQueuedDelta request =
      (emitDelta request { s with queuedDeltas := rest } delta.chunk, true) := by
  unfold emitNextQueuedDelta
  rw [h, ← emitQueued_eq]

theorem emitNextQueuedDelta_frame (s : ChatStream) :
    (s.emitNextQueuedDelta request).1.pending = s.pending ∧
      (s.emitNextQueuedDelta request).1.terminalSettled = s.terminalSettled ∧
      (s.emitNextQueuedDelta request).1.translation = s.translation := by
  cases hqd : s.queuedDeltas with
  | nil =>
    rw [emitNextQueuedDelta_nil request hqd]
    exact ⟨rfl, rfl, rfl⟩
  | cons delta rest =>
    rw [emitNextQueuedDelta_cons request hqd]
    exact ⟨rfl, rfl, rfl⟩

theorem emitNextQueuedDelta_snd (s : ChatStream) :
    (s.emitNextQueuedDelta request).2 = !s.queuedDeltas.isEmpty := by
  unfold emitNextQueuedDelta
  cases s.queuedDeltas <;> rfl

theorem Live.emitNext (h : Live s) : Live (s.emitNextQueuedDelta request).1 := by
  unfold emitNextQueuedDelta
  cases hqd : s.queuedDeltas with
  | nil => exact h
  | cons delta rest =>
    have hsh := h.shown
    rw [hqd] at hsh
    exact h.emit request rest delta h.numbered hsh

/-! ### Handlers -/

/-- An output that was reconciled and gives nothing more. -/
structure Repeated (translation : ChatTranslation) (event : Json) (output : Option Json) :
    Prop where
  content : reconcileChatResponseOutputContent translation.parts (addressOf event) output =
    .ok (translation.parts, .empty)
  calls : ∃ changes, translation.functionCalls.reconcileOutput event output =
    .ok (translation.functionCalls, changes) ∧
      ∀ change ∈ changes, change.suffix = "" ∧
        translation.functionCalls.lookup change.call.key = some change.call

/-- The pending event of a stream that was not settled, if it has one, is an output that was
reconciled. -/
def Waits (s : ChatStream) : Prop :=
  s.pending = none ∨ ∃ event : ResponsesStreamEvent, s.pending = some event ∧
    event.type = "response.output" ∧ Repeated s.translation event.value (finalOutput event.value)

/-- A stream and a completion that have translated the same. -/
structure Follows (s : ChatStream) (b : ChatCompletion) : Prop where
  live : Live s
  unsettled : s.terminalSettled = false
  waits : Waits s
  same : b.translation = s.translation

/-- A stream that takes the next event. -/
structure Ready (s : ChatStream) (b : ChatCompletion) : Prop extends Follows s b where
  drained : s.queuedDeltas = []
  idle : s.pending = none

/-- A handler of the stream does what the one of the completion does. -/
inductive HandledAgrees : Handled → Except ResponsesStreamError ChatCompletion → Prop
  | fails (error : ResponsesStreamError) : HandledAgrees (.error error) (.error error)
  | next {s : ChatStream} {b : ChatCompletion} (hrdy : Ready s b) :
    HandledAgrees (.ok (s, .next)) (.ok b)
  | returns {s : ChatStream} {b : ChatCompletion} (hfol : Follows s b) :
    HandledAgrees (.ok (s, .returns)) (.ok b)

variable {b : ChatCompletion}

theorem Ready.emit (h : Ready s b) (delta : QueuedDelta)
    (hnum : translation.functionCalls.Numbered)
    (hsh : foldDelta s.translation.message delta.chunk = translation.message) :
    Follows (emitQueued request { s with translation := translation } delta)
      (b.translate translation) := by
  have hlive := h.live.emit request [] delta hnum (by
    rw [← hsh, ← h.live.shown, h.drained]
    rfl)
  rw [← h.drained] at hlive
  rw [emitQueued_eq] at hlive ⊢
  exact ⟨hlive, h.unsettled, .inl h.idle, rfl⟩

theorem Ready.translate (h : Ready s b) (hnum : translation.functionCalls.Numbered)
    (heq : translation.message = s.translation.message) :
    Ready { s with translation := translation } (b.translate translation) where
  live := h.live.translate hnum heq
  unsettled := h.unsettled
  waits := .inl h.idle
  same := rfl
  drained := h.drained
  idle := h.idle

theorem Ready.addText (h : Ready s b) (x : Parts × String) : HandledAgrees
      (.ok (if x.2 = "" then ({ s with translation := s.translation.addText x }, .next)
        else (emitContent request { s with translation := s.translation.addText x } x.2, .returns)))
      (.ok (b.translate (s.translation.addText x))) := by
  split_ifs with hnth
  · refine .next (h.translate h.live.numbered ?_)
    rw [← foldDelta_content, hnth]
    rfl
  · exact .returns (h.emit request (.content x.2) h.live.numbered (foldDelta_content ..))

theorem Ready.addRefusal (h : Ready s b) (x : Parts × String) : HandledAgrees
      (.ok (if x.2 = "" then ({ s with translation := s.translation.addRefusal x }, .next)
        else (emitRefusal request { s with translation := s.translation.addRefusal x } x.2,
          .returns)))
      (.ok (b.translate (s.translation.addRefusal x))) := by
  split_ifs with hnth
  · refine .next (h.translate h.live.numbered ?_)
    rw [← foldDelta_refusal, hnth]
    rfl
  · exact .returns (h.emit request (.refusal x.2) h.live.numbered (foldDelta_refusal ..))

/-! ### Text events -/

section

variable (h : Ready s b) (event : Json)

include h event

theorem applyOutputTextDelta_agrees : HandledAgrees (s.applyOutputTextDelta request event)
      ((outputTextDelta s.translation.parts.outputTextParts event).map fun x =>
        b.translate (s.translation.addText x)) := by
  unfold applyOutputTextDelta
  cases outputTextDelta s.translation.parts.outputTextParts event with
  | error error => exact .fails error
  | ok x => exact .returns (h.emit request (.content x.2) h.live.numbered (foldDelta_content ..))

theorem applyOutputTextDone_agrees : HandledAgrees (s.applyOutputTextDone request event)
      ((outputTextDone s.translation.parts.outputTextParts event).map fun x =>
        b.translate (s.translation.addText x)) := by
  unfold applyOutputTextDone
  cases outputTextDone s.translation.parts.outputTextParts event with
  | error error => exact .fails error
  | ok x => exact h.addText request x

theorem applyRefusalDelta_agrees : HandledAgrees (s.applyRefusalDelta request event)
      ((refusalDelta s.translation.parts.refusalParts event).map fun x =>
        b.translate (s.translation.addRefusal x)) := by
  unfold applyRefusalDelta
  cases refusalDelta s.translation.parts.refusalParts event with
  | error error => exact .fails error
  | ok x => exact .returns (h.emit request (.refusal x.2) h.live.numbered (foldDelta_refusal ..))

theorem applyRefusalDone_agrees : HandledAgrees (s.applyRefusalDone request event)
      ((refusalDone s.translation.parts.refusalParts event).map fun x =>
        b.translate (s.translation.addRefusal x)) := by
  unfold applyRefusalDone
  cases refusalDone s.translation.parts.refusalParts event with
  | error error => exact .fails error
  | ok x => exact h.addRefusal request x

end

theorem reconcileChatContentPart_single
    (h : reconcileChatContentPart parts event part = .ok (parts', content)) :
    content.outputText = "" ∨ content.refusal = "" := by
  unfold reconcileChatContentPart at h
  by_cases hobj : isObject part = false
  · rw [if_pos hobj] at h
    cases h
  rw [if_neg hobj] at h
  by_cases htext : Json.string? (itemGet part "type") = some "output_text" ∨
      Json.string? (itemGet part "type") = some "text"
  · rw [if_pos htext] at h
    unfold reconcileOutputTextPart at h
    split at h
    · cases h
    next completed' _ =>
    obtain ⟨x, _, h⟩ := Results.of_map h
    cases h
    exact .inr rfl
  rw [if_neg htext] at h
  split_ifs at h with hrfs
  · unfold reconcileRefusalPart at h
    split at h
    · cases h
    next completed' _ =>
    obtain ⟨x, _, h⟩ := Results.of_map h
    cases h
    exact .inl rfl
  · cases h
    exact .inl rfl

/-- A content part is done on both sides. -/
theorem applyContentPartDone_agrees (h : Ready s b) (event : Json) :
    HandledAgrees (s.applyContentPartDone request event)
      ((reconcileChatContentPart s.translation.parts (addressOf event) (event.get "part")).map
        fun x => b.translate (s.translation.addContent x)) := by
  unfold applyContentPartDone
  cases hrcn : reconcileChatContentPart s.translation.parts (addressOf event)
      (event.get "part") with
  | error error => exact .fails error
  | ok x =>
    obtain ⟨parts, text, refusal⟩ := x
    have hsh := foldQueued_content s.translation (parts, ⟨text, refusal⟩)
    show HandledAgrees (.ok (if text ≠ "" then _ else if refusal ≠ "" then _ else _)) _
    by_cases hsomeText : text ≠ ""
    · have hnrf : refusal = "" :=
        (reconcileChatContentPart_single hrcn).resolve_left hsomeText
      subst hnrf
      rw [if_pos hsomeText]
      refine .returns (h.emit request (.content text) h.live.numbered ?_)
      rw [← hsh, contentDeltas, if_neg hsomeText]
      rfl
    rw [if_neg hsomeText]
    rw [not_not] at hsomeText
    subst hsomeText
    split_ifs with hsomeRefusal
    · refine .returns (h.emit request (.refusal refusal) h.live.numbered ?_)
      rw [← hsh, contentDeltas, if_neg hsomeRefusal]
      rfl
    · rw [not_not] at hsomeRefusal
      subst hsomeRefusal
      exact .next (h.translate h.live.numbered hsh.symm)

theorem handleTextEvent_agrees (h : Ready s b) (event : ResponsesStreamEvent) :
    Option.Rel HandledAgrees (s.handleTextEvent request event) (b.applyTextEvent event) := by
  unfold handleTextEvent ChatCompletion.applyTextEvent
  rw [h.same]
  split_ifs
  · exact .some (applyOutputTextDelta_agrees request h event.value)
  · exact .some (applyOutputTextDone_agrees request h event.value)
  · exact .some (applyRefusalDelta_agrees request h event.value)
  · exact .some (applyRefusalDone_agrees request h event.value)
  · exact .some (applyContentPartDone_agrees request h event.value)
  · exact .none

/-! ### Tool events -/

open ChatFunctionCallAccumulator

theorem message_withCalls (translation : ChatTranslation) (calls : ChatFunctionCallAccumulator) :
    (translation.withCalls calls).message =
      { translation.message with toolCalls := foldedCalls calls } := rfl

theorem Ready.step (h : Ready s b) (hstep : CallStep s.translation.functionCalls calls change)
    (includeIdentity : Bool)
    (hidt : s.translation.functionCalls.opens change = true → includeIdentity = true) :
    HandledAgrees
      (.ok
        (if includeIdentity = true ∨ change.suffix ≠ "" then
          (emitToolCall request { s with translation := s.translation.withCalls calls } change.call
            includeIdentity change.suffix, .returns)
        else ({ s with translation := s.translation.withCalls calls }, .next)))
      (.ok (b.translate (s.translation.withCalls calls))) := by
  have hnum := h.live.numbered.step hstep
  have hsh := foldQueued_step h.live.numbered hstep hidt
    (show s.translation.message.toolCalls = foldedCalls s.translation.functionCalls from rfl)
  rw [← message_withCalls] at hsh
  unfold callDelta at hsh
  by_cases hemit : includeIdentity = true ∨ change.suffix ≠ ""
  · rw [if_pos hemit] at hsh ⊢
    exact .returns (h.emit request (.tool change.call includeIdentity change.suffix) hnum hsh)
  · rw [if_neg hemit] at hsh ⊢
    exact .next (h.translate hnum hsh.symm)

theorem handleOutputItemAdded_agrees (h : Ready s b) (event : Json) :
    HandledAgrees (s.handleOutputItemAdded request event)
      ((s.translation.functionCalls.add event (event.get "item")).map fun x =>
        b.translate (s.translation.withCalls x.1)) := by
  unfold handleOutputItemAdded
  cases hadd : s.translation.functionCalls.add event (event.get "item") with
  | error error => exact .fails error
  | ok x =>
    obtain ⟨calls, result⟩ := x
    rcases add_step h.live.numbered hadd with ⟨rfl, rfl⟩ | ⟨change, rfl, hstep⟩
    · exact .next (h.translate h.live.numbered rfl)
    · exact h.step request hstep _ id

theorem handleArgumentsDelta_agrees (h : Ready s b) (event : Json) :
    HandledAgrees (s.handleArgumentsDelta request event)
      ((s.translation.functionCalls.delta event).map fun x =>
        b.translate (s.translation.withCalls x.1)) := by
  unfold handleArgumentsDelta
  cases hchg : s.translation.functionCalls.delta event with
  | error error => exact .fails error
  | ok x =>
    obtain ⟨calls, change⟩ := x
    obtain ⟨hstep, hold, _⟩ := delta_step h.live.numbered hchg
    refine .returns (h.emit request (.tool change.call false change.suffix)
      (h.live.numbered.step hstep) ?_)
    -- A delta is emitted also when it is empty.
    show FoldedMessage.mk _ _ (mergeCall (foldedCalls s.translation.functionCalls) _) = _
    rw [mergeCall_step h.live.numbered hstep (by rw [hold]; exact Bool.noConfusion)]
    rfl

theorem handleArgumentsDone_agrees (h : Ready s b) (event : Json) :
    HandledAgrees (s.handleArgumentsDone request event)
      ((s.translation.functionCalls.done event).map fun x =>
        b.translate (s.translation.withCalls x.1)) := by
  unfold handleArgumentsDone
  cases hchg : s.translation.functionCalls.done event with
  | error error => exact .fails error
  | ok x =>
    obtain ⟨calls, change⟩ := x
    obtain ⟨hstep, hold, _⟩ := done_step h.live.numbered hchg
    have hagr := h.step request hstep false (by rw [hold]; exact id)
    simp only [Bool.false_eq_true, false_or] at hagr
    exact hagr

variable {calls : ChatFunctionCallAccumulator}

theorem wasKnown_eq (hcall : isFunctionCall (event.get "item") = true)
    (hkyd : keyOf event (event.get "item") = some change.call.key)
    (_ : CallStep s.translation.functionCalls calls change) :
    (!s.wasKnown event) = s.translation.functionCalls.opens change := by
  unfold isFunctionCall at hcall
  rw [Bool.and_eq_true] at hcall
  unfold wasKnown has
  rw [hcall.1, hkyd, Bool.true_and, Option.not_isSome]
  rfl

theorem handleContentItemDone_agrees (h : Ready s b) (event : Json) :
    HandledAgrees (s.handleContentItemDone request event)
      ((reconcileChatOutputItemContent s.translation.parts (addressOf event) (event.get "item")).map
        fun completed => b.translate (s.translation.addContent completed)) := by
  unfold handleContentItemDone
  cases reconcileChatOutputItemContent s.translation.parts (addressOf event) (event.get "item") with
  | error error => exact .fails error
  | ok completed =>
    have hlive := h.live.queue (s.translation.addContent completed) (contentDeltas completed.2)
      h.live.numbered (foldQueued_content s.translation completed)
    obtain ⟨hpend, hset, htr⟩ := emitNextQueuedDelta_frame request
      { s with
        translation := s.translation.addContent completed
        queuedDeltas := s.queuedDeltas ++ contentDeltas completed.2 }
    show HandledAgrees (.ok (_, if _ = true then .returns else .next)) _
    rw [emitNextQueuedDelta_snd]
    cases hqd : s.queuedDeltas ++ contentDeltas completed.2 with
    | nil =>
      rw [hqd] at hlive
      rw [emitNextQueuedDelta_nil request rfl]
      exact .next ⟨⟨hlive, h.unsettled, .inl h.idle, rfl⟩, rfl, h.idle⟩
    | cons delta rest =>
      rw [hqd] at hlive hpend hset htr
      exact .returns ⟨hlive.emitNext request, hset.trans h.unsettled,
        .inl (hpend.trans h.idle), htr.symm⟩

theorem handleOutputItemDone_agrees (h : Ready s b) (event : Json) :
    HandledAgrees (s.handleOutputItemDone request event) (b.applyOutputItemDone event) := by
  unfold handleOutputItemDone ChatCompletion.applyOutputItemDone
  rw [h.same]
  cases hchg : s.translation.functionCalls.reconcileItem event (event.get "item") with
  | error error => exact .fails error
  | ok x =>
    obtain ⟨calls, result⟩ := x
    rcases reconcileItem_step h.live.numbered hchg with
      ⟨rfl, rfl, _⟩ | ⟨change, rfl, hcall, hstep, hkyd, _⟩
    · exact handleContentItemDone_agrees request h event
    · have hagr := h.step request hstep (!s.wasKnown event)
        (by rw [wasKnown_eq hcall hkyd hstep]; exact id)
      show HandledAgrees (if s.wasKnown event = false ∨ change.suffix ≠ "" then _ else _) _
      by_cases hemit : s.wasKnown event = false ∨ change.suffix ≠ ""
      · rw [if_pos (hemit.imp_left fun hkn => by rw [hkn]; rfl)] at hagr
        rw [if_pos hemit]
        exact hagr
      · rw [if_neg fun hkn => hemit (hkn.imp_left fun hkn => by rwa [Bool.not_eq_true'] at hkn)]
          at hagr
        rw [if_neg hemit]
        exact hagr

/-! ### Final outputs -/

theorem Ready.of_same (h : Ready s b) (heq : b'.translation = b.translation) : Ready s b' :=
  ⟨⟨h.live, h.unsettled, h.waits, heq.trans h.same⟩, h.drained, h.idle⟩

theorem Ready.observe (h : Ready s b) (usage : Option (Option UsageTokens)) :
    Ready { s with observedCompletedUsage := usage } b :=
  ⟨⟨⟨h.live.isOpen, h.live.shown, h.live.numbered, h.live.notDone, h.live.role, h.live.unfinished⟩,
    h.unsettled, h.waits, h.same⟩, h.drained, h.idle⟩

/-- The final output is applied on both sides. -/
theorem queueFinalOutput_agrees (h : Ready s b) (event : Json) (output : Option Json) :
    (∃ error, s.queueFinalOutput event output = .error error ∧
      b.applyOutput event output = .error error) ∨
    ∃ s', s.queueFinalOutput event output = .ok s' ∧
      b.applyOutput event output = .ok (b.translate s'.translation) ∧ Live s' ∧
      s'.pending = none ∧ s'.terminalSettled = false ∧ Repeated s'.translation event output := by
  unfold queueFinalOutput ChatCompletion.applyOutput
  rw [h.same]
  cases hcon : reconcileChatResponseOutputContent s.translation.parts (addressOf event)
      output with
  | error error => exact .inl ⟨error, rfl, rfl⟩
  | ok completed =>
  cases hcls : s.translation.functionCalls.reconcileOutput event output with
  | error error => exact .inl ⟨error, rfl, rfl⟩
  | ok reconciled =>
    obtain ⟨after, changes⟩ := reconciled
    have hrun := reconcileOutput_run h.live.numbered hcls
    have hnum := h.live.numbered.run hrun
    have hsh : foldQueued s.translation.message
        (contentDeltas completed.2 ++
          callDeltas s.translation.functionCalls.entries.length changes) =
        ((s.translation.addContent completed).withCalls after).message := by
      rw [foldQueued, List.foldl_append]
      show foldQueued (foldQueued s.translation.message (contentDeltas completed.2)) _ = _
      rw [foldQueued_content, foldQueued_run hrun h.live.numbered le_rfl rfl]
      rfl
    refine .inr ⟨_, ?_, rfl, h.live.queue _ _ hnum hsh, h.idle, h.unsettled, ?_⟩
    · rw [← List.append_assoc]
      rfl
    · exact ⟨reconcileChatResponseOutputContent_again _ hcon,
        reconcileOutput_again h.live.numbered hcls⟩

theorem callDeltas_eq_nil (hnum : calls.Numbered)
    (h : ∀ change ∈ changes, change.suffix = "" ∧ calls.lookup change.call.key = some change.call) :
    callDeltas calls.entries.length changes = [] := by
  induction changes with
  | nil => rfl
  | cons change _ ih =>
    obtain ⟨hnth, hfd⟩ := h change (List.mem_cons_self ..)
    have hat := (getElem?_of_lookup hnum hfd).2
    have hbd := (List.getElem?_eq_some_iff.mp hat).1
    rw [callDeltas_cons, ih fun change hmem => h change (List.mem_cons_of_mem _ hmem), callDelta,
      if_neg]
    · rfl
    · rw [decide_eq_true_eq, hnth]
      rintro (hlate | hsome)
      · omega
      · exact hsome rfl

theorem queueFinalOutput_repeated (hnum : s.translation.functionCalls.Numbered)
    (h : Repeated s.translation event output) : s.queueFinalOutput event output = .ok s := by
  obtain ⟨changes, hagn, hnth⟩ := h.calls
  unfold queueFinalOutput
  rw [h.content]
  show Except.map _ (s.translation.functionCalls.reconcileOutput event output) = _
  rw [hagn]
  show Except.ok (ChatStream.mk _ _ _ _ _ _ _
    (ChatTranslation.mk (s.translation.outputText ++ "") (s.translation.refusal ++ "") _ _)
    (s.queuedDeltas ++ [] ++ callDeltas _ changes) _ _) = .ok s
  rw [callDeltas_eq_nil hnum hnth, String.append_empty, String.append_empty,
    List.append_nil, List.append_nil]
  rfl

theorem handleFinalOutputEvent_agrees (h : Ready s b) (hout : event.type = "response.output") :
    HandledAgrees (s.handleFinalOutputEvent request event) (b.applyResponseOutput event.value) := by
  unfold handleFinalOutputEvent ChatCompletion.applyResponseOutput
  rcases queueFinalOutput_agrees h event.value (finalOutput event.value) with
    ⟨error, hfail, hfail'⟩ | ⟨s', hqd, happ, hlive, hidle, huns, hrpt⟩
  · rw [hfail, hfail']
    exact .fails error
  · rw [hqd, happ]
    show HandledAgrees (.ok (if s'.queuedDeltas = [] then _ else _)) _
    split_ifs with hdr
    · exact .next ⟨⟨hlive, huns, .inl hidle, rfl⟩, hdr, hidle⟩
    · have hlive' : Live { s' with pending := some event } :=
        ⟨hlive.isOpen, hlive.shown, hlive.numbered, hlive.notDone, hlive.role, hlive.unfinished⟩
      obtain ⟨hpend, hset, htr⟩ :=
        emitNextQueuedDelta_frame request { s' with pending := some event }
      refine .returns ⟨hlive'.emitNext request, hset.trans huns,
        .inr ⟨event, hpend, hout, ?_⟩, htr.symm⟩
      rw [deferEvent, htr]
      exact hrpt

/-! ### Terminal events -/

/-- A stream that ended with an error. -/
structure Failed (s : ChatStream) : Prop where
  closed : s.closed = true
  error : ∃ message type code, s.chunks.getLast? = some (.error message type code)
  notDone : Chunk.done ∉ s.chunks

structure CompletedAgain (translation : ChatTranslation) (event : ResponsesStreamEvent) : Prop where
  type : event.type = "response.completed"
  object : isObject (event.value.get "response") = true
  repeated : Repeated translation event.value (itemGet (event.value.get "response") "output")
  finalized : translation.functionCalls.assertFinalized = .ok ()

/-- A turn of the stream is what the loop of the completion does with the event. -/
inductive TurnAgrees : Turn → ChatCompletion × Except ResponsesStreamError Consumed → Prop
  | next {s : ChatStream} {b : ChatCompletion} (hrdy : Ready s b) :
    TurnAgrees (.next s) (b, .ok .next)
  | returns {s : ChatStream} {b : ChatCompletion} (hfol : Follows s b) :
    TurnAgrees (.returns s) (b, .ok .next)
  | stops {s : ChatStream} {b : ChatCompletion} (hfail : Failed s) :
    TurnAgrees (.returns s) (b, .ok .stop)
  | empty {s : ChatStream} {b : ChatCompletion} (hfail : Failed s) :
    TurnAgrees (.returns s) (b, .ok .empty)
  | completes {s : ChatStream} {b : ChatCompletion} {event : ResponsesStreamEvent} (hlive : Live s)
    (hset : s.terminalSettled = true) (heq : b.translation = s.translation)
    (hobs : translatedChatOutputObserved s.translation = true)
    (hagn : CompletedAgain s.translation event) :
    TurnAgrees (.recording s event (usageOf event.value)) (b, .ok .complete)
  | fails {s : ChatStream} {b : ChatCompletion} {failure : StreamFailure}
    {error : ResponsesStreamError} (hlive : Live s) :
    TurnAgrees (.fails s failure) (b, .error error)
  | unanswered {s : ChatStream} {b : ChatCompletion} {failure : StreamFailure} (hlive : Live s) :
    TurnAgrees (.fails s failure) (b, .ok .stop)

theorem HandledAgrees.turn (h : Ready s b) (hagr : HandledAgrees handled applied) :
    TurnAgrees (s.turnOf handled) (b.thenNext applied) := by
  cases hagr with
  | fails => exact .fails h.live
  | next hrdy => exact .next hrdy
  | returns hfol => exact .returns hfol

theorem Live.failed (h : Live s) (hcl : s'.closed = true)
    (hchnk : s'.chunks = s.chunks ++ [.error message type code]) : Failed s' := by
  refine ⟨hcl, ⟨message, type, code, ?_⟩, ?_⟩
  · rw [hchnk, List.getLast?_append]
    rfl
  · rw [hchnk]
    intro hmem
    rcases List.mem_append.mp hmem with hold | hnew
    · exact h.notDone hold
    · rw [List.mem_singleton] at hnew
      cases hnew

/-- The response is completed on both sides. -/
theorem handleCompletedEvent_agrees (h : Ready s b)
    (hicp : event.type = "response.completed")
    (hobj : isObject (event.value.get "response") = true) :
    TurnAgrees (s.handleCompletedEvent request event) (b.applyResponseCompleted event.value) := by
  have h' : Ready { s with observedCompletedUsage := some (usageOf event.value) }
      { b with observedCompletedUsage := some (usageOf event.value) } :=
    (h.observe (some (usageOf event.value))).of_same rfl
  have hobj' : ¬isObject (event.value.get "response") = false := by
    rw [hobj]
    exact Bool.noConfusion
  unfold handleCompletedEvent ChatCompletion.applyResponseCompleted
  rw [if_neg hobj']
  simp only
  rcases queueFinalOutput_agrees h' event.value (itemGet (event.value.get "response") "output") with
    ⟨error, hfail, hfail'⟩ | ⟨s', hqd, happ, hlive, _, huns, hrpt⟩
  · rw [hfail, hfail']
    exact .fails h'.live
  rw [hqd, happ]
  simp only [Except.bind, ChatCompletion.translate]
  cases hfinalized : s'.translation.functionCalls.assertFinalized with
  | error error => exact .fails h'.live
  | ok _ =>
    show TurnAgrees (s'.settleCompleted request event (usageOf event.value))
      (if translatedChatOutputObserved s'.translation = false then _ else _)
    unfold settleCompleted
    rw [if_neg (by rw [huns]; exact Bool.noConfusion)]
    by_cases hemp : translatedChatOutputObserved s'.translation = false
    · rw [if_pos hemp, if_pos hemp]
      exact .empty (hlive.failed rfl rfl)
    · rw [if_neg hemp, if_neg hemp]
      exact .completes
        ⟨hlive.isOpen, hlive.shown, hlive.numbered, hlive.notDone, hlive.role, hlive.unfinished⟩ rfl
          rfl
        (by rwa [Bool.not_eq_false] at hemp) ⟨hicp, hobj, hrpt, hfinalized⟩

theorem handleToolEvent_agrees (h : Ready s b)
    (hhd : s.handleToolEvent request event = some handled) :
    ∃ outcome, b.applyOutputEvent event = some outcome ∧ TurnAgrees (s.turnOf handled) outcome := by
  unfold handleToolEvent at hhd
  unfold ChatCompletion.applyOutputEvent
  rw [h.same]
  split_ifs at hhd with hadd hdlt hdone hitd
  · cases hhd
    rw [if_pos hadd]
    exact ⟨_, rfl, (handleOutputItemAdded_agrees request h event.value).turn h⟩
  · cases hhd
    rw [if_neg hadd, if_pos hdlt]
    exact ⟨_, rfl, (handleArgumentsDelta_agrees request h event.value).turn h⟩
  · cases hhd
    rw [if_neg hadd, if_neg hdlt, if_pos hdone]
    exact ⟨_, rfl, (handleArgumentsDone_agrees request h event.value).turn h⟩
  · cases hhd
    rw [if_neg hadd, if_neg hdlt, if_neg hdone, if_pos hitd]
    exact ⟨_, rfl, (handleOutputItemDone_agrees request h event.value).turn h⟩

theorem applyOutputEvent_of_none (hno : s.handleToolEvent request event = none) :
    b.applyOutputEvent event =
      if event.type = "response.output" then some (b.thenNext (b.applyResponseOutput event.value))
      else if event.type = "response.completed" ∧ isObject (event.value.get "response") = true then
        some (b.applyResponseCompleted event.value)
      else none := by
  unfold handleToolEvent at hno
  split_ifs at hno with hadd hdlt hdone hitd
  unfold ChatCompletion.applyOutputEvent
  rw [if_neg hadd, if_neg hdlt, if_neg hdone, if_neg hitd]

/-- A completed event is marked as terminal. -/
def Marked (event : ResponsesStreamEvent) : Prop :=
  event.terminal = decide (event.type ∈ terminalEventTypes)

/-- **The step**: an event is handled alike on both sides. -/
theorem handleStreamEvent_agrees (h : Ready s b) (hmark : Marked event) :
    TurnAgrees (s.handleStreamEvent request event) (b.consumeEvent event) := by
  unfold handleStreamEvent ChatCompletion.consumeEvent
  simp only
  have heq : (if event.terminal = true ∧ event.type ≠ "response.completed" then
      b.applyTerminalEvent event else b).translation = b.translation := by
    split_ifs <;> rfl
  have h := h.of_same heq
  generalize (if event.terminal = true ∧ event.type ≠ "response.completed" then
    b.applyTerminalEvent event else b) = b at h
  cases createdResponse event with
  | some response =>
    exact .next ⟨⟨⟨h.live.isOpen, h.live.shown, h.live.numbered, h.live.notDone, h.live.role,
      h.live.unfinished⟩, h.unsettled, .inl h.idle, h.same⟩, h.drained, h.idle⟩
  | none =>
    simp only
    unfold handleUpstreamEvent
    have htext := handleTextEvent_agrees request h event
    generalize s.handleTextEvent request event = streamed at htext ⊢
    generalize b.applyTextEvent event = applied at htext ⊢
    cases htext with
    | some hagr => exact hagr.turn h
    | none =>
      rw [Option.none_or, Option.map_none, Option.none_or]
      cases htool : s.handleToolEvent request event with
      | some handled =>
        obtain ⟨outcome, happ, hagr⟩ := handleToolEvent_agrees request h htool
        rw [happ]
        exact hagr
      | none =>
        rw [applyOutputEvent_of_none request htool]
        simp only
        by_cases hout : event.type = "response.output"
        · rw [if_pos hout, if_pos hout]
          exact (handleFinalOutputEvent_agrees request h hout).turn h
        rw [if_neg hout, if_neg hout]
        by_cases hicp : event.type = "response.completed"
        · rw [if_pos hicp]
          by_cases hobj : isObject (event.value.get "response") = true
          · rw [if_pos ⟨hicp, hobj⟩]
            exact handleCompletedEvent_agrees request h hicp hobj
          · have hterm : event.terminal = true := by
              rw [hmark, hicp]
              rfl
            have hnoObject : ¬(event.type = "response.completed" ∧
                isObject (event.value.get "response") = true) := fun hboth => hobj hboth.2
            rw [if_neg hnoObject]
            simp only [hterm, if_true]
            unfold handleCompletedEvent
            rw [if_pos (by rwa [Bool.not_eq_true] at hobj)]
            exact .unanswered h.live
        · have hnoCompletion : ¬(event.type = "response.completed" ∧
              isObject (event.value.get "response") = true) := fun hboth => hicp hboth.1
          rw [if_neg hicp, if_neg hnoCompletion]
          by_cases hterm : event.terminal = true
          · rw [if_pos hterm, if_pos hterm]
            exact .stops (h.live.failed rfl rfl)
          · rw [if_neg hterm, if_neg hterm]
            exact .next h

end UbqGateway.Chat
