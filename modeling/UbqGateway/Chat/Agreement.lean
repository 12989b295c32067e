import UbqGateway.Chat.Handlers

/-!
# Streamed and buffered completions agree

The pulls of a stream follow the loop of the buffered completion: between two pulls the stream has
emitted and queued the message of what the loop has translated so far.  A completion that is
buffered is what the chunks of the stream fold to, and where the buffered request fails the stream
ends with an error.
-/

namespace UbqGateway.Chat

open Responses ChatStream

/-! ### The end of a stream -/

/-- The message of a completion, as a client has it. -/
def CompletedMessage.folded (message : CompletedMessage) : FoldedMessage where
  content := message.content
  refusal := message.refusal
  toolCalls := message.toolCalls.map fun call => ⟨some call.id, some call.name, call.arguments⟩

/-- A stream that is closed gives what was buffered: the completion, or an error. -/
def Agrees (s : ChatStream) : ChatResponse → Prop
  | .completion body =>
    s.chunks.getLast? = some .done ∧ foldMessage s.chunks = body.message.folded ∧
      foldRole s.chunks = some "assistant" ∧ foldFinishReason s.chunks = some body.finishReason
  | .failure _ _ _ =>
    (∃ message type code, s.chunks.getLast? = some (.error message type code)) ∧
      Chunk.done ∉ s.chunks

variable {s : ChatStream}

theorem Failed.agrees (h : Failed s) (status : ℕ) (message code : String) :
    Agrees s (.failure status message code) := ⟨h.error, h.notDone⟩

theorem respondIncomplete_fails (h : Failed s) (b : ChatCompletion) :
    Agrees s b.respondIncomplete := by
  unfold ChatCompletion.respondIncomplete
  split_ifs
  · exact h.agrees ..
  · exact h.agrees ..
  · exact h.agrees ..

theorem buildMessage_folded {translation : ChatTranslation}
    (hobs : translatedChatOutputObserved translation = true) :
    (ChatCompletion.buildMessage translation).folded = translation.message := by
  unfold ChatCompletion.buildMessage CompletedMessage.folded ChatTranslation.message
  unfold translatedChatOutputObserved at hobs
  rw [Bool.or_eq_true, Bool.or_eq_true, decide_eq_true_eq, decide_eq_true_eq] at hobs
  have hcon : (if translation.outputText ≠ "" ∨
      (translation.functionCalls.hasCalls = false ∧ translation.refusal = "") then
        some translation.outputText else none) = nonEmpty translation.outputText := by
    unfold nonEmpty
    by_cases hblk : translation.outputText = ""
    · have hkn : ¬(translation.outputText ≠ "" ∨
          (translation.functionCalls.hasCalls = false ∧ translation.refusal = "")) := by
        rintro (hsome | ⟨hnoCalls, hnrf⟩)
        · exact hsome hblk
        · rcases hobs with (htext | hrfs) | hcls
          · exact htext hblk
          · exact hrfs hnrf
          · rw [hnoCalls] at hcls
            cases hcls
      rw [if_neg hkn, if_pos hblk]
    · rw [if_pos (.inl hblk), if_neg hblk]
  have hrfs : (if translation.refusal ≠ "" then some translation.refusal else none) =
      nonEmpty translation.refusal := by
    unfold nonEmpty
    by_cases hblk : translation.refusal = ""
    · rw [if_neg (not_not.mpr hblk), if_pos hblk]
    · rw [if_pos hblk, if_neg hblk]
  show FoldedMessage.mk _ _ _ = _
  rw [hcon, hrfs, List.map_map]
  rfl

theorem settleStreamFailure_failed (h : Live s) (failure : StreamFailure) :
    Failed (s.settleStreamFailure failure .quiet) := by
  have heq : (s.settleFailedStream failure .quiet).chunks = s.chunks := by
    unfold settleFailedStream
    by_cases hset : s.terminalSettled = true
    · rw [if_pos hset]
    · rw [if_neg hset]
      cases s.observedCompletedUsage <;> rfl
  have hchnk : (s.settleStreamFailure failure .quiet).chunks = s.chunks ++
    [streamErrorChunk] := by
    rw [← heq]
    rfl
  exact h.failed rfl hchnk

def AddsNothing (chunks : List Chunk) : Prop :=
  ∀ chunk ∈ chunks, ∀ message, foldChunk message chunk = message

theorem foldl_addsNothing {chunks : List Chunk} (h : AddsNothing chunks) (message : FoldedMessage) :
    chunks.foldl foldChunk message = message := by
  induction chunks with
  | nil => rfl
  | cons chunk _ ih =>
    rw [List.foldl_cons, h chunk (List.mem_cons_self ..)]
    exact ih fun chunk hmem => h chunk (List.mem_cons_of_mem _ hmem)

theorem finishChunks_addsNothing (request : ChatRequest) (s : ChatStream)
    (usageTokens : Option UsageTokens) : AddsNothing (s.finishChunks request usageTokens) := by
  intro chunk hmem message
  unfold finishChunks at hmem
  rcases List.mem_append.mp hmem with hmem | hlast
  · rcases List.mem_append.mp hmem with hfst | husg
    · rw [List.mem_singleton] at hfst
      subst hfst
      rfl
    · split_ifs at husg
      · obtain ⟨_, _, rfl⟩ := Option.map_eq_some_iff.mp (Option.mem_toList.mp husg)
        rfl
      · cases husg
  · rw [List.mem_singleton] at hlast
    subst hlast
    rfl

variable {b : ChatCompletion}

/-- The stream's completion and that of the buffer agree. -/
theorem deliverCompleted_agrees (hlive : Live s) (hdr : s.queuedDeltas = [])
    (heq : b.translation = s.translation)
    (hobs : translatedChatOutputObserved s.translation = true) (event : ResponsesStreamEvent)
    (usageTokens : Option UsageTokens) :
    (s.deliverCompleted request event usageTokens).closed = true ∧
      Agrees (s.deliverCompleted request event usageTokens)
        (.completion (b.buildCompletedBody request)) := by
  unfold deliverCompleted
  rw [if_pos hdr]
  refine ⟨rfl, ?_, ?_, ?_, ?_⟩
  · show (s.chunks ++ (_ ++ _ ++ [Chunk.done])).getLast? = _
    rw [List.getLast?_append, List.getLast?_append]
    rfl
  · show foldMessage (s.chunks ++ s.finishChunks request usageTokens) =
      (ChatCompletion.buildMessage b.translation).folded
    rw [heq, buildMessage_folded hobs, ← hlive.shown, hdr]
    show (s.chunks ++ s.finishChunks request usageTokens).foldl foldChunk _ = foldMessage s.chunks
    rw [List.foldl_append]
    exact foldl_addsNothing (finishChunks_addsNothing request s usageTokens) _
  · show foldRole (s.chunks ++ (([Chunk.choice _ _ _ ⟨s.role, none, none, none⟩ _] ++ _) ++ _)) = _
    rw [List.append_assoc, ← List.append_assoc, foldRole, List.findSome?_append,
      show List.findSome? chunkRole (s.chunks ++ [_]) = _ from foldRole_append .., hlive.role]
    show (Option.or (Option.or (if s.sentRole = true then some "assistant" else none)
      (if s.sentRole = true then none else some "assistant")) _) = some "assistant"
    cases s.sentRole <;> rfl
  · show foldFinishReason (s.chunks ++ (([_] ++ _) ++ _)) = _
    rw [List.append_assoc, ← List.append_assoc, foldFinishReason, List.findSome?_append,
      show List.findSome? chunkFinishReason (s.chunks ++ [_]) = _ from foldFinishReason_append ..,
      hlive.unfinished]
    show some _ = some _
    rw [← heq]
    rfl

/-! ### Pulls -/

/-- Between two pulls, a stream will give a response. -/
inductive Gives (request : ChatRequest) (thrown : Option StreamFailure) :
    ChatStream → List ResponsesStreamEvent → ChatResponse → Prop
  | reading {s : ChatStream} {b : ChatCompletion} {events : List ResponsesStreamEvent}
    (hfol : Follows s b) (hmark : ∀ event ∈ events, Marked event) :
    Gives request thrown s events (b.consumeEvents request thrown .quiet events)
  | completing {s : ChatStream} {b : ChatCompletion} {event : ResponsesStreamEvent}
    {events : List ResponsesStreamEvent} (hlive : Live s) (hset : s.terminalSettled = true)
    (hwait : s.pending = some event) (heq : b.translation = s.translation)
    (hobs : translatedChatOutputObserved s.translation = true)
    (hagn : CompletedAgain s.translation event) :
    Gives request thrown s events (.completion (b.buildCompletedBody request))

/-- What a pull leads to: the response, or less to do for it. -/
def PullGives (request : ChatRequest) (thrown : Option StreamFailure) (size : ℕ × ℕ)
    (response : ChatResponse) (pulled : ChatStream × List ResponsesStreamEvent) : Prop :=
  (pulled.1.closed = true ∧ Agrees pulled.1 response) ∨
    (Gives request thrown pulled.1 pulled.2 response ∧
      Prod.Lex (· < ·) (· < ·) (pulled.2.length, pulled.1.queuedDeltas.length) size)

theorem Failed.gives (h : Failed s) (hagr : Agrees s response) :
    PullGives request thrown size response (s, events) := .inl ⟨h.closed, hagr⟩

theorem deliverCompleted_gives (hlive : Live s) (hset : s.terminalSettled = true)
    (heq : b.translation = s.translation)
    (hobs : translatedChatOutputObserved s.translation = true)
    (hagn : CompletedAgain s.translation event) (usageTokens : Option UsageTokens)
    (hsml : events.length < size.1) :
    PullGives request thrown size (.completion (b.buildCompletedBody request))
      (s.deliverCompleted request event usageTokens, events) := by
  by_cases hdr : s.queuedDeltas = []
  · exact .inl (deliverCompleted_agrees hlive hdr heq hobs event usageTokens)
  · have hdef : s.deliverCompleted request event usageTokens = s.deferEvent request event := by
      unfold deliverCompleted
      rw [if_neg hdr]
    have hlive' : Live { s with pending := some event } :=
      ⟨hlive.isOpen, hlive.shown, hlive.numbered, hlive.notDone, hlive.role, hlive.unfinished⟩
    obtain ⟨hpend, hset', htr⟩ :=
      emitNextQueuedDelta_frame request { s with pending := some event }
    have htr : (s.deferEvent request event).translation = s.translation := htr
    rw [hdef]
    refine .inr ⟨.completing (hlive'.emitNext request) (hset'.trans hset) hpend ?_ ?_ ?_,
      Prod.Lex.left _ _ hsml⟩
    · exact heq.trans htr.symm
    · rw [htr]
      exact hobs
    · rw [htr]
      exact hagn

/-- The loop gives what the buffer makes of the same events. -/
theorem pumpLoop_gives (h : Ready s b) (hmark : ∀ event ∈ events, Marked event)
    (hbd : events.length ≤ size.1) :
    PullGives request thrown size (b.consumeEvents request thrown .quiet events)
      (pumpLoop request thrown s events) := by
  induction events generalizing s b with
  | nil =>
    have hfail := settleStreamFailure_failed h.live (thrown.getD prematureEof)
    rw [pumpLoop]
    refine hfail.gives ?_
    cases thrown with
    | none => exact respondIncomplete_fails hfail b
    | some failure => exact respondIncomplete_fails hfail _
  | cons event events ih =>
    have hrest := fun event' hmem => hmark event' (List.mem_cons_of_mem event hmem)
    have hsml : events.length < size.1 := by
      rw [List.length_cons] at hbd
      omega
    have hagr := handleStreamEvent_agrees request h (hmark event (List.mem_cons_self ..))
    rw [pumpLoop, ChatCompletion.consumeEvents]
    generalize s.handleStreamEvent request event = turn at hagr ⊢
    generalize b.consumeEvent event = consumed at hagr ⊢
    cases hagr with
    | next hrdy => exact ih hrdy hrest (le_of_lt hsml)
    | returns hfol => exact .inr ⟨.reading hfol hrest, Prod.Lex.left _ _ hsml⟩
    | stops hfail => exact hfail.gives (respondIncomplete_fails hfail _)
    | empty hfail => exact hfail.gives (hfail.agrees ..)
    | completes hlive hset heq hobs hagn =>
      exact deliverCompleted_gives hlive hset heq hobs hagn _ hsml
    | fails hlive | unanswered hlive =>
      have hfail := settleStreamFailure_failed hlive
      exact (hfail _).gives (respondIncomplete_fails (hfail _) _)

theorem handleStreamEvent_output (hnum : s.translation.functionCalls.Numbered)
    (hdr : s.queuedDeltas = []) (hout : event.type = "response.output")
    (hrpt : Repeated s.translation event.value (finalOutput event.value)) :
    s.handleStreamEvent request event = .next s := by
  have hnotCreated : createdResponse event = none := by
    unfold createdResponse
    rw [hout]
    rfl
  have hntx : s.handleTextEvent request event = none := by
    unfold handleTextEvent
    rw [hout]
    rfl
  have hnoTool : s.handleToolEvent request event = none := by
    unfold handleToolEvent
    rw [hout]
    rfl
  unfold handleStreamEvent
  rw [hnotCreated]
  simp only
  unfold handleUpstreamEvent
  rw [hntx, hnoTool]
  simp only [Option.none_or]
  rw [if_pos hout]
  unfold handleFinalOutputEvent
  rw [queueFinalOutput_repeated hnum hrpt]
  show s.turnOf (.ok (if s.queuedDeltas = [] then _ else _)) = _
  rw [if_pos hdr]
  rfl

/-- A completion that comes again adds nothing. -/
theorem handleStreamEvent_completed (hnum : s.translation.functionCalls.Numbered)
    (hset : s.terminalSettled = true) (hagn : CompletedAgain s.translation event) :
    s.handleStreamEvent request event = .returns
      ({ s with observedCompletedUsage := some (usageOf event.value) }.deliverCompleted request
        event
        (usageOf event.value)) := by
  have hnotCreated : createdResponse event = none := by
    unfold createdResponse
    rw [hagn.type]
    rfl
  have hntx : s.handleTextEvent request event = none := by
    unfold handleTextEvent
    rw [hagn.type]
    rfl
  have hnoTool : s.handleToolEvent request event = none := by
    unfold handleToolEvent
    rw [hagn.type]
    rfl
  have hnotOutput : ¬event.type = "response.output" := by
    rw [hagn.type]
    decide
  unfold handleStreamEvent
  rw [hnotCreated]
  simp only
  unfold handleUpstreamEvent
  rw [hntx, hnoTool]
  simp only [Option.none_or]
  rw [if_neg hnotOutput, if_pos hagn.type]
  unfold handleCompletedEvent
  rw [if_neg (by rw [hagn.object]; exact Bool.noConfusion)]
  simp only
  rw [queueFinalOutput_repeated (s := { s with
    observedCompletedUsage := some (usageOf event.value) }) hnum hagn.repeated]
  simp only [Except.bind, hagn.finalized, Except.map]
  unfold settleCompleted
  rw [if_pos hset]

/-- One pull after another gives the completion of the buffer. -/
theorem pull_gives (h : Gives request thrown s events response) :
    PullGives request thrown (events.length, s.queuedDeltas.length) response
      (s.pull request thrown events) := by
  have hopen : ¬s.closed = true := by
    cases h with
    | reading hfol => rw [hfol.live.isOpen]; exact Bool.noConfusion
    | completing hlive => rw [hlive.isOpen]; exact Bool.noConfusion
  unfold pull
  rw [if_neg hopen]
  by_cases hqd : s.queuedDeltas = []
  swap
  · obtain ⟨delta, rest, hqd⟩ := List.exists_cons_of_ne_nil hqd
    have hemit : (s.emitNextQueuedDelta request).2 = true := by
      rw [emitNextQueuedDelta_snd, hqd]
      rfl
    obtain ⟨hpend, hset, htr⟩ := emitNextQueuedDelta_frame request s
    have hshr : (s.emitNextQueuedDelta request).1.queuedDeltas.length < s.queuedDeltas.length
      := by
      rw [emitNextQueuedDelta_cons request hqd, hqd]
      exact Nat.lt_succ_self _
    rw [if_pos hemit]
    refine .inr ⟨?_, Prod.Lex.right _ hshr⟩
    cases h with
    | reading hfol hmark =>
      refine .reading ⟨hfol.live.emitNext request, hset.trans hfol.unsettled, ?_,
        hfol.same.trans htr.symm⟩ hmark
      unfold Waits
      rw [hpend, htr]
      exact hfol.waits
    | completing hlive hset' hwait heq hobs hagn =>
      refine .completing (hlive.emitNext request) (hset.trans hset') (hpend.trans hwait)
        (heq.trans htr.symm) ?_ ?_
      · rw [htr]
        exact hobs
      · rw [htr]
        exact hagn
  · have hemit : ¬(s.emitNextQueuedDelta request).2 = true := by
      rw [emitNextQueuedDelta_snd, hqd]
      exact Bool.noConfusion
    rw [if_neg hemit]
    cases h with
    | reading hfol hmark =>
      rcases hfol.waits with hidle | ⟨event, hwait, hout, hrpt⟩
      · rw [hidle]
        exact pumpLoop_gives ⟨hfol, hqd, hidle⟩ hmark le_rfl
      · have hlive : Live { s with pending := none } :=
          ⟨hfol.live.isOpen, hfol.live.shown, hfol.live.numbered, hfol.live.notDone,
            hfol.live.role, hfol.live.unfinished⟩
        have hpsd : handleStreamEvent request { s with pending := none } event =
            .next { s with pending := none } :=
          handleStreamEvent_output hlive.numbered hqd hout hrpt
        rw [hwait]
        simp only
        rw [pumpLoop, hpsd]
        exact pumpLoop_gives ⟨⟨hlive, hfol.unsettled, .inl rfl, hfol.same⟩, hqd, rfl⟩ hmark
          le_rfl
    | @completing _ event _ hlive hset hwait heq hobs hagn =>
      rw [hwait]
      simp only
      rw [pumpLoop, handleStreamEvent_completed (s := { s with pending := none }) hlive.numbered
        hset hagn]
      exact .inl (deliverCompleted_agrees
        (s := { s with pending := none, observedCompletedUsage := some (usageOf event.value) })
        ⟨hlive.isOpen, hlive.shown, hlive.numbered, hlive.notDone, hlive.role, hlive.unfinished⟩ hqd
          heq
        hobs _ _)

theorem pulls_gives (n : ℕ) (h : Gives request thrown s events response) :
    ((pulls request thrown n s events).1.closed = true ∧
        Agrees (pulls request thrown n s events).1 response) ∨
      Gives request thrown (pulls request thrown n s events).1 (pulls request thrown n s events).2
        response := by
  induction n generalizing s events with
  | zero => exact .inr h
  | succ n ih =>
    rcases pull_gives h with ⟨hcl, hagr⟩ | ⟨hgvs, _⟩
    · -- A stream that is closed is not pulled any more.
      have hsty : ∀ n (t : ChatStream) events, t.closed = true →
          (pulls request thrown n t events).1 = t := by
        intro n
        induction n with
        | zero => exact fun _ _ _ => rfl
        | succ _ ih =>
          intro t events hcl
          have heq : t.pull request thrown events = (t, events) := by
            unfold pull
            rw [if_pos hcl]
          rw [pulls, heq]
          exact ih t events hcl
      rw [pulls, hsty n _ _ hcl]
      exact .inl ⟨hcl, hagr⟩
    · exact ih hgvs

theorem exists_pulls (h : Gives request thrown s events response) :
    ∃ n, (pulls request thrown n s events).1.closed = true ∧
      Agrees (pulls request thrown n s events).1 response := by
  obtain ⟨size, hsize⟩ : ∃ size, (events.length, s.queuedDeltas.length) = size := ⟨_, rfl⟩
  have hwf : WellFounded (Prod.Lex (α := ℕ) (β := ℕ) (· < ·) (· < ·)) :=
    WellFounded.prod_lex Nat.lt_wfRel.wf Nat.lt_wfRel.wf
  induction size using hwf.induction generalizing s events with
  | _ _ ih =>
    rcases pull_gives h with ⟨hcl, hagr⟩ | ⟨hgvs, hsml⟩
    · exact ⟨1, hcl, hagr⟩
    · rw [hsize] at hsml
      obtain ⟨n, hcl, hagr⟩ := ih _ hsml hgvs rfl
      exact ⟨n + 1, hcl, hagr⟩

theorem pulls_initial (n : ℕ) (first : ResponsesStreamEvent) (events : List ResponsesStreamEvent)
    (id : String) (created : ℚ) (lifecycle : MeteredTransportLifecycle) :
    pulls request thrown (n + 1) (.initial first id created lifecycle) events =
      pulls request thrown (n + 1) { ChatStream.initial first id created lifecycle with
        pending := none } (first :: events) := rfl

theorem gives_initial (hmark : ∀ event ∈ first :: events, Marked event) (id : String) (created : ℚ)
    (lifecycle : MeteredTransportLifecycle) :
    Gives request thrown { ChatStream.initial first id created lifecycle with pending := none }
      (first :: events)
      (completeChatCompletions request id created lifecycle first events thrown .quiet) :=
  .reading
    ⟨⟨rfl, rfl, ChatFunctionCallAccumulator.Numbered.empty, nofun, rfl, rfl⟩, rfl, .inl rfl,
      rfl⟩ hmark

/-! ### Agreement -/

/-- An event that is handled again adds nothing to the message of the stream, and queues nothing. -/
def HandledForNothing (s : ChatStream) : Turn → Prop
  | .next s' | .returns s' =>
    s'.queuedDeltas = [] ∧ ∃ chunks, s'.chunks = s.chunks ++ chunks ∧ AddsNothing chunks
  | _ => False

theorem Gives.handledForNothing (h : Gives request thrown s events response)
    (hdr : s.queuedDeltas = []) (hwait : s.pending = some event) :
    HandledForNothing s (handleStreamEvent request { s with pending := none } event) := by
  cases h with
  | reading hfol =>
    rcases hfol.waits with hidle | ⟨event', hwait', hout, hrpt⟩
    · rw [hwait] at hidle
      cases hidle
    · rw [hwait] at hwait'
      cases hwait'
      rw [handleStreamEvent_output (s := { s with pending := none }) hfol.live.numbered hdr
        hout hrpt]
      exact ⟨hdr, [], (List.append_nil _).symm, List.forall_mem_nil _⟩
  | completing hlive hset hwait' _ _ hagn =>
    rw [hwait] at hwait'
    cases hwait'
    rw [handleStreamEvent_completed (s := { s with pending := none }) hlive.numbered hset hagn]
    unfold deliverCompleted
    rw [if_pos hdr]
    exact ⟨hdr, _, rfl, finishChunks_addsNothing _ _ _⟩

/-- The stream closes with what the buffered request answers: the chunks fold to the completion and
end with `[DONE]`, or they end with an error.  An event that is handled again, after its deltas were
emitted, emits nothing a second time. -/
theorem stream_agrees (request : ChatRequest) (id : String) (created : ℚ)
    (lifecycle : MeteredTransportLifecycle) (first : ResponsesStreamEvent)
    (events : List ResponsesStreamEvent) (thrown : Option StreamFailure)
    (hmark : ∀ event ∈ first :: events, Marked event) :
    (∃ n, (pulls request thrown n (.initial first id created lifecycle) events).1.closed = true ∧
      Agrees (pulls request thrown n (.initial first id created lifecycle) events).1
        (completeChatCompletions request id created lifecycle first events thrown .quiet)) ∧
    ∀ n s event, (pulls request thrown (n + 1) (.initial first id created lifecycle) events).1 = s →
      s.closed = false → s.queuedDeltas = [] → s.pending = some event →
        HandledForNothing s (handleStreamEvent request { s with pending := none } event) := by
  have hgvs : Gives request thrown _ _ _ := gives_initial hmark id created lifecycle
  constructor
  · obtain ⟨n, hcl, hagr⟩ := exists_pulls hgvs
    cases n with
    | zero => cases hcl
    | succ n => exact ⟨n + 1, hcl, hagr⟩
  · rintro n s event rfl hopen hdr hwait
    rw [pulls_initial] at hopen hdr hwait ⊢
    rcases pulls_gives (n + 1) hgvs with ⟨hcl, _⟩ | hgvs
    · rw [hcl] at hopen
      cases hopen
    · exact hgvs.handledForNothing hdr hwait

/-- A stream whose text is given in a delta and again when it completes. -/
theorem stream_agrees_hello : ∃ n, Agrees (pulls ⟨"m", false⟩ none n
        (.initial ⟨"", .obj [("output_index", .num 0), ("delta", .str "hi")],
          "response.output_text.delta", false⟩ "c" 1 .fresh)
        [⟨"", .obj [("response", .obj [("output", .arr [.obj [("content", .arr [.obj
          [("type", .str "output_text"), ("text", .str "hi")]])]])])], "response.completed",
            true⟩]).1
      (completeChatCompletions ⟨"m", false⟩ "c" 1 .fresh
        ⟨"", .obj [("output_index", .num 0), ("delta", .str "hi")], "response.output_text.delta",
          false⟩
        [⟨"", .obj [("response", .obj [("output", .arr [.obj [("content", .arr [.obj
          [("type", .str "output_text"), ("text", .str "hi")]])]])])], "response.completed", true⟩]
        none .quiet) := by
  have hmark : ∀ event ∈ [(⟨"", .obj [("output_index", .num 0), ("delta", .str "hi")],
      "response.output_text.delta", false⟩ : ResponsesStreamEvent),
      ⟨"", .obj [("response", .obj [("output", .arr [.obj [("content", .arr [.obj
        [("type", .str "output_text"), ("text", .str "hi")]])]])])], "response.completed", true⟩],
      Marked event := by
    intro event hmem
    rcases List.mem_cons.mp hmem with rfl | hmem
    · rfl
    · rw [List.mem_singleton] at hmem
      subst hmem
      rfl
  obtain ⟨⟨n, _, hagr⟩, _⟩ := stream_agrees ⟨"m", false⟩ "c" 1 .fresh _ _ none hmark
  exact ⟨n, hagr⟩

end UbqGateway.Chat
