import UbqGateway.DeepSeek.StreamTranslator

/-!
# The terminal event of a translated stream

No event that a chunk translates to ends the response, and the final pass ends it once, with the
kind that `terminalKind` announces (`Translator.keeps_push`, `Translator.exists_finish_eq`).
-/

namespace UbqGateway.DeepSeek

open Responses

/-- Whether an event ends the response. -/
def isTerminal : StreamEvent → Bool
  | .terminal _ _ => true
  | _ => false

/-- A function of the translator that leaves the response open. -/
structure Keeps (s : StreamState) (after : Emitted) : Prop where
  completed : after.1.completed = s.completed
  quiet : ∀ event ∈ after.2, isTerminal event = false

namespace Keeps

theorem nil (heq : s'.completed = s.completed) : Keeps s (s', []) :=
  ⟨heq, fun _ hmem => absurd hmem List.not_mem_nil⟩

theorem cons (hrng : isTerminal event = false) (hrest : Keeps s (s', events)) :
    Keeps s (s', event :: events) := by
  refine ⟨hrest.completed, fun other hmem => ?_⟩
  rcases List.mem_cons.mp hmem with rfl | hmem
  · exact hrng
  · exact hrest.quiet other hmem

theorem append (hfst : ∀ event ∈ before, isTerminal event = false) (hsnd : Keeps s (s', after)) :
    Keeps s (s', before ++ after) := by
  refine ⟨hsnd.completed, fun event hmem => ?_⟩
  rcases List.mem_append.mp hmem with hmem | hmem
  · exact hfst event hmem
  · exact hsnd.quiet event hmem

theorem andThen (hfst : Keeps s before) (hsnd : ∀ s', Keeps s' (f s')) :
    Keeps s (before.andThen f) :=
  ⟨(hsnd before.1).completed.trans hfst.completed,
    (append hfst.quiet ⟨rfl, (hsnd before.1).quiet⟩ : Keeps (f before.1).1 _).quiet⟩

theorem of_eq (h : Keeps s' after) (heq : s'.completed = s.completed) : Keeps s after :=
  ⟨h.completed.trans heq, h.quiet⟩

theorem ite [Decidable p] (hleft : Keeps s yes) (hright : Keeps s no) :
    Keeps s (if p then yes else no) := by
  split_ifs
  · exact hleft
  · exact hright

end Keeps

namespace Translator

variable (t : Translator) (s : StreamState)

/-! ### Chunks -/

theorem keeps_startEvents : Keeps s (startEvents s) :=
  .ite (.nil rfl) (.cons rfl (.cons rfl (.nil rfl)))

theorem keeps_closeReasoning : Keeps s (t.closeReasoning s) :=
  .ite (.nil rfl) (.cons rfl (.cons rfl (.cons rfl (.nil rfl))))

theorem keeps_ensureMessageItem : Keeps s (t.ensureMessageItem s) :=
  .ite (.nil rfl) ((t.keeps_closeReasoning s).andThen fun _ => .cons rfl (.nil rfl))

theorem keeps_ensureReasoningItem : Keeps s (t.ensureReasoningItem s) :=
  .ite (.nil rfl) (.cons rfl (.cons rfl (.nil rfl)))

theorem keeps_applyReasoningDelta (text : Utf16) : Keeps s (t.applyReasoningDelta text s) := by
  have happend : ∀ s', Keeps s' (t.appendReasoning text s') := fun s' => .cons rfl (.nil rfl)
  have held : Keeps s (holdReasoning text { s with reasoning := s.reasoning ++ text }) := .nil rfl
  have hop : Keeps s (t.ensureReasoningItem { s with reasoning := s.reasoning ++ text }) :=
    (t.keeps_ensureReasoningItem _).of_eq rfl
  exact .ite ((happend _).of_eq rfl) (.ite (hop.andThen happend) held)

theorem keeps_applyContentDelta (text : Utf16) : Keeps s (t.applyContentDelta text s) := by
  have hop : Keeps s (t.ensureMessageItem { s with text := s.text ++ text }) :=
    (t.keeps_ensureMessageItem _).of_eq rfl
  have hadd : ∀ s', Keeps s' (t.addTextPart s') := fun s' => .cons rfl (.nil rfl)
  have hann : Keeps s (t.announceTextPart { s with text := s.text ++ text }) :=
    hop.andThen fun s' => .ite (.nil rfl) (hadd s')
  have hsh : ∀ s', Keeps s' (t.appendText text s') := fun s' => .cons rfl (.nil rfl)
  exact hann.andThen hsh

theorem keeps_applyRefusal (text : Utf16) : Keeps s (t.applyRefusal text s) := by
  have hop : Keeps s (t.ensureMessageItem { s with refusal := s.refusal ++ text }) :=
    (t.keeps_ensureMessageItem _).of_eq rfl
  have hsh : ∀ s', Keeps s' (t.appendRefusal text s') := fun s' => .cons rfl (.nil rfl)
  have hadd : ∀ s', Keeps s' (t.addRefusalPart s') := fun s' => .cons rfl (.nil rfl)
  exact (hop.andThen fun s' => .ite (.nil rfl) (hadd s')).andThen hsh

theorem keeps_elim (value : Option α) (h : ∀ a, Keeps s (f a)) :
    Keeps s (value.elim (s, []) f) := by
  cases value with
  | none => exact .nil rfl
  | some a => exact h a

theorem keeps_announceToolCall (call : StreamToolCall) : Keeps s (t.announceToolCall call s) :=
  (t.keeps_closeReasoning s).andThen fun _ => .cons rfl (.nil rfl)

theorem argumentEvents_quiet :
    ∀ event ∈ t.argumentEvents call fragment, isTerminal event = false := by
  intro event hmem
  unfold argumentEvents at hmem
  split_ifs at hmem
  · rw [List.mem_singleton.mp hmem]
    rfl
  · exact absurd hmem List.not_mem_nil

theorem keeps_applyToolCallDelta (raw : Json) (position : ℕ) :
    Keeps s (t.applyToolCallDelta raw position s) := by
  have hmgd : Keeps s (withCall (t.mergeToolCallDelta s raw position) s, []) := .nil rfl
  have hann := (t.keeps_announceToolCall (withCall (t.mergeToolCallDelta s raw position) s)
    (t.mergeToolCallDelta s raw position)).of_eq hmgd.completed
  exact .ite (hann.andThen fun s' => ⟨rfl, t.argumentEvents_quiet⟩)
    ⟨rfl, t.argumentEvents_quiet⟩

theorem keeps_applyToolCalls (calls : List Json) (position : ℕ) :
    Keeps s (t.applyToolCalls position calls s) := by
  induction calls generalizing position s with
  | nil => exact .nil rfl
  | cons raw _ ih =>
    exact Keeps.andThen (.ite (t.keeps_applyToolCallDelta s raw position) (.nil rfl)) fun s' =>
      ih s' _

theorem keeps_applyDelta (delta : Json) : Keeps s (t.applyDelta delta s) := by
  have htext : Keeps s (t.applyTextDelta delta s) :=
    Keeps.andThen (keeps_elim s _ fun text => t.keeps_applyReasoningDelta s text) fun s' =>
      keeps_elim s' _ fun text => t.keeps_applyContentDelta s' text
  exact (htext.andThen fun s' => keeps_elim s' _ fun text =>
    t.keeps_applyRefusal s' text).andThen fun s' =>
    t.keeps_applyToolCalls s' _ 0

theorem keeps_applyChoices (choices : List Json) : Keeps s (t.applyChoices choices s) := by
  induction choices generalizing s with
  | nil => exact .nil rfl
  | cons choice _ ih =>
    have hchosen : Keeps s (t.applyChoice choice s) :=
      .ite ((t.keeps_applyDelta (captureFinishReason choice s) _).of_eq rfl) (.nil rfl)
    exact Keeps.andThen (.ite hchosen (.nil rfl)) ih

theorem keeps_push (chunk : Json) : Keeps s (t.push chunk s) :=
  (keeps_startEvents s).andThen fun s' =>
    (t.keeps_applyChoices (t.captureUsage chunk s') _).of_eq rfl

/-! ### The final pass -/

theorem closePart_quiet : ∀ event ∈ t.closePart s partIndex part, isTerminal event = false := by
  intro event hmem
  unfold closePart at hmem
  split_ifs at hmem
  · simp only [List.mem_cons, List.not_mem_nil, or_false] at hmem
    rcases hmem with rfl | rfl <;> rfl
  · exact absurd hmem List.not_mem_nil

theorem keeps_closeMessage : Keeps s (t.closeMessage s) :=
  .ite (.nil rfl) (.append (t.closePart_quiet s)
    (.append (t.closePart_quiet s) (.cons rfl (.nil rfl))))

theorem keeps_flushPendingReasoning : Keeps s (t.flushPendingReasoning s) := by
  have hreopened : Keeps s ((t.ensureReasoningItem s).andThen fun s' =>
      (s', [t.reasoningDeltaEvent s' s'.reasoningSegment])) :=
    (t.keeps_ensureReasoningItem s).andThen fun _ => .cons rfl (.nil rfl)
  exact .ite (.nil rfl) (hreopened.andThen t.keeps_closeReasoning)

theorem keeps_closeAnnounced (status : ItemStatus) (call : StreamToolCall) :
    Keeps s (t.closeAnnounced status call s) := by
  refine .ite (.append ?_ (.cons rfl (.nil rfl))) (.cons rfl (.cons rfl (.nil rfl)))
  intro event hmem
  split_ifs at hmem
  · rw [List.mem_singleton.mp hmem]
    rfl
  · exact absurd hmem List.not_mem_nil

theorem keeps_closeCalls (status : ItemStatus) (calls : List StreamToolCall) :
    Keeps s (t.closeCalls status calls s) := by
  induction calls generalizing s with
  | nil => exact .nil rfl
  | cons call _ ih =>
    have hcl : Keeps s (t.closeToolCall status call s) :=
      .ite (t.keeps_closeAnnounced s status call) (.ite (.nil rfl)
        ((t.keeps_announceToolCall s call).andThen fun s' => t.keeps_closeAnnounced s' status _))
    exact hcl.andThen ih

/-- `finish`, up to its terminal event. -/
def finishItems : Emitted :=
  ((((startEvents { s with completed := true }).andThen t.closeMessage).andThen
    t.flushPendingReasoning).andThen (t.closeToolCalls (t.toolItemStatus s))).andThen
      t.closeReasoning

theorem keeps_finishItems : Keeps { s with completed := true } (t.finishItems s) :=
  ((((keeps_startEvents _).andThen t.keeps_closeMessage).andThen
    t.keeps_flushPendingReasoning).andThen
    fun s' => t.keeps_closeCalls s' _ _).andThen t.keeps_closeReasoning

theorem finish_eq (hunfinished : s.completed = false) :
    t.finish s = ((t.finishItems s).1, (t.finishItems s).2 ++
      [.terminal { t.terminalEnvelope s with usage := (t.finishItems s).1.usage }
        (t.finishItems s).1.output]) := by
  unfold finish
  rw [if_neg (by rw [hunfinished]; exact Bool.false_ne_true)]
  rfl

theorem status_terminalEnvelope : (t.terminalEnvelope s).status = match t.terminalKind s with
      | .completed => "completed"
      | .incomplete => "incomplete"
      | .failed => "failed" := by
  unfold terminalEnvelope deepSeekTerminalEnvelope terminalKind
  cases t.profile.finishDisposition s.finishReason <;> rfl

end Translator

end UbqGateway.DeepSeek
