import UbqGateway.DeepSeek.StreamTranslator

/-!
# The lifecycle of translated streams

A client that follows the events of a translated stream knows of every open item what the translator
knows (`Follows`).  The functions of the translator keep this, so that the client accepts the whole
stream, if no delta changes how an announced call was shown and no function call has arguments
before it is announced.
-/

namespace UbqGateway.DeepSeek

open Responses Translator Collected

/-- A message and a reasoning item are not open together. -/
def together : Collected Utf16 → Collected Utf16 → Bool
  | .message .., .reasoning .. => false
  | .reasoning .., .message .. => false
  | _, _ => true

/-- What an open item belongs to. -/
inductive Owner
  | message
  | reasoning
  | call (key : ℚ)
deriving DecidableEq

/-- The parts of a message with a text and a refusal, by the indexes of those parts. -/
inductive PartsAt (text refusal : Utf16) : ℤ → ℤ → List (Responses.Part Utf16) → Prop
  | none : PartsAt text refusal (-1) (-1) []
  | text : PartsAt text refusal 0 (-1) [⟨.outputText, text⟩]
  | refusal : PartsAt text refusal (-1) 0 [⟨.refusal, refusal⟩]
  | textRefusal : PartsAt text refusal 0 1 [⟨.outputText, text⟩, ⟨.refusal, refusal⟩]
  | refusalText : PartsAt text refusal 1 0 [⟨.refusal, refusal⟩, ⟨.outputText, text⟩]

namespace PartsAt

variable {text refusal : Utf16} {parts : List (Responses.Part Utf16)}

theorem addText (h : PartsAt text refusal (-1) refusalIndex parts) :
    PartsAt text refusal parts.length refusalIndex (parts ++ [⟨.outputText, text⟩]) := by
  cases h with
  | none => exact .text
  | refusal => exact .refusalText

theorem addRefusal (h : PartsAt text refusal textIndex (-1) parts) :
    PartsAt text refusal textIndex parts.length (parts ++ [⟨.refusal, refusal⟩]) := by
  cases h with
  | none => exact .refusal
  | text => exact .textRefusal

section

variable (h : PartsAt text refusal textIndex refusalIndex parts)

include h

theorem length_eq :
    (if 0 ≤ textIndex then 1 else 0) + (if 0 ≤ refusalIndex then 1 else 0) =
      (parts.length : ℤ) := by
  cases h <;> rfl

theorem text_at (hin : 0 ≤ textIndex) : parts[textIndex.toNat]? = some ⟨.outputText, text⟩ := by
  cases h with
  | none | refusal => exact absurd hin (by decide)
  | text | textRefusal | refusalText => rfl

theorem refusal_at (hin : 0 ≤ refusalIndex) :
    parts[refusalIndex.toNat]? = some ⟨.refusal, refusal⟩ := by
  cases h with
  | none | text => exact absurd hin (by decide)
  | refusal | textRefusal | refusalText => rfl

theorem setText (hin : 0 ≤ textIndex) (text' : Utf16) :
    PartsAt text' refusal textIndex refusalIndex
      (parts.set textIndex.toNat ⟨.outputText, text'⟩) := by
  cases h with
  | none | refusal => exact absurd hin (by decide)
  | text => exact .text
  | textRefusal => exact .textRefusal
  | refusalText => exact .refusalText

theorem setRefusal (hin : 0 ≤ refusalIndex) (refusal' : Utf16) :
    PartsAt text refusal' textIndex refusalIndex
      (parts.set refusalIndex.toNat ⟨.refusal, refusal'⟩) := by
  cases h with
  | none | text => exact absurd hin (by decide)
  | refusal => exact .refusal
  | textRefusal => exact .textRefusal
  | refusalText => exact .refusalText

end

theorem anyText (h : PartsAt text refusal (-1) refusalIndex parts) (text' : Utf16) :
    PartsAt text' refusal (-1) refusalIndex parts := by
  cases h with
  | none => exact .none
  | refusal => exact .refusal

theorem anyRefusal (h : PartsAt text refusal textIndex (-1) parts) (refusal' : Utf16) :
    PartsAt text refusal' textIndex (-1) parts := by
  cases h with
  | none => exact .none
  | text => exact .text

theorem content (h : PartsAt s.text s.refusal s.textPartIndex s.refusalPartIndex parts) :
    messageContent s = parts.map some := by
  unfold Translator.messageContent
  generalize s.text = text at h
  generalize s.refusal = refusal at h
  generalize s.textPartIndex = textIndex at h
  generalize s.refusalPartIndex = refusalIndex at h
  cases h <;> rfl

theorem absent_or_text (h : PartsAt text refusal textIndex refusalIndex parts) :
    textIndex = -1 ∨ 0 ≤ textIndex := by
  cases h <;> decide

theorem absent_or_refusal (h : PartsAt text refusal textIndex refusalIndex parts) :
    refusalIndex = -1 ∨ 0 ≤ refusalIndex := by
  cases h <;> decide

end PartsAt

def messageParts (s : StreamState) : List (Responses.Part Utf16) := (messageContent s).reduceOption

variable {parts : List (Responses.Part Utf16)} {index : ℤ} {call : StreamToolCall}

theorem PartsAt.messageParts_eq
    (h : PartsAt s.text s.refusal s.textPartIndex s.refusalPartIndex parts) :
    messageParts s = parts := by
  unfold messageParts
  rw [h.content]
  unfold List.reduceOption
  rw [List.filterMap_map, Function.id_comp, List.filterMap_some]

namespace Translator

variable (t : Translator)

/-- What a client knows of a call that is announced and not closed. -/
def callContent (call : StreamToolCall) : Collected Utf16 :=
  .call (t.isCustomCall call) call.id call.callId (originalTool call.name t.toolNames).name
    (if t.isCustomCall call = true then [] else call.arguments)

/-- What a client knows of the open items.  The calls are given by their keys. -/
def owns (live : ℚ → Option StreamToolCall) (s : StreamState) : Owner → Option (ℕ × Collected Utf16)
  | .message =>
    if s.messageOpen = true ∧ s.messageDone = false then
      some (s.messageIndex.toNat, .message t.messageId (messageParts s))
    else none
  | .reasoning =>
    if s.reasoningOpen = true then
      some (s.reasoningIndex.toNat,
        .reasoning (t.reasoningItemId s) [⟨.summaryText, s.reasoningSegment⟩])
    else none
  | .call key =>
    (live key).bind fun call =>
      if call.announced = true then some (call.outputIndex.toNat, t.callContent call) else none

section Owns

variable {t} {s : StreamState} {i : ℕ}

theorem owns_message_of (hop : s.messageOpen = true) (hund : s.messageDone = false)
    (hpl : s.messageIndex = i) :
    t.owns live s .message = some (i, .message t.messageId (messageParts s)) := by
  unfold owns
  rw [if_pos ⟨hop, hund⟩, hpl, Int.toNat_natCast]

theorem owns_reasoning_of (hop : s.reasoningOpen = true) (hpl : s.reasoningIndex = i) :
    t.owns live s .reasoning =
      some (i, .reasoning (t.reasoningItemId s) [⟨.summaryText, s.reasoningSegment⟩]) := by
  unfold owns
  rw [if_pos hop, hpl, Int.toNat_natCast]

theorem owns_call_of (hkn : live key = some call)
    (hann : call.announced = true) (hpl : call.outputIndex = i) :
    t.owns live s (.call key) = some (i, t.callContent call) := by
  show (live key).bind _ = _
  rw [hkn, Option.bind_some, if_pos hann, hpl, Int.toNat_natCast]

theorem owns_message (h : t.owns live s .message = some (i, content)) :
    (s.messageOpen = true ∧ s.messageDone = false) ∧
      content = .message t.messageId (messageParts s) := by
  unfold owns at h
  obtain ⟨hop, heq⟩ := Option.ite_none_right_eq_some.mp h
  exact ⟨hop, (congrArg Prod.snd (Option.some.inj heq)).symm⟩

theorem owns_reasoning (h : t.owns live s .reasoning = some (i, content)) : s.reasoningOpen = true ∧
      content = .reasoning (t.reasoningItemId s) [⟨.summaryText, s.reasoningSegment⟩] := by
  unfold owns at h
  obtain ⟨hop, heq⟩ := Option.ite_none_right_eq_some.mp h
  exact ⟨hop, (congrArg Prod.snd (Option.some.inj heq)).symm⟩

theorem owns_call (h : t.owns live s (.call key) = some (i, content)) :
    ∃ call, live key = some call ∧ call.announced = true ∧ content = t.callContent call := by
  unfold owns at h
  obtain ⟨call, hkn, h⟩ := Option.bind_eq_some_iff.mp h
  obtain ⟨hann, heq⟩ := Option.ite_none_right_eq_some.mp h
  exact ⟨call, hkn, hann, (congrArg Prod.snd (Option.some.inj heq)).symm⟩

end Owns

end Translator

/-- What a client that has taken all events so far knows of the stream. -/
structure Follows (t : Translator) (live : ℚ → Option StreamToolCall) (s : StreamState)
    (client : Responses.Client Utf16) : Prop where
  running : client.ended = false
  next : s.nextOutputIndex = client.items.length
  owned : Slot.Owned client.items (t.owns live s)
  stored : Slot.Stored client.items s.output
  parts : PartsAt s.text s.refusal s.textPartIndex s.refusalPartIndex (messageParts s)
  closed : s.messageOpen = false → s.textPartIndex = -1 ∧ s.refusalPartIndex = -1
  idle : s.reasoningOpen = false → s.reasoningPending = false → s.reasoningSegment = []
  held : s.reasoningPending = true → s.reasoningOpen = false ∧ 0 < s.nextOutputIndex
  messagePlaced : s.messageOpen = true → 0 ≤ s.messageIndex
  reasoningPlaced : s.reasoningOpen = true → 0 ≤ s.reasoningIndex
  callPlaced : ∀ key call, live key = some call → call.announced = true → 0 ≤ call.outputIndex

namespace Follows

section

variable (h : Follows t live s client)

include h

theorem message_at (hop : s.messageOpen = true) (hund : s.messageDone = false) :
    ∃ i : ℕ, s.messageIndex = i ∧
      t.owns live s .message = some (i, .message t.messageId (messageParts s)) := by
  have hpl := (Int.toNat_of_nonneg (h.messagePlaced hop)).symm
  exact ⟨_, hpl, owns_message_of hop hund hpl⟩

theorem reasoning_at (hop : s.reasoningOpen = true) : ∃ i : ℕ, s.reasoningIndex = i ∧
      t.owns live s .reasoning =
        some (i, .reasoning (t.reasoningItemId s) [⟨.summaryText, s.reasoningSegment⟩]) := by
  have hpl := (Int.toNat_of_nonneg (h.reasoningPlaced hop)).symm
  exact ⟨_, hpl, owns_reasoning_of hop hpl⟩

theorem call_at (hkn : live key = some call) (hann : call.announced = true) :
    ∃ i : ℕ, call.outputIndex = i ∧ t.owns live s (.call key) = some (i, t.callContent call) := by
  have hpl := (Int.toNat_of_nonneg (h.callPlaced key call hkn hann)).symm
  exact ⟨_, hpl, owns_call_of hkn hann hpl⟩

theorem owner_of_mem
    (hmem : Slot.opened old ∈ client.items) : ∃ w i, t.owns live s w = some (i, old) := by
  obtain ⟨i, hfd⟩ := List.mem_iff_getElem?.mp hmem
  obtain ⟨w, hown⟩ := h.owned.owned hfd
  exact ⟨w, i, hown⟩

theorem together_message (hcl : s.reasoningOpen = false) (id : Utf16)
    (parts : List (Responses.Part Utf16)) :
    ∀ old, Slot.opened old ∈ client.items → together old (.message id parts) = true := by
  intro old hmem
  obtain ⟨w, i, hown⟩ := h.owner_of_mem hmem
  cases w with
  | message =>
    obtain ⟨-, rfl⟩ := owns_message hown
    rfl
  | reasoning =>
    obtain ⟨hop, -⟩ := owns_reasoning hown
    rw [hcl] at hop
    cases hop
  | call =>
    obtain ⟨call, -, -, rfl⟩ := owns_call hown
    rfl

theorem together_reasoning (hcl : ¬ (s.messageOpen = true ∧ s.messageDone = false)) (id : Utf16)
    (parts : List (Responses.Part Utf16)) :
    ∀ old, Slot.opened old ∈ client.items → together old (.reasoning id parts) = true := by
  intro old hmem
  obtain ⟨w, i, hown⟩ := h.owner_of_mem hmem
  cases w with
  | message => exact absurd (owns_message hown).1 hcl
  | reasoning =>
    obtain ⟨-, rfl⟩ := owns_reasoning hown
    rfl
  | call =>
    obtain ⟨call, -, -, rfl⟩ := owns_call hown
    rfl

end

theorem together_call (custom : Bool) (id callId name text : Utf16) (items : Items Utf16) :
    ∀ old, Slot.opened old ∈ items → together old (.call custom id callId name text) = true := by
  intro old _
  cases old <;> rfl

end Follows

theorem assignAt_of_placed (output : List (Option α)) {i : ℕ} (hpl : index = i) (item : α) :
    assignAt output index item = Slot.assign output i item := by
  subst hpl
  exact if_pos (Int.natCast_nonneg i)

theorem Emitted.andThen_assoc (r : Emitted) (f g : StreamState → Emitted) :
    (r.andThen f).andThen g = r.andThen fun s => (f s).andThen g :=
  congrArg (Prod.mk _) (List.append_assoc _ _ _)

theorem Emitted.leads {r : Emitted} (h : Leads together client r post)
    (hnext : ∀ s client, post s client → Leads together client (f s) post') :
    Leads together client (r.andThen f) post' :=
  Leads.append h hnext

/-- What only the functions of the message change. -/
structure SameTexts (s s' : StreamState) : Prop where
  completed : s'.completed = s.completed
  messageDone : s'.messageDone = s.messageDone
  text : s'.text = s.text
  refusal : s'.refusal = s.refusal
  textPartIndex : s'.textPartIndex = s.textPartIndex
  refusalPartIndex : s'.refusalPartIndex = s.refusalPartIndex

/-- What only the functions of the message and of calls change. -/
structure SameMessage (s s' : StreamState) : Prop extends SameTexts s s' where
  toolCalls : s'.toolCalls = s.toolCalls

theorem SameMessage.refl (s : StreamState) : SameMessage s s :=
    ⟨⟨rfl, rfl, rfl, rfl, rfl, rfl⟩, rfl⟩

theorem SameMessage.trans {s s' s'' : StreamState} (h : SameMessage s s')
    (h' : SameMessage s' s'') :
    SameMessage s s'' where
  toolCalls := h'.toolCalls.trans h.toolCalls
  completed := h'.completed.trans h.completed
  messageDone := h'.messageDone.trans h.messageDone
  text := h'.text.trans h.text
  refusal := h'.refusal.trans h.refusal
  textPartIndex := h'.textPartIndex.trans h.textPartIndex
  refusalPartIndex := h'.refusalPartIndex.trans h.refusalPartIndex

/-! ### Reasoning -/

namespace Follows

/-- The reasoning is closed. -/
theorem closeReasoning (h : Follows t live s client) :
    Leads together client (t.closeReasoning s) fun s' client' =>
      s' = (t.closeReasoning s).1 ∧ Follows t live s' client' := by
  unfold Translator.closeReasoning
  split_ifs with hcl
  · exact .nil ⟨rfl, h⟩
  have hop : s.reasoningOpen = true := by simpa using hcl
  obtain ⟨i, hpl, hown⟩ := h.reasoning_at hop
  have hkn := h.owned.holds hown
  have hchks : (reasoning (t.reasoningItemId s) [⟨.summaryText, s.reasoningSegment⟩]).checkPart
      0 ⟨.summaryText, s.reasoningSegment⟩ =
        some (.reasoning (t.reasoningItemId s) [⟨.summaryText, s.reasoningSegment⟩]) :=
          if_pos ⟨le_rfl, rfl⟩
  refine .cons h.running (Client.update_of_check hpl hkn rfl hchks) ?_
  refine .cons h.running (Client.update_of_check hpl hkn rfl hchks) ?_
  refine .cons h.running (Client.close_of_opened hpl hkn ?_) (.nil ⟨rfl, ?_⟩)
  · exact decide_eq_true ⟨rfl, nofun, rfl⟩
  · have hins := h.owned.lt_length hown
    refine { h with
      next := h.next.trans List.length_set.symm
      owned := h.owned.close hown rfl ?_
      stored := ?_
      idle := fun _ _ => rfl
      held := fun hpend => ⟨rfl, (h.held hpend).2⟩
      reasoningPlaced := nofun }
    · intro v hdiff
      cases v with
      | message | call => rfl
      | reasoning => exact absurd rfl hdiff
    · rw [assignAt_of_placed _ hpl]
      exact h.stored.close hins _

theorem takes_reasoning {σ : Type} (s : σ) (hrng : client.ended = false)
    (hpl : index = client.items.length) (id text : Utf16)
    (hfit : ∀ old, Slot.opened old ∈ client.items → together old (.reasoning id []) = true) :
    Leads together client
      (s, ([.itemAdded index (.reasoning id .inProgress []),
        .partAdded id index 0 ⟨.summaryText, []⟩,
        .textDelta .summaryText id index 0 text] : List StreamEvent)) fun s' client' =>
        s' = s ∧ client' =
          { client with items := client.items ++ [.opened (.reasoning id [⟨.summaryText, text⟩])]
            } := by
  have hkn (parts : List (Responses.Part Utf16)) :
      (client.items ++ [Slot.opened (reasoning id parts)])[client.items.length]? =
        some (.opened (.reasoning id parts)) := List.getElem?_concat_length
  have hset (a b : Slot (Collected Utf16) (OutputItem Utf16)) :
      (client.items ++ [a]).set client.items.length b = client.items ++ [b] := by
    rw [List.set_append_right _ _ (le_refl _), Nat.sub_self]
    rfl
  have hadd : client.add together index (.reasoning id .inProgress []) =
      some ⟨client.items ++ [.opened (.reasoning id [])], client.ended⟩ :=
    Client.add_of_together hpl rfl hfit
  have hadds : (reasoning id []).addPart 0 ⟨.summaryText, []⟩ =
      some (.reasoning id [⟨.summaryText, []⟩]) := if_pos ⟨rfl, rfl, rfl⟩
  have happd : (reasoning id [⟨.summaryText, []⟩]).appendText .summaryText 0 text =
      some (.reasoning id [⟨.summaryText, text⟩]) := if_pos le_rfl
  have hpart : Client.update ⟨client.items ++ [.opened (.reasoning id [])], client.ended⟩ id index
      (addPart 0 ⟨.summaryText, []⟩) =
        some ⟨client.items ++ [.opened (.reasoning id [⟨.summaryText, []⟩])], client.ended⟩ := by
    rw [← hset (.opened (.reasoning id [])) (.opened (.reasoning id [⟨.summaryText, []⟩]))]
    exact Client.update_of_opened hpl (hkn []) rfl hadds
  have hfilled : Client.update ⟨client.items ++ [.opened (.reasoning id [⟨.summaryText, []⟩])],
    client.ended⟩
      id index (appendText .summaryText 0 text) =
        some ⟨client.items ++ [.opened (.reasoning id [⟨.summaryText, text⟩])], client.ended⟩ := by
    rw [← hset (.opened (.reasoning id [⟨.summaryText, []⟩]))
      (.opened (.reasoning id [⟨.summaryText, text⟩]))]
    exact Client.update_of_opened hpl (hkn _) rfl happd
  exact .cons hrng hadd (.cons hrng hpart (.cons hrng hfilled (.nil ⟨rfl, rfl⟩)))

section

variable (h : Follows t live s client)

include h

theorem openReasoning (hcl : s.reasoningOpen = false) (text : Utf16) :
    Follows t live { openedReasoning s with reasoningSegment := text } { client with
      items := client.items ++ [.opened
        (.reasoning (t.reasoningItemId (openedReasoning s)) [⟨.summaryText, text⟩])] } := by
  refine { h with
    next := ?_
    owned := h.owned.announce (w := .reasoning) ?_ ?_ ?_
    stored := h.stored.announce _
    idle := nofun
    held := nofun
    reasoningPlaced := fun _ => Int.natCast_nonneg _ }
  · rw [List.length_append, ← h.next]
    rfl
  · exact if_neg (by rw [hcl]; exact Bool.false_ne_true)
  · rw [← h.next]
    rfl
  · intro v hdiff
    cases v with
    | message | call => rfl
    | reasoning => exact absurd rfl hdiff

theorem appendReasoning (hop : s.reasoningOpen = true) (text : Utf16) :
    Leads together client (t.appendReasoning text s) fun s' client' =>
      SameMessage s s' ∧ Follows t live s' client' := by
  obtain ⟨i, hpl, hown⟩ := h.reasoning_at hop
  have hkn := h.owned.holds hown
  refine .cons h.running (Client.update_of_opened hpl hkn rfl (if_pos le_rfl))
    (.nil ⟨⟨⟨rfl, rfl, rfl, rfl, rfl, rfl⟩, rfl⟩, ?_⟩)
  refine { h with
    next := h.next.trans List.length_set.symm
    owned := h.owned.change hown ?_ ?_
    stored := h.stored.change _ _
    idle := fun hcl => ?_ }
  · exact owns_reasoning_of hop hpl
  · intro v hdiff
    cases v with
    | message | call => rfl
    | reasoning => exact absurd rfl hdiff
  · rw [hop] at hcl
    cases hcl

/-- Reasoning is appended, which opens its item first if need be. -/
theorem applyReasoning (text : Utf16) :
    Leads together client (t.applyReasoning text s) fun s' client' =>
      SameMessage s s' ∧ Follows t live s' client' := by
  unfold Translator.applyReasoning
  by_cases hop : s.reasoningOpen = true
  · rw [if_pos hop]
    exact h.appendReasoning hop text
  rw [if_neg hop]
  have hcl : s.reasoningOpen = false := by simpa using hop
  split_ifs with hfst
  · have hnth : client.items = [] := List.eq_nil_of_length_eq_zero (h.next.symm.trans hfst)
    have hsegment : s.reasoningSegment = [] := by
      refine h.idle hcl ?_
      by_contra hpend
      have := (h.held (by simpa using hpend)).2
      omega
    unfold Translator.ensureReasoningItem
    rw [if_neg hop]
    have hfit : ∀ old, Slot.opened old ∈ client.items →
        together old (.reasoning (t.reasoningItemId (openedReasoning s)) []) = true := by
      rw [hnth]
      exact fun _ => nofun
    have htake := takes_reasoning { openedReasoning s with
      reasoningSegment := s.reasoningSegment ++ text } h.running (congrArg Nat.cast h.next)
        (t.reasoningItemId (openedReasoning s)) text hfit
    refine htake.mono fun s' client' heq => ?_
    obtain ⟨rfl, rfl⟩ := heq
    rw [hsegment]
    exact ⟨⟨⟨rfl, rfl, rfl, rfl, rfl, rfl⟩, rfl⟩, h.openReasoning hcl text⟩
  · refine .nil ⟨⟨⟨rfl, rfl, rfl, rfl, rfl, rfl⟩, rfl⟩, { h with
      idle := nofun
      held := fun _ => ⟨hcl, Nat.pos_of_ne_zero hfst⟩
      owned := h.owned.congr fun v => ?_ }⟩
    cases v with
    | message | call => rfl
    | reasoning => exact (if_neg hop).trans (if_neg hop).symm

theorem applyReasoningDelta (text : Utf16) :
    Leads together client (t.applyReasoningDelta text s) fun s' client' =>
      SameMessage s s' ∧ Follows t live s' client' := by
  have hwhl : Follows t live { s with reasoning := s.reasoning ++ text } client :=
    { h with owned := h.owned.congr fun v => by cases v <;> rfl }
  refine (hwhl.applyReasoning text).mono ?_
  rintro s' client' ⟨heq, hfol⟩
  exact ⟨⟨⟨heq.completed, heq.messageDone, heq.text, heq.refusal, heq.textPartIndex,
    heq.refusalPartIndex⟩,
    heq.toolCalls⟩, hfol⟩

theorem flushPendingReasoning (hcl : ¬ (s.messageOpen = true ∧ s.messageDone = false)) :
    Leads together client (t.flushPendingReasoning s) fun s' client' =>
      SameMessage s s' ∧ s'.messageOpen = s.messageOpen ∧ Follows t live s' client' := by
  unfold Translator.flushPendingReasoning
  split_ifs with hidle
  · exact .nil ⟨SameMessage.refl s, rfl, h⟩
  obtain ⟨hop, _⟩ := not_or.mp hidle
  unfold Translator.ensureReasoningItem
  rw [if_neg hop]
  have htake := takes_reasoning (openedReasoning s) h.running (congrArg Nat.cast h.next)
    (t.reasoningItemId (openedReasoning s)) s.reasoningSegment (h.together_reasoning hcl _ _)
  refine Emitted.leads htake fun s' client' heq => ?_
  obtain ⟨rfl, rfl⟩ := heq
  refine (closeReasoning (h.openReasoning (by simpa using hop) s.reasoningSegment)).mono ?_
  rintro s' client' ⟨rfl, hfol⟩
  exact ⟨⟨⟨rfl, rfl, rfl, rfl, rfl, rfl⟩, rfl⟩, rfl, hfol⟩

end

end Follows

/-! ### The message -/

theorem Translator.nextContentIndex_nonneg (s : StreamState) : 0 ≤ nextContentIndex s := by
  unfold Translator.nextContentIndex
  split_ifs <;> decide

theorem SameMessage.closeReasoning (t : Translator) (s : StreamState) :
    SameMessage s (t.closeReasoning s).1 ∧ (t.closeReasoning s).1.messageOpen = s.messageOpen ∧
      (t.closeReasoning s).1.reasoningOpen = false := by
  unfold Translator.closeReasoning
  split_ifs with hcl
  · exact ⟨⟨⟨rfl, rfl, rfl, rfl, rfl, rfl⟩, rfl⟩, rfl, hcl⟩
  · exact ⟨⟨⟨rfl, rfl, rfl, rfl, rfl, rfl⟩, rfl⟩, rfl, rfl⟩

namespace Follows

section

variable (h : Follows t live s client)

include h

/-- The message is opened. -/
theorem openMessage (hunop : s.messageOpen = false)
    (hund : s.messageDone = false) (hcl : s.reasoningOpen = false) :
    Leads together client (t.openMessage s) fun s' client' =>
      SameMessage s s' ∧ s'.messageOpen = true ∧ Follows t live s' client' := by
  have hadd : client.add together s.nextOutputIndex (.message t.messageId .inProgress []) =
      some ⟨client.items ++ [.opened (.message t.messageId [])], client.ended⟩ :=
    Client.add_of_together (congrArg Nat.cast h.next) rfl (h.together_message hcl _ _)
  refine .cons h.running hadd (.nil ⟨⟨⟨rfl, rfl, rfl, rfl, rfl, rfl⟩, rfl⟩, rfl, ?_⟩)
  have hblk : messageParts s = [] := by
    obtain ⟨hntx, hnrf⟩ := h.closed hunop
    have hpts := h.parts
    rw [hntx, hnrf] at hpts
    generalize messageParts s = known at hpts ⊢
    cases hpts
    rfl
  refine { h with
    next := ?_
    owned := h.owned.announce (w := .message) ?_ ?_ ?_
    stored := h.stored.announce _
    closed := nofun
    held := fun _ => ⟨hcl, Nat.succ_pos _⟩
    messagePlaced := fun _ => Int.natCast_nonneg _ }
  · rw [List.length_append, ← h.next]
    rfl
  · exact if_neg (by rw [hunop]; exact fun h => Bool.false_ne_true h.1)
  · rw [← hblk]
    exact owns_message_of rfl hund (congrArg Nat.cast h.next)
  · intro v hdiff
    cases v with
    | message => exact absurd rfl hdiff
    | reasoning | call => rfl

theorem ensureMessageItem (hund : s.messageDone = false) :
    Leads together client (t.ensureMessageItem s) fun s' client' =>
      SameMessage s s' ∧ s'.messageOpen = true ∧ Follows t live s' client' := by
  unfold Translator.ensureMessageItem
  split_ifs with hop
  · exact .nil ⟨⟨⟨rfl, rfl, rfl, rfl, rfl, rfl⟩, rfl⟩, hop, h⟩
  refine Emitted.leads h.closeReasoning ?_
  rintro s' client' ⟨rfl, hfol⟩
  obtain ⟨heq, hmsg, hcl⟩ := SameMessage.closeReasoning t s
  have hunop : (t.closeReasoning s).1.messageOpen = false := by simpa [hmsg] using hop
  refine (hfol.openMessage hunop (heq.messageDone.trans hund) hcl).mono ?_
  rintro s' client' ⟨heq', hmsg', hfol'⟩
  exact ⟨heq.trans heq', hmsg', hfol'⟩

/-- The open message is changed. -/
theorem setMessage {i : ℕ} (hown : t.owns live s .message = some (i, old))
    (hpl : s.messageIndex = i) (hop : s.messageOpen = true) (hund : s.messageDone = false)
    (text refusal : Utf16) (textPartIndex refusalPartIndex : ℤ)
    (hfit : PartsAt text refusal textPartIndex refusalPartIndex parts) : Follows t live { s with
      text := text
      refusal := refusal
      textPartIndex := textPartIndex
      refusalPartIndex := refusalPartIndex } { client with
        items := client.items.set i (.opened (.message t.messageId parts)) } := by
  have hkn : messageParts { s with
      text := text
      refusal := refusal
      textPartIndex := textPartIndex
      refusalPartIndex := refusalPartIndex } = parts := PartsAt.messageParts_eq hfit
  refine { h with
    next := h.next.trans List.length_set.symm
    owned := h.owned.change hown ?_ ?_
    stored := h.stored.change _ _
    parts := ?_
    closed := fun hcl => ?_ }
  · rw [← hkn]
    exact owns_message_of hop hund hpl
  · intro v hdiff
    cases v with
    | message => exact absurd rfl hdiff
    | reasoning | call => rfl
  · rw [hkn]
    exact hfit
  · exact absurd (hcl.symm.trans hop) Bool.false_ne_true

theorem open_of_text (hin : 0 ≤ s.textPartIndex) : s.messageOpen = true := by
  by_contra hunop
  have := (h.closed (by simpa using hunop)).1
  omega

theorem open_of_refusal (hin : 0 ≤ s.refusalPartIndex) : s.messageOpen = true := by
  by_contra hunop
  have := (h.closed (by simpa using hunop)).2
  omega

theorem setTexts {text refusal : Utf16}
    (hfit : PartsAt text refusal s.textPartIndex s.refusalPartIndex (messageParts s)) :
    Follows t live { s with text := text, refusal := refusal } client := by
  have hkn : messageParts { s with text := text, refusal := refusal } = messageParts s :=
    PartsAt.messageParts_eq hfit
  refine { h with
    owned := h.owned.congr fun v => ?_
    parts := ?_ }
  · cases v with
    | message =>
      show (if _ then some (_, message _ (messageParts _)) else none) = _
      rw [hkn]
      rfl
    | reasoning | call => rfl
  · rw [hkn]
    exact hfit

end

theorem message_appendText (id : Utf16) {old : Utf16} (hin : 0 ≤ index)
    (hkn : parts[index.toNat]? = some ⟨kind, old⟩) (text : Utf16) :
    (message id parts).appendText kind index text =
      some (.message id (parts.set index.toNat ⟨kind, old ++ text⟩)) := by
  unfold Collected.appendText Collected.parts
  rw [if_pos hin, hkn]
  exact if_pos rfl

theorem appendText (h : Follows t live s client) (hund : s.messageDone = false)
    (hin : 0 ≤ s.textPartIndex) (text : Utf16) :
    Leads together client (t.appendText text { s with text := s.text ++ text }) fun s' client' =>
      s' = { s with text := s.text ++ text } ∧ Follows t live s' client' := by
  have hop := h.open_of_text hin
  obtain ⟨i, hpl, hown⟩ := h.message_at hop hund
  have happd := message_appendText t.messageId hin (h.parts.text_at hin) text
  refine .cons h.running (Client.update_of_opened hpl (h.owned.holds hown) rfl happd)
    (.nil ⟨rfl, ?_⟩)
  exact h.setMessage hown hpl hop hund _ _ _ _ (h.parts.setText hin (s.text ++ text))

theorem appendRefusal (h : Follows t live s client) (hund : s.messageDone = false)
    (hin : 0 ≤ s.refusalPartIndex) (text : Utf16) :
    Leads together client (t.appendRefusal text { s with refusal := s.refusal ++ text })
      fun s' client' =>
      s' = { s with refusal := s.refusal ++ text } ∧ Follows t live s' client' := by
  have hop := h.open_of_refusal hin
  obtain ⟨i, hpl, hown⟩ := h.message_at hop hund
  have happd := message_appendText t.messageId hin (h.parts.refusal_at hin) text
  refine .cons h.running (Client.update_of_opened hpl (h.owned.holds hown) rfl happd)
    (.nil ⟨rfl, ?_⟩)
  exact h.setMessage hown hpl hop hund _ _ _ _ (h.parts.setRefusal hin (s.refusal ++ text))

theorem takes_part (s : σ) (hrng : client.ended = false) {i : ℕ} (hpl : index = i)
    {id : Utf16} (hkn : client.items[i]? = some (.opened (.message id parts))) (kind : PartKind)
    (hadm : (message id parts).admits kind = true) {partIndex : ℤ}
    (hlast : partIndex = parts.length) (text : Utf16) : Leads together client
      (s, ([.partAdded id index partIndex ⟨kind, []⟩, .textDelta kind id index partIndex text] :
        List StreamEvent)) fun s' client' =>
        s' = s ∧ client' = { client with
          items := client.items.set i (.opened (.message id (parts ++ [⟨kind, text⟩]))) } := by
  have hins := (List.getElem?_eq_some_iff.mp hkn).1
  have hadds : (message id parts).addPart partIndex ⟨kind, []⟩ =
      some (.message id (parts ++ [⟨kind, []⟩])) := if_pos ⟨hlast, rfl, hadm⟩
  have happd : (message id (parts ++ [⟨kind, []⟩])).appendText kind partIndex text =
      some (.message id (parts ++ [⟨kind, text⟩])) := by
    unfold Collected.appendText Collected.parts
    rw [hlast, if_pos (Int.natCast_nonneg _), Int.toNat_natCast, List.getElem?_concat_length]
    simp only [if_true, List.set_append_right _ _ (le_refl _), Nat.sub_self]
    rfl
  refine .cons hrng (Client.update_of_opened hpl hkn rfl hadds) ?_
  refine .cons hrng (Client.update_of_opened hpl (List.getElem?_set_self hins) rfl happd)
    (.nil ⟨rfl, ?_⟩)
  rw [List.set_set]

section

variable (h : Follows t live s client) (hop : s.messageOpen = true)
  (hund : s.messageDone = false)

include h hop hund

theorem addText (habs : s.textPartIndex = -1) :
    Leads together client ((t.addTextPart s).andThen (t.appendText s.text)) fun s' client' =>
      s' = { s with textPartIndex := nextContentIndex s } ∧ Follows t live s' client' := by
  obtain ⟨i, hpl, hown⟩ := h.message_at hop hund
  have hlast : nextContentIndex s = (messageParts s).length := h.parts.length_eq
  have hpts := h.parts
  rw [habs] at hpts
  have htake := takes_part { s with textPartIndex := nextContentIndex s } h.running hpl
    (h.owned.holds hown) .outputText rfl hlast s.text
  refine htake.mono fun s' client' heq => ?_
  obtain ⟨rfl, rfl⟩ := heq
  refine ⟨rfl, h.setMessage hown hpl hop hund s.text s.refusal _ s.refusalPartIndex ?_⟩
  rw [hlast]
  exact hpts.addText

theorem addRefusal (habs : s.refusalPartIndex = -1) :
    Leads together client ((t.addRefusalPart s).andThen (t.appendRefusal s.refusal))
      fun s' client' =>
      s' = { s with refusalPartIndex := nextContentIndex s } ∧ Follows t live s' client' := by
  obtain ⟨i, hpl, hown⟩ := h.message_at hop hund
  have hlast : nextContentIndex s = (messageParts s).length := h.parts.length_eq
  have hpts := h.parts
  rw [habs] at hpts
  have htake := takes_part { s with refusalPartIndex := nextContentIndex s } h.running hpl
    (h.owned.holds hown) .refusal rfl hlast s.refusal
  refine htake.mono fun s' client' heq => ?_
  obtain ⟨rfl, rfl⟩ := heq
  refine ⟨rfl, h.setMessage hown hpl hop hund s.text s.refusal s.textPartIndex _ ?_⟩
  rw [hlast]
  exact hpts.addRefusal

end

end Follows

/-- A client follows a stream that is not finished. -/
structure Streaming (t : Translator) (live : ℚ → Option StreamToolCall) (s : StreamState)
    (client : Responses.Client Utf16) : Prop extends Follows t live s client where
  uncompleted : s.completed = false
  undone : s.messageDone = false
  textless : s.textPartIndex = -1 → s.text = []
  refusalless : s.refusalPartIndex = -1 → s.refusal = []

namespace Streaming

variable {t : Translator}

theorem same (h : Streaming t live s client) {s' : StreamState} {client' : Responses.Client Utf16}
    (hunch : SameTexts s s') (hfol : Follows t live' s' client') :
    Streaming t live' s' client' where
  toFollows := hfol
  uncompleted := hunch.completed.trans h.uncompleted
  undone := hunch.messageDone.trans h.undone
  textless habs := hunch.text.trans (h.textless (hunch.textPartIndex.symm.trans habs))
  refusalless habs := hunch.refusal.trans (h.refusalless (hunch.refusalPartIndex.symm.trans habs))

theorem ensureMessageItem_silent {s : StreamState} (hop : s.messageOpen = true)
    (hsil : f s = (s, [])) : (t.ensureMessageItem s).andThen f = (s, []) := by
  unfold Translator.ensureMessageItem
  rw [if_pos hop]
  show ((f s).1, [] ++ (f s).2) = _
  rw [hsil]
  rfl

/-- Text is appended to the message. -/
theorem applyContentDelta (h : Streaming t live s client) (text : Utf16) :
    Leads together client (t.applyContentDelta text s) fun s' client' =>
      s'.toolCalls = s.toolCalls ∧ Streaming t live s' client' := by
  unfold Translator.applyContentDelta announceTextPart
  rcases h.parts.absent_or_text with habs | hin
  · have hpts := h.parts
    rw [habs] at hpts
    have hany : Follows t live { s with text := s.text ++ text } client := by
      refine h.setTexts ?_
      rw [habs]
      exact hpts.anyText _
    rw [Emitted.andThen_assoc]
    refine Emitted.leads (hany.ensureMessageItem h.undone) ?_
    rintro s' client' ⟨heq, hop, hfol⟩
    have habs' : s'.textPartIndex = -1 := heq.textPartIndex.trans habs
    have hund : s'.messageDone = false := heq.messageDone.trans h.undone
    have his : s'.text = text := by
      rw [heq.text]
      show s.text ++ text = text
      rw [h.textless habs]
      rfl
    rw [if_neg (by rw [habs']; decide)]
    have hlds := hfol.addText hop hund habs'
    rw [his] at hlds
    refine hlds.mono ?_
    rintro s'' client'' ⟨rfl, hfol'⟩
    refine ⟨heq.toolCalls, hfol', heq.completed.trans h.uncompleted, hund, fun hno =>
      ?_, fun hno => ?_⟩
    · have := nextContentIndex_nonneg s'
      have : nextContentIndex s' = -1 := hno
      omega
    · exact heq.refusal.trans (h.refusalless (heq.refusalPartIndex.symm.trans hno))
  · have hop := h.open_of_text hin
    rw [ensureMessageItem_silent (show ({ s with text := s.text ++ text } : StreamState).messageOpen
      = true from
      hop) (if_pos hin)]
    refine (h.appendText h.undone hin text).mono ?_
    rintro s' client' ⟨rfl, hfol⟩
    refine ⟨rfl, hfol, h.uncompleted, h.undone, fun hno => ?_, h.refusalless⟩
    have : s.textPartIndex = -1 := hno
    omega

/-- A refusal is appended to the message. -/
theorem applyRefusal (h : Streaming t live s client) (text : Utf16) :
    Leads together client (t.applyRefusal text s) fun s' client' =>
      s'.toolCalls = s.toolCalls ∧ Streaming t live s' client' := by
  unfold Translator.applyRefusal
  rcases h.parts.absent_or_refusal with habs | hin
  · have hpts := h.parts
    rw [habs] at hpts
    have hany : Follows t live { s with refusal := s.refusal ++ text } client := by
      refine h.setTexts ?_
      rw [habs]
      exact hpts.anyRefusal _
    rw [Emitted.andThen_assoc]
    refine Emitted.leads (hany.ensureMessageItem h.undone) ?_
    rintro s' client' ⟨heq, hop, hfol⟩
    have habs' : s'.refusalPartIndex = -1 := heq.refusalPartIndex.trans habs
    have hund : s'.messageDone = false := heq.messageDone.trans h.undone
    have his : s'.refusal = text := by
      rw [heq.refusal]
      show s.refusal ++ text = text
      rw [h.refusalless habs]
      rfl
    rw [if_neg (by rw [habs']; decide)]
    have hlds := hfol.addRefusal hop hund habs'
    rw [his] at hlds
    refine hlds.mono ?_
    rintro s'' client'' ⟨rfl, hfol'⟩
    refine ⟨heq.toolCalls, hfol', heq.completed.trans h.uncompleted, hund, fun hno =>
      ?_, fun hno => ?_⟩
    · exact heq.text.trans (h.textless (heq.textPartIndex.symm.trans hno))
    · have := nextContentIndex_nonneg s'
      have : nextContentIndex s' = -1 := hno
      omega
  · have hop := h.open_of_refusal hin
    rw [ensureMessageItem_silent
      (show ({ s with refusal := s.refusal ++ text } : StreamState).messageOpen = true from
      hop) (if_pos hin)]
    refine (h.appendRefusal h.undone hin text).mono ?_
    rintro s' client' ⟨rfl, hfol⟩
    refine ⟨rfl, hfol, h.uncompleted, h.undone, h.textless, fun hno => ?_⟩
    have : s.refusalPartIndex = -1 := hno
    omega

end Streaming

end UbqGateway.DeepSeek
