import UbqGateway.DeepSeek.StreamCalls

/-!
# Whole translated streams

The final pass closes all items that are open, so that a client that followed the chunks accepts the
whole stream (`translate_accepted`).
-/

namespace UbqGateway.DeepSeek

open Responses Translator Emitted

/-! ### The final pass -/

namespace Follows

def without (live : ℚ → Option StreamToolCall) (key : ℚ) (other : ℚ) : Option StreamToolCall :=
  if other = key then none else live other

theorem without_self (live : ℚ → Option StreamToolCall) (key : ℚ) : without live key key = none :=
    if_pos rfl

theorem without_of_ne (live : ℚ → Option StreamToolCall) (hdiff : other ≠ key) :
    without live key other = live other := if_neg hdiff

section

variable (h : Follows t live s client)

include h

/-- A call is closed. -/
theorem closeToolCall {call : StreamToolCall} (hkn : live call.key = some call)
    (hfit : call.announced = false → call.name ≠ [] → t.isCustomCall call = false →
      call.arguments = [])
    (hfin : status ≠ .inProgress) :
    Leads together client (t.closeToolCall status call s) fun s' client' =>
      s'.messageOpen = s.messageOpen ∧ s'.messageDone = s.messageDone ∧
        Follows t (without live call.key) s' client' := by
  unfold Translator.closeToolCall
  by_cases hann : call.announced = true
  · rw [if_pos hann]
    exact h.closeAnnounced _ hkn hann hfin (without_self live _) fun other => without_of_ne live
  rw [if_neg hann]
  have hnew : call.announced = false := by simpa using hann
  have hbef : ∀ known', live call.key = some known' → known'.announced = false := by
    intro known' his
    rw [hkn] at his
    cases his
    exact hnew
  split_ifs with hname
  · refine .nil ⟨rfl, rfl, h.setUnannounced hbef (fun call' his => ?_) fun other =>
      without_of_ne live⟩
    rw [without_self] at his
    cases his
  unfold Translator.announceToolCall
  rw [andThen_assoc]
  refine leads h.closeReasoning ?_
  rintro s' client' ⟨his, hfol⟩
  obtain ⟨heq, hmsg, -⟩ := SameMessage.closeReasoning t s
  rw [← his] at heq hmsg
  have hcon : t.callContent (t.announcedCall s' call) =
      .call (t.isCustomCall call) (t.announcedCall s' call).id call.callId
        (originalTool call.name t.toolNames).name [] := by
    show Collected.call (t.isCustomCall call) _ _ _
      (if t.isCustomCall call = true then [] else call.arguments) = _
    split_ifs with hcus
    · rfl
    · rw [hfit hnew hname (by simpa using hcus)]
      rfl
  have hops := hfol.openToolCall (fun key => if key = call.key then some (t.announcedCall s' call)
    else live key) hbef (if_pos rfl) rfl rfl hcon fun other hdiff => if_neg hdiff
  refine leads hops ?_
  rintro s'' client'' ⟨rfl, hfol'⟩
  have hfd : (t.openToolCall call s').1.toolCalls.lookup call.key =
    some (t.announcedCall s' call) :=
    Record.lookup_insert_self ..
  rw [hfd, Option.getD_some]
  refine (hfol'.closeAnnounced (without live call.key) (if_pos rfl) rfl hfin (without_self live _)
    fun other hdiff => ?_).mono ?_
  · rw [without_of_ne live hdiff, if_neg hdiff]
  · rintro s'' client'' ⟨hmsg', hmd', hfol''⟩
    exact ⟨hmsg'.trans hmsg, hmd'.trans heq.messageDone, hfol''⟩

/-- The calls are closed one after the other. -/
theorem closeCalls {calls : List StreamToolCall} (hkn : ∀ call ∈ calls, live call.key = some call)
    (hdist : (calls.map StreamToolCall.key).Nodup)
    (hfit : ∀ call ∈ calls, call.announced = false → call.name ≠ [] → t.isCustomCall call = false →
      call.arguments = [])
    (hfin : status ≠ .inProgress) :
    Leads together client (t.closeCalls status calls s) fun s' client' =>
      s'.messageOpen = s.messageOpen ∧ s'.messageDone = s.messageDone ∧
        ∃ left : ℚ → Option StreamToolCall, Follows t left s' client' ∧
          ∀ key call, left key = some call → live key = some call ∧
            key ∉ calls.map StreamToolCall.key := by
  induction calls generalizing live s client with
  | nil => exact .nil ⟨rfl, rfl, live, h, fun key call his => ⟨his, List.not_mem_nil⟩⟩
  | cons call rest ih =>
    rw [closeCalls]
    rw [List.map_cons, List.nodup_cons] at hdist
    refine leads (h.closeToolCall (hkn call List.mem_cons_self) (hfit call List.mem_cons_self) hfin)
      ?_
    rintro s' client' ⟨hmsg, hmd, hfol⟩
    have hoths : ∀ other ∈ rest, without live call.key other.key = some other := by
      intro other hmem
      have hdiff : other.key ≠ call.key := fun heq =>
        hdist.1 (heq ▸ List.mem_map_of_mem hmem)
      rw [without_of_ne live hdiff]
      exact hkn other (List.mem_cons_of_mem _ hmem)
    refine (ih hfol hoths hdist.2 fun other hmem => hfit other (List.mem_cons_of_mem _ hmem)).mono
      ?_
    rintro s'' client'' ⟨hmsg', hmd', left, hfol', honly⟩
    refine ⟨hmsg'.trans hmsg, hmd'.trans hmd, left, hfol', ?_⟩
    intro key other his
    obtain ⟨his', hnotRest⟩ := honly key other his
    have hdiff : key ≠ call.key := by
      rintro rfl
      rw [without_self] at his'
      cases his'
    rw [without_of_ne live hdiff] at his'
    exact ⟨his', List.not_mem_cons_of_ne_of_not_mem hdiff hnotRest⟩

theorem startEvents : Leads together client (startEvents s) fun s' client' =>
      s' = { s with started := true } ∧ Follows t live s' client' := by
  unfold Translator.startEvents
  split_ifs with hstrd
  · refine .nil ⟨?_, h⟩
    rw [← hstrd]
  · refine .cons h.running rfl (.cons h.running rfl (.nil ⟨rfl, ?_⟩))
    exact { h with owned := h.owned.congr fun v => by cases v <;> rfl }

theorem closePart (hop : s.messageOpen = true) (hund : s.messageDone = false)
    (hin : 0 ≤ partIndex → (messageParts s)[partIndex.toNat]? = some part) (state : σ) :
    Leads together client (state, t.closePart s partIndex part) fun _ client' =>
      client' = client := by
  unfold Translator.closePart
  split_ifs with hprs
  · obtain ⟨i, hpl, hown⟩ := h.message_at hop hund
    have holds := h.owned.holds hown
    have hchks : (Collected.message t.messageId (messageParts s)).checkPart partIndex part =
        some (.message t.messageId (messageParts s)) := if_pos ⟨hprs, hin hprs⟩
    exact .cons h.running (Client.update_of_check hpl holds rfl hchks)
      (.cons h.running (Client.update_of_check hpl holds rfl hchks) (.nil rfl))
  · exact .nil rfl

/-- The message is closed. -/
theorem closeMessage : Leads together client (t.closeMessage s) fun s' client' =>
      s'.toolCalls = s.toolCalls ∧ ¬ (s'.messageOpen = true ∧ s'.messageDone = false) ∧
        Follows t live s' client' := by
  unfold Translator.closeMessage
  split_ifs with hcl
  · refine .nil ⟨rfl, fun hpend => ?_, h⟩
    rcases hcl with hcl | hcl
    · exact Bool.false_ne_true (hcl.symm.trans hpend.1)
    · exact Bool.false_ne_true (hpend.2.symm.trans hcl)
  obtain ⟨hop, hund⟩ : s.messageOpen = true ∧ s.messageDone = false := by simpa using hcl
  obtain ⟨i, hpl, hown⟩ := h.message_at hop hund
  have holds := h.owned.holds hown
  refine Leads.append (h.closePart hop hund h.parts.text_at s) (f := fun _ => (_, _)) ?_
  rintro - client' rfl
  refine Leads.append (h.closePart hop hund h.parts.refusal_at s) (f := fun _ => (_, _)) ?_
  rintro - client' rfl
  refine .cons h.running (Client.close_of_opened hpl holds ?_) (.nil ⟨rfl, ?_, ?_⟩)
  · exact decide_eq_true ⟨rfl, by decide, h.parts.content⟩
  · exact fun hpend => Bool.false_ne_true hpend.2.symm
  · have hno : ¬ (s.messageOpen = true ∧ true = false) := fun hpend =>
      Bool.false_ne_true hpend.2.symm
    refine { h with
      next := h.next.trans List.length_set.symm
      owned := h.owned.close hown (if_neg hno) ?_
      stored := ?_ }
    · intro v hdiff
      cases v with
      | message => exact absurd rfl hdiff
      | reasoning | call => rfl
    · rw [assignAt_of_placed _ hpl]
      exact h.stored.close (h.owned.lt_length hown) _

theorem emitTerminal (hmessage : ¬ (s.messageOpen = true ∧ s.messageDone = false))
    (hreasoning : s.reasoningOpen = false) (hcls : ∀ key, live key = none)
    (envelope : ResponsesEnvelope) :
    Leads together client (emitTerminal envelope s) fun _ client' => client'.ended = true := by
  have hnobody : ∀ w, t.owns live s w = none := by
    intro w
    cases w with
    | message => exact if_neg hmessage
    | reasoning => exact if_neg (by rw [hreasoning]; exact Bool.false_ne_true)
    | call key => exact owns_none (hcls key) nofun
  have hset := h.owned.settled hnobody
  have hout := h.stored.complete hset
  refine .cons h.running (if_pos ⟨fun slot hmem => ?_, hout⟩) (.nil rfl)
  obtain ⟨result, rfl⟩ := hset slot hmem
  rfl

end

end Follows

/-! ### Streams that fit -/

namespace Translator

variable (t : Translator)

/-- The deltas of `tool_calls` fit, one after the other. -/
def ToolCallsFit : ℕ → List Json → StreamState → Prop
  | _, [], _ => True
  | position, raw :: rest, s =>
    (isObject (some raw) = true → DeltaFits t s raw position) ∧
      ToolCallsFit (position + 1) rest
        (if isObject (some raw) = true then t.applyToolCallDelta raw position s else (s, [])).1

/-- The tool calls of a delta fit, after its texts. -/
def DeltasFit (delta : Json) (s : StreamState) : Prop :=
  t.ToolCallsFit 0 ((Json.items? (delta.get "tool_calls")).getD [])
    ((t.applyTextDelta delta s).andThen (t.applyRefusalDelta delta)).1

/-- The deltas of choices fit, one after the other. -/
def ChoicesFit : List Json → StreamState → Prop
  | [], _ => True
  | choice :: rest, s =>
    (isObject (some choice) = true → isObject (choice.get "delta") = true →
      t.DeltasFit ((choice.get "delta").getD .null) (captureFinishReason choice s)) ∧
      ChoicesFit rest (if isObject (some choice) = true then t.applyChoice choice s else (s, [])).1

/-- The deltas of chunks fit, one after the other. -/
def ChunksFit : List Json → StreamState → Prop
  | [], _ => True
  | chunk :: rest, s =>
    t.ChoicesFit ((Json.items? (chunk.get "choices")).getD [])
      (t.captureUsage chunk (startEvents s).1) ∧
      ChunksFit rest (t.push chunk s).1

/-- The function calls that the final pass announces have no arguments. -/
def CallsFit (s : StreamState) : Prop :=
  ∀ call ∈ s.toolCalls.values, call.announced = false → call.name ≠ [] →
    t.isCustomCall call = false →
    call.arguments = []

/-- All deltas of a stream fit, and so do its calls at the end. -/
def StreamFits (chunks : List Json) : Prop :=
  t.ChunksFit chunks newStreamState ∧ t.CallsFit (t.pushAll chunks newStreamState).1

end Translator

namespace Translating

theorem initial (t : Translator) : Translating t newStreamState .fresh where
  running := rfl
  next := rfl
  owned := Slot.Owned.empty _ fun w => by cases w <;> rfl
  stored := Slot.Stored.empty
  parts := PartsAt.none
  closed _ := ⟨rfl, rfl⟩
  idle _ _ := rfl
  held := nofun
  messagePlaced := nofun
  reasoningPlaced := nofun
  callPlaced := nofun
  uncompleted := rfl
  undone := rfl
  textless _ := rfl
  refusalless _ := rfl
  keyed := nofun

section

variable (h : Translating t s client)

include h

theorem of_streaming (heq : s'.toolCalls = s.toolCalls)
    (hstreaming : Streaming t s.toolCalls.lookup s' client') : Translating t s' client' := by
  rw [← heq] at hstreaming
  refine ⟨hstreaming, ?_⟩
  rw [heq]
  exact h.keyed

theorem applyTextDelta (delta : Json) :
    Leads together client (t.applyTextDelta delta s) (Translating t) := by
  unfold Translator.applyTextDelta
  have hreasoning : Leads together client
      ((nonEmptyText (delta.get "reasoning_content")).elim (s, []) fun text =>
        t.applyReasoningDelta text s)
      (Translating t) := by
    cases nonEmptyText (delta.get "reasoning_content") with
    | none => exact .nil h
    | some text =>
      refine (h.applyReasoningDelta text).mono ?_
      rintro s' client' ⟨heq, hfol⟩
      exact h.of_streaming heq.toolCalls (h.toStreaming.same heq.toSameTexts hfol)
  refine leads hreasoning fun s' client' hfol => ?_
  cases nonEmptyText (delta.get "content") with
  | none => exact .nil hfol
  | some text =>
    refine (hfol.applyContentDelta text).mono ?_
    rintro s'' client'' ⟨heq, hstreaming⟩
    exact hfol.of_streaming heq hstreaming

theorem applyRefusalDelta (delta : Json) :
    Leads together client (t.applyRefusalDelta delta s) (Translating t) := by
  unfold Translator.applyRefusalDelta
  cases nonEmptyText (delta.get "refusal") with
  | none => exact .nil h
  | some text =>
    refine (h.applyRefusal text).mono ?_
    rintro s' client' ⟨heq, hstreaming⟩
    exact h.of_streaming heq hstreaming

theorem applyToolCalls (hfit : t.ToolCallsFit position raws s) :
    Leads together client (t.applyToolCalls position raws s) (Translating t) := by
  induction raws generalizing position s client with
  | nil => exact .nil h
  | cons raw _ ih =>
    rw [applyToolCalls]
    obtain ⟨hone, hoths⟩ := hfit
    have hfst : Leads together client
        (if isObject (some raw) = true then t.applyToolCallDelta raw position s else (s, []))
        (Translating t) := by
      split_ifs with hobj
      · exact h.applyToolCallDelta (hone hobj)
      · exact .nil h
    refine leads hfst.keep ?_
    rintro s' client' ⟨rfl, htr⟩
    exact ih htr hoths

theorem captureFinishReason (choice : Json) : Translating t (captureFinishReason choice s) client :=
  { h with owned := h.owned.congr fun v => by cases v <;> rfl }

theorem captureUsage (chunk : Json) : Translating t (t.captureUsage chunk s) client :=
  { h with owned := h.owned.congr fun v => by cases v <;> rfl }

theorem applyDelta (hfit : t.DeltasFit delta s) :
    Leads together client (t.applyDelta delta s) (Translating t) := by
  have htxs : Leads together client
    ((t.applyTextDelta delta s).andThen (t.applyRefusalDelta delta))
      (Translating t) :=
    leads (h.applyTextDelta delta) fun s' client' hfol => hfol.applyRefusalDelta delta
  refine leads htxs.keep ?_
  rintro s' client' ⟨rfl, htr⟩
  exact htr.applyToolCalls hfit

theorem applyChoices (hfit : t.ChoicesFit choices s) :
    Leads together client (t.applyChoices choices s) (Translating t) := by
  induction choices generalizing s client with
  | nil => exact .nil h
  | cons choice _ ih =>
    rw [applyChoices]
    obtain ⟨hone, hoths⟩ := hfit
    have hfst : Leads together client
        (if isObject (some choice) = true then t.applyChoice choice s else (s, []))
          (Translating t) := by
      split_ifs with hobj
      · unfold Translator.applyChoice
        split_ifs with hdlt
        · exact (h.captureFinishReason choice).applyDelta (hone hobj hdlt)
        · exact .nil (h.captureFinishReason choice)
      · exact .nil h
    refine leads hfst.keep ?_
    rintro s' client' ⟨rfl, htr⟩
    exact ih htr hoths

theorem startEvents : Leads together client (startEvents s) (Translating t) := by
  refine h.toFollows.startEvents.mono ?_
  rintro s' client' ⟨rfl, hfol⟩
  exact ⟨h.toStreaming.same ⟨rfl, rfl, rfl, rfl, rfl, rfl⟩ hfol, h.keyed⟩

theorem pushAll (hfit : t.ChunksFit chunks s) :
    Leads together client (t.pushAll chunks s) (Translating t) := by
  induction chunks generalizing s client with
  | nil => exact .nil h
  | cons chunk _ ih =>
    rw [pushAll]
    obtain ⟨hone, hoths⟩ := hfit
    have hfst : Leads together client (t.push chunk s) (Translating t) := by
      refine leads h.startEvents.keep ?_
      rintro s' client' ⟨rfl, htr⟩
      exact (htr.captureUsage chunk).applyChoices hone
    refine leads hfst.keep ?_
    rintro s' client' ⟨rfl, htr⟩
    exact ih htr hoths

end

theorem mem_orderedCalls (s : StreamState) (call : StreamToolCall) :
    call ∈ orderedCalls s ↔ ∃ key, s.toolCalls.lookup key = some call := by
  unfold Translator.orderedCalls
  rw [List.mem_mergeSort, Record.mem_values_iff]

/-- All calls of the state are closed. -/
theorem closeToolCalls (h : Translating t s client)
    (hfol : Follows t s.toolCalls.lookup s' client') (heq : s'.toolCalls = s.toolCalls)
    (hfit : t.CallsFit s) (hfin : status ≠ .inProgress) :
    Leads together client' (t.closeToolCalls status s') fun s'' client'' =>
      s''.messageOpen = s'.messageOpen ∧ s''.messageDone = s'.messageDone ∧
        Follows t (fun _ => none) s'' client'' := by
  unfold Translator.closeToolCalls
  have hkn : ∀ call ∈ orderedCalls s', s.toolCalls.lookup call.key = some call := by
    intro call hmem
    obtain ⟨key, hfd⟩ := (mem_orderedCalls s' call).mp hmem
    rw [heq] at hfd
    rw [h.keyed key call hfd]
    exact hfd
  have hdist : ((orderedCalls s').map StreamToolCall.key).Nodup := by
    unfold Translator.orderedCalls
    have hperm := (List.mergeSort_perm s'.toolCalls.values
      fun left right => decide (left.key ≤ right.key)).map StreamToolCall.key
    have hkeys : s.toolCalls.values.map StreamToolCall.key = s.toolCalls.entries.map Prod.fst := by
      unfold Record.values
      rw [List.map_map]
      refine List.map_congr_left fun entry hmem => ?_
      exact h.keyed entry.1 entry.2 ((Record.mem_entries_iff _ _ _).mp hmem)
    rw [hperm.nodup_iff, heq, hkeys]
    exact s.toolCalls.nodup
  have hfit' : ∀ call ∈ orderedCalls s', call.announced = false → call.name ≠ [] →
      t.isCustomCall call = false → call.arguments = [] := by
    intro call hmem
    refine hfit call ?_
    rw [Record.mem_values_iff, ← heq]
    exact (mem_orderedCalls s' call).mp hmem
  refine (hfol.closeCalls hkn hdist hfit' hfin).mono ?_
  rintro s'' client'' ⟨hmsg, hmd, left, hfol', honly⟩
  refine ⟨hmsg, hmd, ?_⟩
  have hnth : left = fun _ => none := by
    funext key
    cases his : left key with
    | none => rfl
    | some call =>
      obtain ⟨hfd, hnotCall⟩ := honly key call his
      rw [← heq] at hfd
      have hmem := (mem_orderedCalls s' call).mpr ⟨key, hfd⟩
      rw [heq] at hfd
      rw [← h.keyed key call hfd] at hnotCall
      exact absurd (List.mem_map_of_mem hmem) hnotCall
  rw [← hnth]
  exact hfol'

/-- The stream is finished. -/
theorem finish (h : Translating t s client) (hfit : t.CallsFit s) :
    Leads together client (t.finish s) fun _ client' => client'.ended = true := by
  unfold Translator.finish
  rw [h.uncompleted, if_neg Bool.false_ne_true]
  have hcomp : Follows t s.toolCalls.lookup { s with completed := true } client :=
    { h.toFollows with owned := h.owned.congr fun v => by cases v <;> rfl }
  have hfin : t.toolItemStatus s ≠ .inProgress := by
    unfold Translator.toolItemStatus
    split_ifs <;> nofun
  have hmessage : Leads together client
      ((Translator.startEvents { s with completed := true }).andThen t.closeMessage)
        fun s' client' =>
        s'.toolCalls = s.toolCalls ∧ ¬ (s'.messageOpen = true ∧ s'.messageDone = false) ∧
          Follows t s.toolCalls.lookup s' client' := by
    refine leads hcomp.startEvents ?_
    rintro s' client' ⟨rfl, hfol⟩
    exact hfol.closeMessage
  have hreasoning : Leads together client
      (((Translator.startEvents { s with completed := true }).andThen t.closeMessage).andThen
        t.flushPendingReasoning) fun s' client' =>
        s'.toolCalls = s.toolCalls ∧ ¬ (s'.messageOpen = true ∧ s'.messageDone = false) ∧
          Follows t s.toolCalls.lookup s' client' := by
    refine leads hmessage ?_
    rintro s' client' ⟨htoolCalls, hcl, hfol⟩
    refine (hfol.flushPendingReasoning hcl).mono ?_
    rintro s'' client'' ⟨heq, hmsg, hfol'⟩
    rw [← hmsg, ← heq.messageDone] at hcl
    exact ⟨heq.toolCalls.trans htoolCalls, hcl, hfol'⟩
  have hcls : Leads together client
      ((((Translator.startEvents { s with completed := true }).andThen t.closeMessage).andThen
        t.flushPendingReasoning).andThen (t.closeToolCalls (t.toolItemStatus s))) fun s' client' =>
        ¬ (s'.messageOpen = true ∧ s'.messageDone = false) ∧
          Follows t (fun _ => none) s' client' := by
    refine leads hreasoning ?_
    rintro s' client' ⟨htoolCalls, hcl, hfol⟩
    refine (h.closeToolCalls hfol htoolCalls hfit hfin).mono ?_
    rintro s'' client'' ⟨hmsg, hmd, hfol'⟩
    rw [← hmsg, ← hmd] at hcl
    exact ⟨hcl, hfol'⟩
  rw [andThen_assoc]
  refine leads hcls ?_
  rintro s' client' ⟨hcl, hfol⟩
  refine leads hfol.closeReasoning ?_
  rintro s'' client'' ⟨rfl, hfol'⟩
  obtain ⟨heq, hmsg, hqt⟩ := SameMessage.closeReasoning t s'
  rw [← hmsg, ← heq.messageDone] at hcl
  exact hfol'.emitTerminal hcl hqt (fun _ => rfl) _

end Translating

/-! ### What is done stands together -/

section

variable {t : Translator} {s : StreamState}

theorem doneTogether_andThen {before : Emitted} {f : StreamState → Emitted}
    (h : DoneTogether before.2) (hf : ∀ s, DoneTogether (f s).2) :
    DoneTogether (before.andThen f).2 :=
  h.append (hf before.1)

theorem doneTogether_closeReasoning : DoneTogether (t.closeReasoning s).2 := by
  unfold Translator.closeReasoning
  split_ifs
  · trivial
  · refine ⟨?_, ?_, doneTogether_of_none (by simp [OutputEvent.finishes])⟩
    · rintro _ ⟨⟩
      exact ⟨_, rfl, .inl rfl⟩
    · rintro _ ⟨⟩
      exact ⟨_, rfl, .inr rfl⟩

theorem doneTogether_startEvents : DoneTogether (Translator.startEvents s).2 := by
  unfold Translator.startEvents
  split_ifs
  · trivial
  · exact doneTogether_of_none (by simp [OutputEvent.finishes])

theorem doneTogether_ensureReasoningItem : DoneTogether (t.ensureReasoningItem s).2 := by
  unfold Translator.ensureReasoningItem
  split_ifs
  · trivial
  · exact doneTogether_of_none (by simp [Translator.announceReasoning, OutputEvent.finishes])

theorem doneTogether_ensureMessageItem : DoneTogether (t.ensureMessageItem s).2 := by
  unfold Translator.ensureMessageItem
  split_ifs
  · trivial
  · exact doneTogether_andThen doneTogether_closeReasoning fun s =>
      doneTogether_of_none (by simp [Translator.openMessage, OutputEvent.finishes])

theorem doneTogether_applyReasoningDelta (text : Utf16) :
    DoneTogether (t.applyReasoningDelta text s).2 := by
  have happend (s : StreamState) : DoneTogether (t.appendReasoning text s).2 :=
    doneTogether_of_none
      (by simp [Translator.appendReasoning, Translator.reasoningDeltaEvent, OutputEvent.finishes])
  unfold Translator.applyReasoningDelta Translator.applyReasoning
  split_ifs
  · exact happend _
  · exact doneTogether_andThen doneTogether_ensureReasoningItem happend
  · trivial

theorem doneTogether_applyContentDelta (text : Utf16) :
    DoneTogether (t.applyContentDelta text s).2 := by
  refine doneTogether_andThen (doneTogether_andThen doneTogether_ensureMessageItem fun s => ?_)
    fun s => doneTogether_of_none (by simp [Translator.appendText, OutputEvent.finishes])
  split_ifs
  · trivial
  · exact doneTogether_of_none (by simp [Translator.addTextPart, OutputEvent.finishes])

theorem doneTogether_applyRefusal (text : Utf16) : DoneTogether (t.applyRefusal text s).2 := by
  refine doneTogether_andThen (doneTogether_andThen doneTogether_ensureMessageItem fun s => ?_)
    fun s => doneTogether_of_none (by simp [Translator.appendRefusal, OutputEvent.finishes])
  split_ifs
  · trivial
  · exact doneTogether_of_none (by simp [Translator.addRefusalPart, OutputEvent.finishes])

theorem doneTogether_announceToolCall (call : StreamToolCall) :
    DoneTogether (t.announceToolCall call s).2 :=
  doneTogether_andThen doneTogether_closeReasoning fun s =>
    doneTogether_of_none (by simp [Translator.openToolCall, OutputEvent.finishes])

theorem doneTogether_argumentEvents (call : StreamToolCall) (fragment : Utf16) :
    DoneTogether (t.argumentEvents call fragment) := by
  unfold Translator.argumentEvents
  split_ifs
  · exact doneTogether_of_none (by simp [OutputEvent.finishes])
  · trivial

theorem doneTogether_applyToolCalls (deltas : List Json) (position : ℕ) (s : StreamState) :
    DoneTogether (t.applyToolCalls position deltas s).2 := by
  induction deltas generalizing position s with
  | nil => trivial
  | cons _ _ ih =>
    refine doneTogether_andThen ?_ (ih (position + 1))
    split_ifs
    · unfold Translator.applyToolCallDelta Translator.applyMerged
      split_ifs
      · exact doneTogether_andThen (doneTogether_announceToolCall _) fun s =>
          doneTogether_argumentEvents _ _
      · exact doneTogether_argumentEvents _ _
    · trivial

theorem doneTogether_applyDelta (delta : Json) : DoneTogether (t.applyDelta delta s).2 := by
  refine doneTogether_andThen (doneTogether_andThen (doneTogether_andThen ?_ fun s => ?_)
    fun s => ?_) fun s => doneTogether_applyToolCalls _ _ _
  · cases nonEmptyText (delta.get "reasoning_content") with
    | none => trivial
    | some text => exact doneTogether_applyReasoningDelta text
  · cases nonEmptyText (delta.get "content") with
    | none => trivial
    | some text => exact doneTogether_applyContentDelta text
  · unfold Translator.applyRefusalDelta
    cases nonEmptyText (delta.get "refusal") with
    | none => trivial
    | some text => exact doneTogether_applyRefusal text

theorem doneTogether_applyChoices (choices : List Json) (s : StreamState) :
    DoneTogether (t.applyChoices choices s).2 := by
  induction choices generalizing s with
  | nil => trivial
  | cons _ _ ih =>
    refine doneTogether_andThen ?_ ih
    unfold Translator.applyChoice
    split_ifs
    · exact doneTogether_applyDelta _
    · trivial
    · trivial

theorem doneTogether_pushAll (chunks : List Json) (s : StreamState) :
    DoneTogether (t.pushAll chunks s).2 := by
  induction chunks generalizing s with
  | nil => trivial
  | cons _ _ ih =>
    exact doneTogether_andThen (doneTogether_andThen doneTogether_startEvents fun s =>
      doneTogether_applyChoices _ _) ih

theorem doneTogether_closePart {partIndex : ℤ} {part : Responses.Part Utf16}
    {events : List StreamEvent} (h : DoneTogether events) (hon : GoesOn s.messageIndex events) :
    DoneTogether (t.closePart s partIndex part ++ events) ∧
      GoesOn s.messageIndex (t.closePart s partIndex part ++ events) := by
  unfold Translator.closePart
  split_ifs
  · refine ⟨⟨?_, ?_, h⟩, _, rfl, .inl rfl⟩
    · rintro _ ⟨⟩
      exact ⟨_, rfl, .inl rfl⟩
    · rintro _ ⟨⟩
      exact hon
  · exact ⟨h, hon⟩

theorem doneTogether_closeMessage : DoneTogether (t.closeMessage s).2 := by
  unfold Translator.closeMessage
  split_ifs
  · trivial
  · have hdone : DoneTogether ([.itemDone s.messageIndex
        (.message t.messageId .completed (Translator.messageContent s))] : List StreamEvent) :=
      doneTogether_of_none (by simp [OutputEvent.finishes])
    obtain ⟨hrfs, hon⟩ := @doneTogether_closePart t s s.refusalPartIndex ⟨.refusal, s.refusal⟩ _
      hdone ⟨_, rfl, .inr rfl⟩
    exact (doneTogether_closePart hrfs hon).1

theorem doneTogether_flushPendingReasoning : DoneTogether (t.flushPendingReasoning s).2 := by
  unfold Translator.flushPendingReasoning
  split_ifs
  · trivial
  · exact doneTogether_andThen (doneTogether_andThen doneTogether_ensureReasoningItem fun s =>
      doneTogether_of_none (by simp [Translator.reasoningDeltaEvent, OutputEvent.finishes]))
      fun s => doneTogether_closeReasoning

theorem doneTogether_closeAnnounced (status : ItemStatus) (call : StreamToolCall) :
    DoneTogether (t.closeAnnounced status call s).2 := by
  unfold Translator.closeAnnounced
  split_ifs
  · refine DoneTogether.append ?_ (doneTogether_of_none (by simp [OutputEvent.finishes]))
    split_ifs
    · exact doneTogether_of_none (by simp [OutputEvent.finishes])
    · trivial
  · refine ⟨?_, doneTogether_of_none (by simp [OutputEvent.finishes])⟩
    rintro _ ⟨⟩
    exact ⟨_, rfl, .inr rfl⟩

theorem doneTogether_closeCalls (status : ItemStatus) (calls : List StreamToolCall)
    (s : StreamState) : DoneTogether (t.closeCalls status calls s).2 := by
  induction calls generalizing s with
  | nil => trivial
  | cons call _ ih =>
    refine doneTogether_andThen ?_ ih
    unfold Translator.closeToolCall
    split_ifs
    · exact doneTogether_closeAnnounced _ _
    · trivial
    · exact doneTogether_andThen (doneTogether_announceToolCall call) fun s =>
        doneTogether_closeAnnounced _ _

theorem doneTogether_finish : DoneTogether (t.finish s).2 := by
  unfold Translator.finish
  split_ifs
  · trivial
  · refine doneTogether_andThen (doneTogether_andThen (doneTogether_andThen (doneTogether_andThen
      (doneTogether_andThen doneTogether_startEvents fun s => doneTogether_closeMessage)
      fun s => doneTogether_flushPendingReasoning) fun s => doneTogether_closeCalls _ _ _)
      fun s => doneTogether_closeReasoning) fun s => ?_
    exact doneTogether_of_none (by simp [Translator.emitTerminal, OutputEvent.finishes])

end

/-! ### The client -/

/-- A client accepts the whole stream, up to its end. -/
def Accepted (events : List StreamEvent) : Prop :=
  ∃ client, Client.takeAll together .fresh events = some client ∧ client.ended = true

/-- **The stream translator**: a client accepts the events of every stream whose deltas fit.  The
last of them is the terminal event, and once a part or the arguments of an item are done, nothing is
added to the item. -/
theorem Translator.translate_accepted (t : Translator) (chunks : List Json)
    (hfit : t.StreamFits chunks) :
    Accepted (t.translate chunks) ∧
      (∃ before envelope output, t.translate chunks = before ++ [.terminal envelope output]) ∧
      (t.translate chunks).Pairwise fun event later =>
        ∀ i, event.finishes = some i → later.fills ≠ some i := by
  obtain ⟨hdeltas, hcls⟩ := hfit
  have hpush := ((Translating.initial t).pushAll hdeltas).keep
  have hlds : Leads together .fresh ((t.pushAll chunks newStreamState).andThen t.finish)
      fun _ client => client.ended = true := by
    refine leads hpush ?_
    rintro s client ⟨rfl, htr⟩
    exact htr.finish hcls
  refine ⟨hlds, ?_, ?_⟩
  · obtain ⟨_, -, -, htr⟩ := hpush
    unfold Translator.translate Emitted.andThen Translator.finish
    rw [htr.uncompleted, if_neg Bool.false_ne_true]
    exact ⟨_, _, _, (List.append_assoc _ _ _).symm⟩
  · obtain ⟨client, htake, -⟩ := hlds
    exact Client.takeAll_finishes htake
      (doneTogether_andThen (doneTogether_pushAll chunks _) fun s => doneTogether_finish)

/-- A translator of a response `r` without renamed or custom tools, for streams that give no reason
why they stopped and no usage, and number nothing beyond one. -/
def plainTranslator : Translator where
  responseId := Utf16.ofString "r"
  toolNames := .empty
  customToolNames := []
  profile := ⟨"DeepSeek", fun _ => .completed, fun _ _ => none, fun _ _ => none⟩
  numberText q := if q = 0 then Utf16.ofString "0" else Utf16.ofString "1"
  parse _ := none

def chunkOf (delta : List (String × Json)) :
    Json := .obj [("choices", .arr [.obj [("delta", .obj delta)]])]

/-- A delta of the first tool call. -/
def toolCallOf (fields function : List (String × Json)) : List (String × Json) :=
  [("tool_calls", .arr [.obj (("index", .num 0) :: ("function", .obj function) :: fields)])]

/-- Reasoning, then a call in two deltas. -/
def reasonedChunks : List Json :=
  [chunkOf [("reasoning_content", .str "why")],
    chunkOf (toolCallOf [("id", .str "call")] [("name", .str "search"),
      ("arguments", .str "\x7b")]),
    chunkOf (toolCallOf [] [("arguments", .str "\x7d")])]

theorem translate_accepted_reasoned : Accepted (plainTranslator.translate reasonedChunks) := by
  refine (plainTranslator.translate_accepted reasonedChunks ⟨⟨?_, ?_, ?_, trivial⟩, ?_⟩).1
  · exact ⟨fun _ _ => trivial, trivial⟩
  · exact ⟨fun _ _ => ⟨fun _ => ⟨nofun, fun _ _ => rfl⟩, trivial⟩, trivial⟩
  · exact ⟨fun _ _ => ⟨fun _ => ⟨fun _ => rfl, nofun⟩, trivial⟩, trivial⟩
  · unfold Translator.CallsFit
    decide +kernel

/-- A text, then reasoning, which is held back, then a call, which is held back with its
arguments. -/
def heldBackChunks : List Json :=
  [chunkOf [("content", .str "Weather: ")], chunkOf [("reasoning_content", .str "why")],
    chunkOf (toolCallOf [("id", .str "call")] [("name", .str "search"),
      ("arguments", .str "\x7b\x7d")])]

/-- A call whose name changes after it is announced. -/
def renamedChunks : List Json :=
  [chunkOf (toolCallOf [("id", .str "call")] [("name", .str "search")]),
    chunkOf (toolCallOf [] [("name", .str "find")])]

/-- No delta brings the arguments of the call that is held back, and the call whose name changes is
not done as it was announced. -/
theorem translate_not_accepted : ¬ Accepted (plainTranslator.translate heldBackChunks) ∧
      ¬ Accepted (plainTranslator.translate renamedChunks) := by
  have heldBack : Client.takeAll together .fresh (plainTranslator.translate heldBackChunks) =
    none := by
    decide +kernel
  have hrenamed : Client.takeAll together .fresh (plainTranslator.translate renamedChunks) =
    none := by
    decide +kernel
  constructor
  · rintro ⟨client, htake, -⟩
    rw [heldBack] at htake
    cases htake
  · rintro ⟨client, htake, -⟩
    rw [hrenamed] at htake
    cases htake

end UbqGateway.DeepSeek
