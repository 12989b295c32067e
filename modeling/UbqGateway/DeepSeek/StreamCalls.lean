import UbqGateway.DeepSeek.StreamLifecycle

/-!
# The calls of translated streams

Announcing a call, appending to its arguments and closing it keep that a client follows the stream.
A function call is announced without arguments, so it is followed only if it has none at that time.
-/

namespace UbqGateway.DeepSeek

open Responses Translator

namespace Follows

variable {t : Translator}

theorem owns_of_ne (hin : ∀ other, other ≠ key → live' other = live other) (v : Owner)
    (hdiff : v ≠ .call key) : t.owns live' s v = t.owns live s v := by
  cases v with
  | message | reasoning => rfl
  | call other =>
    have hne : other ≠ key := fun heq => hdiff (congrArg Owner.call heq)
    show (live' other).bind _ = (live other).bind _
    rw [hin other hne]

theorem owns_none (hkn : live key = call)
    (hunannounced : ∀ call', call = some call' → call'.announced = false) :
    t.owns live s (.call key) = none := by
  show (live key).bind _ = none
  rw [hkn]
  cases call with
  | none => rfl
  | some call' =>
    rw [Option.bind_some, if_neg]
    rw [hunannounced call' rfl]
    exact Bool.false_ne_true

section

variable (h : Follows t live s client)

include h

theorem setUnannounced
    (hbef : ∀ call, live key = some call → call.announced = false)
    (haft : ∀ call, live' key = some call → call.announced = false)
    (hin : ∀ other, other ≠ key → live' other = live other) : Follows t live' s client := by
  refine { h with
    owned := h.owned.congr fun v => ?_
    callPlaced := fun other call hkn hann => ?_ }
  · by_cases heq : v = .call key
    · rw [heq, owns_none rfl hbef, owns_none rfl haft]
    · exact owns_of_ne hin v heq
  · by_cases heq : other = key
    · rw [heq] at hkn
      rw [haft call hkn] at hann
      cases hann
    · rw [hin other heq] at hkn
      exact h.callPlaced other call hkn hann

/-- A call is announced. -/
theorem openToolCall (live' : ℚ → Option StreamToolCall)
    (hbef : ∀ call', live call.key = some call' → call'.announced = false)
    {known : StreamToolCall} (haft : live' call.key = some known)
    (hann : known.announced = true) (hpl : known.outputIndex = s.nextOutputIndex)
    (hcon : t.callContent known = .call (t.isCustomCall call) (t.announcedCall s call).id
      call.callId
      (originalTool call.name t.toolNames).name [])
    (hin : ∀ other, other ≠ call.key → live' other = live other) :
    Leads together client (t.openToolCall call s) fun s' client' =>
      s' = (t.openToolCall call s).1 ∧ Follows t live' s' client' := by
  have hadd : client.add together s.nextOutputIndex
      (.call (t.isCustomCall call) (t.announcedCall s call).id .inProgress call.callId
        (originalTool call.name t.toolNames).name
        ((originalTool call.name t.toolNames).space.filter fun space => decide (space ≠ [])) []) =
      some ⟨client.items ++ [.opened (t.callContent known)], client.ended⟩ := by
    rw [hcon]
    refine Client.add_of_together (congrArg Nat.cast h.next) ?_ (together_call _ _ _ _ _ _)
    unfold Collected.ofAnnounced
    exact if_pos rfl
  refine .cons h.running hadd (.nil ⟨rfl, ?_⟩)
  refine { h with
    next := ?_
    owned := h.owned.announce (w := .call call.key) (owns_none rfl hbef) ?_ ?_
    stored := h.stored.announce _
    held := fun hpend => ⟨(h.held hpend).1, Nat.succ_pos _⟩
    callPlaced := fun other call' his hann' => ?_ }
  · rw [List.length_append, ← h.next]
    rfl
  · rw [← h.next]
    exact owns_call_of haft hann hpl
  · exact owns_of_ne hin
  · by_cases heq : other = call.key
    · rw [heq, haft] at his
      cases his
      rw [hpl]
      exact Int.natCast_nonneg _
    · rw [hin other heq] at his
      exact h.callPlaced other call' his hann'

/-- A fragment is appended to an announced call. -/
theorem appendFragment (live' : ℚ → Option StreamToolCall)
    (hkn : live key = some old) (hann : old.announced = true) (haft : live' key = some new)
    (hann' : new.announced = true) (hidx : new.outputIndex = old.outputIndex)
    (hargs : new.arguments = old.arguments ++ fragment)
    (hal : t.callContent { new with arguments := old.arguments } = t.callContent old)
    (hin : ∀ other, other ≠ key → live' other = live other) :
    Leads together client (s, t.argumentEvents new fragment) fun s' client' =>
      s' = s ∧ Follows t live' s' client' := by
  obtain ⟨i, hpl, hown⟩ := h.call_at hkn hann
  have hpl' : new.outputIndex = i := hidx.trans hpl
  have hfollowing (content : Collected Utf16) (heq : content = t.callContent new) :
      Follows t live' s { client with items := client.items.set i (.opened content) } := by
    subst heq
    refine { h with
      next := h.next.trans List.length_set.symm
      owned := h.owned.change hown (owns_call_of haft hann' hpl') (owns_of_ne hin)
      stored := h.stored.change _ _
      callPlaced := fun other call his hann => ?_ }
    by_cases heq : other = key
    · rw [heq, haft] at his
      cases his
      rw [hpl']
      exact Int.natCast_nonneg _
    · rw [hin other heq] at his
      exact h.callPlaced other call his hann
  have hunch (heq : t.callContent old = t.callContent new) : Follows t live' s client := by
    have := hfollowing (t.callContent old) heq
    obtain ⟨hins, holds⟩ := List.getElem?_eq_some_iff.mp (h.owned.holds hown)
    rw [← holds, List.set_getElem_self] at this
    exact this
  obtain ⟨hcus, hid, hcid, hname, -⟩ :
      t.isCustomCall new = t.isCustomCall old ∧ new.id = old.id ∧ new.callId = old.callId ∧
        (originalTool new.name t.toolNames).name = (originalTool old.name t.toolNames).name ∧ _ :=
    Collected.call.inj hal
  have hcon : t.callContent new = .call (t.isCustomCall old) old.id old.callId
      (originalTool old.name t.toolNames).name
      (if t.isCustomCall old = true then [] else old.arguments ++ fragment) := by
    unfold Translator.callContent
    rw [hcus, hid, hcid, hname, hargs]
  unfold Translator.argumentEvents
  split_ifs with hevt
  · have hpln : t.isCustomCall old = false := hcus.symm.trans hevt.2.1
    have happd : (t.callContent old).appendArguments fragment = some (t.callContent new) := by
      rw [hcon]
      unfold Translator.callContent
      rw [hpln]
      rfl
    refine .cons h.running (Client.update_of_opened hpl' (h.owned.holds hown) hid.symm happd)
      (.nil ⟨rfl, hfollowing _ rfl⟩)
  · refine .nil ⟨rfl, hunch ?_⟩
    rw [hcon]
    unfold Translator.callContent
    by_cases hpln : t.isCustomCall old = true
    · rw [if_pos hpln, if_pos hpln]
    · have hsil : fragment = [] := by
        by_contra hsome
        exact hevt ⟨hann', hcus.trans (by simpa using hpln), hsome⟩
      rw [if_neg hpln, if_neg hpln, hsil, List.append_nil]

theorem close (hkn : live key = some call)
    (hann : call.announced = true) (hgone : live' key = none)
    (hin : ∀ other, other ≠ key → live' other = live other) {i : ℕ}
    (hpl : call.outputIndex = i) (item : OutputItem Utf16) :
    Follows t live' { s with output := assignAt s.output call.outputIndex item }
      { client with items := client.items.set i (.done item) } := by
  have hown := owns_call_of (t := t) (s := s) hkn hann hpl
  have hno : t.owns live' s (.call key) = none := by
    refine owns_none hgone fun call' his => ?_
    cases his
  refine { h with
    next := h.next.trans List.length_set.symm
    owned := h.owned.close hown hno (owns_of_ne hin)
    stored := ?_
    callPlaced := fun other call' his hann' => ?_ }
  · rw [assignAt_of_placed _ hpl]
    exact h.stored.close (h.owned.lt_length hown) item
  · have hdiff : other ≠ key := by
      rintro rfl
      rw [hgone] at his
      cases his
    rw [hin other hdiff] at his
    exact h.callPlaced other call' his hann'

end

section

variable (h : Follows t live s client) (hkn : live key = some call)
  (hann : call.announced = true)

include h hkn hann

theorem closeCustomCall (hcus : t.isCustomCall call = true) (hfin : status ≠ .inProgress)
    (hgone : live' key = none) (hin : ∀ other, other ≠ key → live' other = live other) :
    Leads together client (t.closeCustomCall status call s) fun s' client' =>
      s' = (t.closeCustomCall status call s).1 ∧ Follows t live' s' client' := by
  obtain ⟨i, hpl, hown⟩ := h.call_at hkn hann
  have holds := h.owned.holds hown
  have hins := h.owned.lt_length hown
  have hcl := h.close hkn hann hgone hin hpl (t.customCallItem status call)
  have hcon : t.callContent call =
      .call true call.id call.callId (originalTool call.name t.toolNames).name [] := by
    unfold Translator.callContent
    rw [hcus]
    rfl
  rw [hcon] at holds
  unfold Translator.closeCustomCall
  split_ifs with hinp
  · refine .cons h.running (Client.update_of_opened hpl holds rfl (if_pos rfl)) ?_
    refine .cons h.running (Client.close_of_opened hpl (List.getElem?_set_self hins) ?_)
      (.nil ⟨rfl, ?_⟩)
    · exact decide_eq_true ⟨rfl, rfl, hfin, rfl, rfl, rfl⟩
    · rw [List.set_set]
      exact hcl
  · refine .cons h.running (Client.close_of_opened hpl holds ?_) (.nil ⟨rfl, hcl⟩)
    exact decide_eq_true ⟨rfl, rfl, hfin, rfl, rfl, (not_not.mp hinp).symm⟩

theorem closeFunctionCall (hpln : t.isCustomCall call = false) (hfin : status ≠ .inProgress)
    (hgone : live' key = none) (hin : ∀ other, other ≠ key → live' other = live other) :
    Leads together client (t.closeFunctionCall status call s) fun s' client' =>
      s' = (t.closeFunctionCall status call s).1 ∧ Follows t live' s' client' := by
  obtain ⟨i, hpl, hown⟩ := h.call_at hkn hann
  have holds := h.owned.holds hown
  have hcon : t.callContent call =
      .call false call.id call.callId (originalTool call.name t.toolNames).name call.arguments := by
    unfold Translator.callContent
    rw [hpln]
    rfl
  rw [hcon] at holds
  refine .cons h.running (Client.update_of_check hpl holds rfl (if_pos rfl)) ?_
  refine .cons h.running (Client.close_of_opened hpl holds ?_) (.nil ⟨rfl, ?_⟩)
  · exact decide_eq_true ⟨rfl, rfl, hfin, rfl, rfl, rfl⟩
  · exact h.close hkn hann hgone hin hpl (t.functionItem status call)

end

theorem closeAnnounced (h : Follows t live s client) (live' : ℚ → Option StreamToolCall)
    (hkn : live key = some call) (hann : call.announced = true)
    (hfin : status ≠ .inProgress) (hgone : live' key = none)
    (hin : ∀ other, other ≠ key → live' other = live other) :
    Leads together client (t.closeAnnounced status call s) fun s' client' =>
      s'.messageOpen = s.messageOpen ∧ s'.messageDone = s.messageDone ∧
        Follows t live' s' client' := by
  unfold Translator.closeAnnounced
  split_ifs with hcus
  · refine (h.closeCustomCall hkn hann hcus hfin hgone hin).mono ?_
    rintro s' client' ⟨rfl, hfol⟩
    exact ⟨rfl, rfl, hfol⟩
  · refine (h.closeFunctionCall hkn hann (by simpa using hcus) hfin hgone hin).mono ?_
    rintro s' client' ⟨rfl, hfol⟩
    exact ⟨rfl, rfl, hfol⟩

end Follows

/-! ### Deltas -/

/-- A client follows a translator that takes chunks. -/
structure Translating (t : Translator) (s : StreamState) (client : Responses.Client Utf16) : Prop
    extends Streaming t s.toolCalls.lookup s client where
  keyed : ∀ key call, s.toolCalls.lookup key = some call → call.key = key

/-- How a call is shown when it is announced and when it is done. -/
def Translator.shown (t : Translator) (call : StreamToolCall) : Bool × Utf16 × Utf16 :=
  (t.isCustomCall call, (originalTool call.name t.toolNames).name, call.callId)

/-- A delta does not change how a call was announced, and a function call that it announces had no
arguments before. -/
structure DeltaFits (t : Translator) (s : StreamState) (raw : Json) (position : ℕ) : Prop where
  shown : (t.callBefore s raw position).announced = true →
    t.shown (t.mergeToolCallDelta s raw position) = t.shown (t.callBefore s raw position)
  fresh : announces s (t.mergeToolCallDelta s raw position) = true →
    t.isCustomCall (t.mergeToolCallDelta s raw position) = false →
      (t.callBefore s raw position).arguments = []

namespace Translating

variable {t : Translator}

theorem withCall_lookup_of_ne (s : StreamState) (call : StreamToolCall) {other : ℚ}
    (hdiff : other ≠ call.key) :
    (withCall call s).toolCalls.lookup other = s.toolCalls.lookup other :=
  Record.lookup_insert_of_ne _ _ hdiff

theorem callBefore_key (h : Translating t s client) (raw : Json) (position : ℕ) :
    (t.callBefore s raw position).key = keyOf raw position := by
  unfold Translator.callBefore
  cases hkn : s.toolCalls.lookup (keyOf raw position) with
  | none => rfl
  | some call => exact h.keyed _ call hkn

theorem unannounced (h : (t.callBefore s raw position).announced = false) :
    ∀ call, s.toolCalls.lookup (keyOf raw position) = some call → call.announced = false := by
  intro call hkn
  unfold Translator.callBefore at h
  rw [hkn] at h
  exact h

theorem announced (h : (t.callBefore s raw position).announced = true) :
    s.toolCalls.lookup (keyOf raw position) = some (t.callBefore s raw position) := by
  unfold Translator.callBefore at h ⊢
  cases hkn : s.toolCalls.lookup (keyOf raw position) with
  | none =>
    rw [hkn] at h
    cases h
  | some call => rfl

theorem follows_withCall (h : Translating t s client) (call : StreamToolCall) :
    Follows t s.toolCalls.lookup (withCall call s) client :=
  { h.toFollows with owned := h.owned.congr fun v => by cases v <;> rfl }

theorem keyed_insert {calls : Record ℚ StreamToolCall}
    (h : ∀ key call, calls.lookup key = some call → call.key = key) (call : StreamToolCall) :
    ∀ key known, (calls.insert call.key call).lookup key = some known → known.key = key := by
  intro key known hfd
  by_cases his : key = call.key
  · rw [his, Record.lookup_insert_self] at hfd
    cases hfd
    exact his.symm
  · rw [Record.lookup_insert_of_ne _ _ his] at hfd
    exact h key known hfd

section

variable (h : Translating t s client)

include h

theorem applyAnnounced (hkn : s.toolCalls.lookup call.key = some before)
    (hann : before.announced = true) (hann' : call.announced = true)
    (hidx : call.outputIndex = before.outputIndex) (hid : call.id = before.id)
    (hargs : call.arguments = before.arguments ++ fragment) (hsh : t.shown call = t.shown before) :
    Leads together client (t.applyMerged call fragment (withCall call s)) (Translating t) := by
  have hsil : ¬ announces (withCall call s) call = true := by
    unfold Translator.announces
    rw [hann']
    exact Bool.false_ne_true
  unfold Translator.applyMerged
  rw [if_neg hsil]
  have hal : t.callContent { call with arguments := before.arguments } = t.callContent before := by
    obtain ⟨hcus, hrest⟩ := Prod.mk.inj hsh
    obtain ⟨hname, hcid⟩ := Prod.mk.inj hrest
    show Collected.call (t.isCustomCall call) call.id call.callId
      (originalTool call.name t.toolNames).name
      (if t.isCustomCall call = true then [] else before.arguments) = t.callContent before
    rw [hcus, hname, hcid, hid]
    rfl
  have hlds := (h.follows_withCall call).appendFragment _ hkn hann (Record.lookup_insert_self ..)
    hann' hidx hargs hal fun other hdiff => Record.lookup_insert_of_ne _ _ hdiff
  refine hlds.mono fun s' client' holds => ?_
  obtain ⟨rfl, hfol⟩ := holds
  exact ⟨h.toStreaming.same ⟨rfl, rfl, rfl, rfl, rfl, rfl⟩ hfol, keyed_insert h.keyed call⟩

/-- A fragment announces its call. -/
theorem applyAnnouncing {before fragment : Utf16}
    (hunannounced : ∀ known, s.toolCalls.lookup call.key = some known → known.announced = false)
    (hannounces : announces (withCall call s) call = true)
    (hargs : call.arguments = before ++ fragment)
    (hfr : t.isCustomCall call = false → before = []) :
    Leads together client (t.applyMerged call fragment (withCall call s)) (Translating t) := by
  unfold Translator.applyMerged
  rw [if_pos hannounces]
  unfold Translator.announceToolCall
  rw [Emitted.andThen_assoc]
  refine Emitted.leads (h.follows_withCall call).closeReasoning ?_
  rintro s' client' ⟨his, hfol⟩
  obtain ⟨heq, -, -⟩ := SameMessage.closeReasoning t (withCall call s)
  rw [← his] at heq
  -- A client knows the announced call without its arguments.
  have hcon : t.callContent { t.announcedCall s' call with arguments := before } =
      .call (t.isCustomCall call) (t.announcedCall s' call).id call.callId
        (originalTool call.name t.toolNames).name [] := by
    show Collected.call (t.isCustomCall call) _ _ _
      (if t.isCustomCall call = true then [] else before) = _
    split_ifs with hcus
    · rfl
    · rw [hfr (by simpa using hcus)]
      rfl
  have hops := hfol.openToolCall (fun key => if key = call.key then
      some { t.announcedCall s' call with arguments := before } else s.toolCalls.lookup key)
    hunannounced (if_pos rfl) rfl rfl hcon fun other hdiff => if_neg hdiff
  refine Emitted.leads hops ?_
  rintro s'' client'' ⟨rfl, hfol'⟩
  have hfd : (t.openToolCall call s').1.toolCalls.lookup call.key =
    some (t.announcedCall s' call) :=
    Record.lookup_insert_self ..
  rw [hfd, Option.getD_some]
  have hlds := hfol'.appendFragment (t.openToolCall call s').1.toolCalls.lookup
    (if_pos rfl) rfl hfd rfl rfl hargs rfl fun other hdiff => by
      rw [if_neg hdiff]
      show (s'.toolCalls.insert call.key _).lookup other = _
      rw [heq.toolCalls, Record.lookup_insert_of_ne _ _ hdiff, withCall_lookup_of_ne s call hdiff]
  refine hlds.mono fun s'' client'' holds => ?_
  obtain ⟨rfl, hfol''⟩ := holds
  refine ⟨h.toStreaming.same ?_ hfol'', ?_⟩
  · exact ⟨heq.completed, heq.messageDone, heq.text, heq.refusal, heq.textPartIndex,
      heq.refusalPartIndex⟩
  · have hkyd := keyed_insert h.keyed call
    have htoolCalls : s'.toolCalls = s.toolCalls.insert call.key call := heq.toolCalls
    rw [← htoolCalls] at hkyd
    exact keyed_insert hkyd (t.announcedCall s' call)

theorem applyUnannounced (fragment : Utf16)
    (hunannounced : ∀ known, s.toolCalls.lookup call.key = some known → known.announced = false)
    (hstll : call.announced = false) (hsil : ¬ announces (withCall call s) call = true) :
    Leads together client (t.applyMerged call fragment (withCall call s)) (Translating t) := by
  unfold Translator.applyMerged
  rw [if_neg hsil]
  have hqt : t.argumentEvents call fragment = [] := by
    unfold Translator.argumentEvents
    rw [hstll]
    exact if_neg fun hevt => Bool.false_ne_true hevt.1
  rw [hqt]
  refine .nil ⟨h.toStreaming.same ⟨rfl, rfl, rfl, rfl, rfl, rfl⟩ ?_, keyed_insert h.keyed call⟩
  refine (h.follows_withCall call).setUnannounced hunannounced (fun known hfd => ?_)
    fun other hdiff => withCall_lookup_of_ne s call hdiff
  have here : (withCall call s).toolCalls.lookup call.key = some call :=
    Record.lookup_insert_self ..
  rw [here] at hfd
  cases hfd
  exact hstll

theorem applyToolCallDelta (hfit : DeltaFits t s raw position) :
    Leads together client (t.applyToolCallDelta raw position s) (Translating t) := by
  unfold Translator.applyToolCallDelta
  have hkey : (t.mergeToolCallDelta s raw position).key = keyOf raw position :=
    h.callBefore_key raw position
  by_cases hkn : (t.callBefore s raw position).announced = true
  · have hfd := announced hkn
    rw [← hkey] at hfd
    exact h.applyAnnounced hfd hkn hkn rfl rfl rfl (hfit.shown hkn)
  · have hnew : (t.callBefore s raw position).announced = false := by simpa using hkn
    have hbef := unannounced hnew
    rw [← hkey] at hbef
    by_cases hannounces : announces s (t.mergeToolCallDelta s raw position) = true
    · exact h.applyAnnouncing hbef hannounces rfl (hfit.fresh hannounces)
    · exact h.applyUnannounced _ hbef hnew hannounces

end

end Translating

end UbqGateway.DeepSeek
