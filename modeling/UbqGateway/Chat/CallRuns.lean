import UbqGateway.Chat.CallSteps

/-!
# The calls of a final output

A final output is a run of steps, one for each of its function calls.  Its calls are final
afterwards, and reconciling the output again changes nothing.
-/

namespace UbqGateway.Chat

open Responses

namespace ChatFunctionCallAccumulator

variable {calls calls' : ChatFunctionCallAccumulator}

/-! ### Runs -/

/-- Steps, one after the other. -/
inductive CallRun : ChatFunctionCallAccumulator → List CallChange → ChatFunctionCallAccumulator →
    Prop
  | nil (calls : ChatFunctionCallAccumulator) : CallRun calls [] calls
  | cons {calls mid calls' : ChatFunctionCallAccumulator} {change : CallChange}
      {changes : List CallChange} (hstep : CallStep calls mid change)
      (hrun : CallRun mid changes calls') : CallRun calls (change :: changes) calls'

theorem Numbered.run {changes : List CallChange} (h : calls.Numbered)
    (hrun : CallRun calls changes calls') : calls'.Numbered := by
  induction hrun with
  | nil => exact h
  | cons hstep _ ih => exact ih (h.step hstep)

theorem reconcileItems_run (hnum : calls.Numbered)
    (h : reconcileItems event calls reconciled items = .ok (calls', reconciled')) :
    ∃ changes, reconciled' = reconciled ++ changes ∧ CallRun calls changes calls' := by
  induction items generalizing calls reconciled with
  | nil =>
    cases h
    exact ⟨[], (List.append_nil _).symm, .nil _⟩
  | cons item _ ih =>
    rw [reconcileItems] at h
    cases hone : calls.reconcileItem event (some item) with
    | error error =>
      rw [hone] at h
      cases h
    | ok x =>
    obtain ⟨mid, changed⟩ := x
    rw [hone] at h
    rcases reconcileItem_step hnum hone with ⟨rfl, rfl, _⟩ | ⟨change, rfl, _, hstep, _⟩
    · obtain ⟨changes, rfl, hrun⟩ := ih hnum h
      exact ⟨changes, by rw [Option.toList_none, List.append_nil], hrun⟩
    · obtain ⟨changes, rfl, hrun⟩ := ih (hnum.step hstep) h
      exact ⟨change :: changes, by rw [List.append_assoc]; rfl, .cons hstep hrun⟩

theorem reconcileOutput_run (hnum : calls.Numbered)
    (h : calls.reconcileOutput event output = .ok (calls', changes)) :
    CallRun calls changes calls' := by
  unfold reconcileOutput at h
  split at h
  · cases h
    exact .nil _
  · obtain ⟨changes, rfl, hrun⟩ := reconcileItems_run hnum h
    exact hrun

/-! ### Items that were reconciled -/

/-- A listed item gives the call as it was accumulated. -/
structure FinalAs (calls : ChatFunctionCallAccumulator) (event : Json) (item : Option Json)
    (call : ChatFunctionCall) : Prop where
  found : calls.find (keyOf event item) = some call
  final : call.argumentsDone = true
  arguments : Json.string? (itemGet item "arguments") = some call.arguments
  callId : (Json.string? (itemGet item "call_id")).map JsString.trim = some call.callId
  name : (Json.string? (itemGet item "name")).map JsString.trim = some call.name

def ItemFinal (calls : ChatFunctionCallAccumulator) (event : Json) (item : Option Json) : Prop :=
  isFunctionCall item = false ∨ ∃ call, calls.FinalAs event item call

theorem finish_final (hfin : call.argumentsDone = true) (changed : String) :
    calls.finish call call.arguments changed = .ok (calls, ⟨call, ""⟩) := by
  unfold finish
  rw [if_pos hfin, if_pos rfl]

theorem reconcileItem_final (hcall : isFunctionCall item = true)
    (h : calls.FinalAs event item call) :
    calls.reconcileItem event item = .ok (calls, some ⟨call, ""⟩) := by
  unfold reconcileItem
  rw [if_neg (by rw [hcall]; exact Bool.noConfusion), h.arguments]
  simp only [h.found]
  rw [h.callId, h.name, if_neg (by simp), finish_final h.final]
  rfl

theorem trimmedText_eq_some (h : trimmedText value = some text) :
    (Json.string? value).map JsString.trim = some text := by
  unfold trimmedText at h
  rw [Option.filter_eq_some_iff] at h
  exact h.1

theorem find_insert (call : ChatFunctionCall) (heq : call.key = key) :
    find (calls.insert call.key call) (some key) = some call := by
  subst heq
  exact Record.lookup_insert_self ..

section

variable (hnum : calls.Numbered)

include hnum

/-- An item that was reconciled is final. -/
theorem reconcileItem_itemFinal (h : calls.reconcileItem event item = .ok (calls', changed)) :
    calls'.ItemFinal event item := by
  unfold reconcileItem at h
  by_cases hcall : isFunctionCall item = false
  · exact .inl hcall
  rw [if_neg hcall] at h
  refine .inr ?_
  split at h
  · cases h
  next argumentsText htext =>
  cases hfd : calls.find (keyOf event item) with
  | none =>
    rw [hfd] at h
    obtain ⟨⟨mid, change⟩, hcr, heq⟩ := Results.of_map h
    cases heq
    obtain ⟨key, callId, name, arguments, hkyd, hasId, hasName, hgvn, ⟨-, hpushed⟩ |
      ⟨existing, hin, -⟩⟩ := create_eq_ok hcr
    · have heq : createArguments item = some argumentsText := by
        unfold createArguments
        rw [if_neg, htext]
        intro hmissing
        rw [hmissing] at htext
        cases htext
      cases hgvn.symm.trans heq
      cases hpushed
      exact ⟨_, by rw [hkyd]; exact find_insert _ rfl, rfl, htext, trimmedText_eq_some hasId,
        trimmedText_eq_some hasName⟩
    · rw [hkyd] at hfd
      cases hfd.symm.trans hin
  | some existing =>
    rw [hfd] at h
    simp only at h
    obtain ⟨hkyd, _⟩ := lookup_of_find hnum hfd
    split_ifs at h with hdiff
    · cases h
    rw [not_or, not_not, not_not] at hdiff
    unfold finish at h
    by_cases hfin : existing.argumentsDone = true
    · rw [if_pos hfin] at h
      split_ifs at h with heq
      · cases h
        exact ⟨existing, hfd, hfin, by rw [htext, heq], hdiff.1.symm, hdiff.2.symm⟩
      · cases h
    · rw [if_neg hfin] at h
      obtain ⟨⟨mid, change⟩, hext, heq⟩ := Results.of_map h
      cases heq
      obtain ⟨suffix, -, rfl, -⟩ := extend_eq_ok hext
      refine ⟨{ existing with arguments := argumentsText, argumentsDone := true }, ?_, rfl, htext,
        hdiff.1.symm, hdiff.2.symm⟩
      rw [hkyd]
      exact find_insert { existing with arguments := argumentsText, argumentsDone := true } rfl

/-- What is final stays so when other items are reconciled. -/
theorem FinalAs.stays (h : calls.FinalAs event item call)
    (hone : calls.reconcileItem event' item' = .ok (calls', changed)) :
    calls'.FinalAs event item call := by
  refine ⟨?_, h.final, h.arguments, h.callId, h.name⟩
  obtain ⟨hkyd, hin⟩ := lookup_of_find hnum h.found
  rw [hkyd]
  show calls'.lookup call.key = some call
  rcases reconcileItem_step hnum hone with ⟨_, heq, _⟩ | ⟨change, _, _, hstep, _, hdone, hfin⟩
  · rw [heq]
    exact hin
  · cases hstep with
    | opened _ hfr =>
      rw [Record.lookup_insert_of_ne]
      · exact hin
      · intro heq
        rw [← heq, hin] at hfr
        cases hfr
    | extended existing suffix argumentsDone hfd =>
      by_cases heq : call.key = existing.key
      · rw [heq] at hin ⊢
        rw [hfd] at hin
        cases hin
        -- The call was final already, so that nothing was added to it.
        have hnth : suffix = "" := by
          refine hfin ?_
          show ((calls.lookup call.key).any fun call => call.argumentsDone) = true
          rw [hfd]
          exact h.final
        rw [Record.lookup_insert_self, hnth, String.append_empty,
          show argumentsDone = true from hdone,
          ← h.final]
      · rw [Record.lookup_insert_of_ne _ _ heq]
        exact hin

theorem ItemFinal.stays (h : calls.ItemFinal event item)
    (hone : calls.reconcileItem event' item' = .ok (calls', changed)) :
    calls'.ItemFinal event item := by
  rcases h with hcall | ⟨call, hfin⟩
  · exact .inl hcall
  · exact .inr ⟨call, hfin.stays hnum hone⟩

theorem reconcileItems_itemFinal {before : List Json}
    (hkn : ∀ item ∈ before, calls.ItemFinal event (some item))
    (h : reconcileItems event calls reconciled items = .ok (calls', reconciled')) :
    ∀ item ∈ before ++ items, calls'.ItemFinal event (some item) := by
  induction items generalizing calls reconciled before with
  | nil =>
    cases h
    rw [List.append_nil]
    exact hkn
  | cons item _ ih =>
    rw [reconcileItems] at h
    obtain ⟨⟨mid, changed⟩, hone, h⟩ := Results.of_bind h
    have hnum' : mid.Numbered := by
      rcases reconcileItem_step hnum hone with ⟨_, rfl, _⟩ | ⟨change, _, _, hstep, _⟩
      · exact hnum
      · exact hnum.step hstep
    have hkn' : ∀ item' ∈ before ++ [item], mid.ItemFinal event (some item') := by
      intro item' hmem
      rcases List.mem_append.mp hmem with hold | hnew
      · exact (hkn item' hold).stays hnum hone
      · rw [List.mem_singleton] at hnew
        subst hnew
        exact reconcileItem_itemFinal hnum hone
    have hall := ih hnum' hkn' h
    rw [List.append_assoc] at hall
    exact hall

/-- Final items are reconciled without a change. -/
theorem reconcileItems_final {event : Json} {items : List Json} {reconciled : List CallChange}
    (h : ∀ item ∈ items, calls.ItemFinal event (some item)) :
    ∃ changes, reconcileItems event calls reconciled items = .ok (calls, reconciled ++ changes) ∧
      ∀ change ∈ changes, change.suffix = "" ∧ calls.lookup change.call.key = some change.call := by
  induction items generalizing reconciled with
  | nil => exact ⟨[], by rw [List.append_nil]; rfl, nofun⟩
  | cons item items ih =>
    have hrest := fun item' hmem => h item' (List.mem_cons_of_mem item hmem)
    rw [reconcileItems]
    cases hcall : isFunctionCall (some item) with
    | false =>
      have hnth : calls.reconcileItem event (some item) = .ok (calls, none) := by
        unfold reconcileItem
        rw [if_pos hcall]
      rw [hnth]
      obtain ⟨changes, heq, hall⟩ := @ih reconciled hrest
      refine ⟨changes, ?_, hall⟩
      show reconcileItems event calls (reconciled ++ []) items = _
      rw [List.append_nil]
      exact heq
    | true =>
      obtain ⟨call, hfin⟩ := (h item (List.mem_cons_self ..)).resolve_left
        (by rw [hcall]; exact Bool.noConfusion)
      rw [reconcileItem_final hcall hfin]
      obtain ⟨changes, heq, hall⟩ := @ih (reconciled ++ [⟨call, ""⟩]) hrest
      rw [List.append_assoc] at heq
      refine ⟨⟨call, ""⟩ :: changes, heq, fun change hmem => ?_⟩
      rcases List.mem_cons.mp hmem with rfl | hlat
      · exact ⟨rfl, (lookup_of_find hnum hfin.found).2⟩
      · exact hall change hlat

theorem reconcileOutput_again (h : calls.reconcileOutput event output = .ok (calls', changes)) :
    ∃ changes', reconcileOutput calls' event output = .ok (calls', changes') ∧
      ∀ change ∈ changes', change.suffix = "" ∧
        calls'.lookup change.call.key = some change.call := by
  have hnum' := hnum.run (reconcileOutput_run hnum h)
  unfold reconcileOutput at h ⊢
  cases hits : Json.items? output with
  | none => exact ⟨[], rfl, nofun⟩
  | some items' =>
    rw [hits] at h
    have hfin := reconcileItems_itemFinal hnum (List.forall_mem_nil _) h
    obtain ⟨changes', heq, hall⟩ := @reconcileItems_final _ hnum' event _ [] hfin
    exact ⟨changes', heq, hall⟩

end

end ChatFunctionCallAccumulator

end UbqGateway.Chat
