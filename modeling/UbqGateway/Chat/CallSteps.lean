import UbqGateway.Chat.FunctionCalls
import UbqGateway.Library.Results

/-!
# What an event can do to the function calls

Every operation of the accumulator opens one call or extends the arguments of one (`CallStep`).  The
calls stay numbered in the order in which they were opened.
-/

namespace UbqGateway.Chat

open Responses

namespace ChatFunctionCallAccumulator

/-! ### Numbered calls -/

/-- Each call has the key that it is kept under, and its position as index. -/
def Numbered (calls : ChatFunctionCallAccumulator) : Prop :=
  ∀ (i : ℕ) (key : String) (call : ChatFunctionCall),
    calls.entries[i]? = some (key, call) → call.key = key ∧ call.index = i

theorem Numbered.empty : Numbered Record.empty := by
  intro i key call h
  exact absurd h (Option.some_ne_none _).symm

variable {calls : ChatFunctionCallAccumulator}

theorem getElem?_of_lookup (h : calls.Numbered) (hfd : calls.lookup key = some call) :
    call.key = key ∧ calls.entries[call.index]? = some (key, call) := by
  have hmem := (calls.mem_entries_iff key call).mpr hfd
  obtain ⟨i, hat⟩ := List.mem_iff_getElem?.mp hmem
  obtain ⟨hsk, hsameIndex⟩ := h i key call hat
  refine ⟨hsk, ?_⟩
  rw [hsameIndex]
  exact hat

theorem lookup_of_find (h : calls.Numbered)
    {key : Option String} (hfd : calls.find key = some call) :
    key = some call.key ∧ calls.lookup call.key = some call := by
  unfold find at hfd
  cases key with
  | none => cases hfd
  | some key =>
    have hfd : calls.lookup key = some call := hfd
    rw [(getElem?_of_lookup h hfd).1]
    exact ⟨rfl, hfd⟩

variable {entries : List (String × α)}

theorem assocSet_new (h : entries.lookup key = none) :
    Record.assocSet key v entries = entries ++ [(key, v)] := by
  induction entries with
  | nil => rfl
  | cons _ _ ih =>
    rw [Record.list_lookup_cons] at h
    split_ifs at h with he
    rw [Record.assocSet, if_neg he, ih h, List.cons_append]

theorem assocSet_old (hnd : (entries.map Prod.fst).Nodup) (h : entries[i]? = some (key, u)) :
    Record.assocSet key v entries = entries.set i (key, v) := by
  induction entries generalizing i with
  | nil => cases h
  | cons e entries ih =>
    rw [List.map_cons, List.nodup_cons] at hnd
    cases i with
    | zero =>
      have here : e = (key, u) := Option.some.inj h
      rw [Record.assocSet, if_pos (by rw [here]), List.set_cons_zero]
    | succ i =>
      have hin : entries[i]? = some (key, u) := h
      have hoth : e.1 ≠ key := by
        intro heq
        exact hnd.1 (heq ▸ List.mem_map_of_mem (List.mem_of_getElem? hin))
      rw [Record.assocSet, if_neg hoth, ih hnd.2 hin, List.set_cons_succ]

/-! ### Steps -/

/-- What an operation does: it opens a call that is not there, or it extends the arguments of one
that is. -/
inductive CallStep (calls : ChatFunctionCallAccumulator) :
    ChatFunctionCallAccumulator → CallChange → Prop
  | opened (call : ChatFunctionCall) (hfr : calls.lookup call.key = none)
      (hidx : call.index = calls.entries.length) :
      CallStep calls (calls.insert call.key call) ⟨call, call.arguments⟩
  | extended (call : ChatFunctionCall) (suffix : String) (argumentsDone : Bool)
      (hfd : calls.lookup call.key = some call)
      (hsty : call.argumentsDone = true → argumentsDone = true) :
      CallStep calls
        (calls.insert call.key
          { call with arguments := call.arguments ++ suffix, argumentsDone := argumentsDone })
        ⟨{ call with arguments := call.arguments ++ suffix, argumentsDone := argumentsDone },
          suffix⟩

theorem entries_insert_new (hfr : calls.lookup call.key = none) :
    (calls.insert call.key call).entries = calls.entries ++ [(call.key, call)] :=
  assocSet_new hfr

theorem entries_insert_old (h : calls.Numbered) (hfd : calls.lookup call.key = some call) :
    (calls.insert call.key changed).entries = calls.entries.set call.index (call.key, changed) :=
  assocSet_old calls.nodup (getElem?_of_lookup h hfd).2

theorem Numbered.step (h : calls.Numbered) (hstep : CallStep calls calls' change) :
    calls'.Numbered := by
  intro i key call hat
  cases hstep with
  | opened _ hfr =>
    rw [entries_insert_new hfr, List.getElem?_append] at hat
    split_ifs at hat with hold
    · exact h i key call hat
    · rw [List.getElem?_singleton] at hat
      by_cases hlast : i - calls.entries.length = 0
      · rw [if_pos hlast] at hat
        cases hat
        exact ⟨rfl, by omega⟩
      · rw [if_neg hlast] at hat
        cases hat
  | extended existing _ _ hfd =>
    rw [entries_insert_old h hfd, List.getElem?_set] at hat
    by_cases heq : existing.index = i
    · rw [if_pos heq] at hat
      by_cases hbd : existing.index < calls.entries.length
      · rw [if_pos hbd] at hat
        cases hat
        exact ⟨rfl, heq⟩
      · rw [if_neg hbd] at hat
        cases hat
    · rw [if_neg heq] at hat
      exact h i key call hat

/-! ### Operations -/

theorem reconcileArguments_eq_ok (h : reconcileArguments call finalArguments = .ok suffix) :
    finalArguments = call.arguments ++ suffix := by
  unfold reconcileArguments at h
  split_ifs at h with heq
  · cases h
    rw [heq, String.append_empty]
  · split at h
    · next rest hfd =>
        cases h
        exact JsString.after?_eq_some.mp hfd
    · cases h

theorem extend_eq_ok (h : calls.extend call finalArguments argumentsDone = .ok (calls', change)) :
    ∃ suffix, reconcileArguments call finalArguments = .ok suffix ∧
      calls' = calls.update
        { call with arguments := finalArguments, argumentsDone := argumentsDone } ∧
      change = ⟨{ call with arguments := finalArguments, argumentsDone := argumentsDone },
        suffix⟩ := by
  unfold extend at h
  obtain ⟨suffix, hrcn, h⟩ := Results.of_bind h
  rw [hrcn]
  cases h
  exact ⟨suffix, rfl, rfl, rfl⟩

theorem extend_step (hfd : calls.lookup call.key = some call)
    (hsty : call.argumentsDone = true → argumentsDone = true)
    (h : calls.extend call finalArguments argumentsDone = .ok (calls', change)) :
    CallStep calls calls' change ∧ change.call = { call with
      arguments := call.arguments ++ change.suffix, argumentsDone := argumentsDone } := by
  obtain ⟨suffix, hrcn, rfl, rfl⟩ := extend_eq_ok h
  rw [reconcileArguments_eq_ok hrcn]
  exact ⟨CallStep.extended call suffix argumentsDone hfd hsty, rfl⟩

theorem finish_step (hfd : calls.lookup call.key = some call)
    (h : calls.finish call finalArguments changed = .ok (calls', change)) :
    CallStep calls calls' change ∧ change.call = { call with
      arguments := call.arguments ++ change.suffix, argumentsDone := true } ∧
      (call.argumentsDone = true → change.suffix = "") := by
  unfold finish at h
  by_cases hfin : call.argumentsDone = true
  · rw [if_pos hfin] at h
    split_ifs at h with heq
    · cases h
      have hunch : { call with arguments := call.arguments ++ "", argumentsDone := true } =
          call := by
        rw [String.append_empty]
        cases call
        simp only at hfin
        rw [hfin]
      have hstep := CallStep.extended call "" true hfd fun _ => rfl
      rw [hunch, Record.insert_lookup_self hfd] at hstep
      exact ⟨hstep, hunch.symm, fun _ => rfl⟩
    · cases h
  · rw [if_neg hfin] at h
    obtain ⟨hstep, hcall_eq⟩ := extend_step hfd (fun _ => rfl) h
    exact ⟨hstep, hcall_eq, fun hdone => absurd hdone hfin⟩

/-- What an item must have for a call to be created or extended by it. -/
theorem create_eq_ok (h : calls.create event item argumentsDone = .ok (calls', change)) :
    ∃ key callId name arguments, keyOf event item = some key ∧
      trimmedText (itemGet item "call_id") = some callId ∧
      trimmedText (itemGet item "name") = some name ∧ createArguments item = some arguments ∧
      (calls.lookup key = none ∧
          (calls', change) = calls.push key callId name arguments argumentsDone ∨
        ∃ existing, calls.lookup key = some existing ∧
          calls.extend existing arguments existing.argumentsDone = .ok (calls', change)) := by
  unfold create at h
  split at h
  · cases h
  split at h
  · cases h
  next key hkyd =>
  split at h
  · next callId name arguments hasId hasName hasArguments =>
    refine ⟨key, callId, name, arguments, hkyd, hasId, hasName, hasArguments, ?_⟩
    split at h
    · next hfr => exact .inl ⟨hfr, (Except.ok.inj h).symm⟩
    · next existing hfd =>
      split at h
      · cases h
      · exact .inr ⟨existing, hfd, h⟩
  · cases h

theorem create_cases (hnum : calls.Numbered)
    (h : calls.create event item argumentsDone = .ok (calls', change)) :
    keyOf event item = some change.call.key ∧
      ((calls.find (keyOf event item) = none ∧ change.call.argumentsDone = argumentsDone ∧
          change.call.index = calls.entries.length ∧ change.suffix = change.call.arguments ∧
          CallStep calls calls' change) ∨
        ∃ call, calls.find (keyOf event item) = some call ∧
          change.call = { call with arguments := call.arguments ++ change.suffix } ∧
          CallStep calls calls' change) := by
  obtain ⟨key, callId, name, arguments, hkyd, -, -, -,
    ⟨hfr, hpushed⟩ | ⟨existing, hfd, hext⟩⟩ :=
    create_eq_ok h
  · cases hpushed
    rw [hkyd]
    exact ⟨rfl, .inl ⟨hfr, rfl, rfl, rfl, CallStep.opened _ hfr rfl⟩⟩
  · have hsk := (getElem?_of_lookup hnum hfd).1
    rw [← hsk] at hfd
    obtain ⟨hstep, hcall_eq⟩ := extend_step hfd id hext
    rw [hkyd, ← hsk]
    exact ⟨by rw [hcall_eq], .inr ⟨existing, hfd, hcall_eq, hstep⟩⟩

def opens (calls : ChatFunctionCallAccumulator) (change : CallChange) : Bool :=
  (calls.lookup change.call.key).isNone

/-- The call that a step extends was final. -/
def wasFinal (calls : ChatFunctionCallAccumulator) (change : CallChange) : Bool :=
  (calls.lookup change.call.key).any fun call => call.argumentsDone

section

variable (hnum : calls.Numbered)

include hnum

theorem CallStep.opens_iff (hstep : CallStep calls calls' change) :
    calls.opens change = true ↔ calls.entries.length ≤ change.call.index := by
  unfold opens
  cases hstep with
  | opened _ hfr hidx =>
    rw [hfr, hidx]
    exact iff_of_true rfl le_rfl
  | extended call _ _ hfd =>
    have hat := (getElem?_of_lookup hnum hfd).2
    have hbd : call.index < calls.entries.length := by
      rw [List.getElem?_eq_some_iff] at hat
      exact hat.1
    show (calls.lookup call.key).isNone = true ↔ calls.entries.length ≤ call.index
    rw [hfd]
    exact iff_of_false Bool.false_ne_true (Nat.not_le.mpr hbd)

theorem create_step (h : calls.create event item argumentsDone = .ok (calls', change)) :
    CallStep calls calls' change ∧ keyOf event item = some change.call.key ∧
      calls.opens change = (calls.find (keyOf event item)).isNone := by
  obtain ⟨hkyd, hcs⟩ := create_cases hnum h
  have heq : calls.opens change = (calls.find (keyOf event item)).isNone := by
    rw [hkyd]
    rfl
  refine ⟨?_, hkyd, heq⟩
  rcases hcs with ⟨_, _, _, _, hstep⟩ | ⟨_, _, _, hstep⟩
  · exact hstep
  · exact hstep

theorem add_step (h : calls.add event item = .ok (calls', added)) :
    (added = none ∧ calls' = calls) ∨ ∃ change, added = some ⟨change, calls.opens change⟩ ∧
      CallStep calls calls' change := by
  unfold add at h
  split_ifs at h with hcall
  · cases h
    exact .inl ⟨rfl, rfl⟩
  · obtain ⟨⟨calls'', change⟩, hcr, h⟩ := Results.of_map h
    cases h
    obtain ⟨hstep, _, heq⟩ := create_step hnum hcr
    rw [← heq]
    exact .inr ⟨change, rfl, hstep⟩

theorem delta_step (h : calls.delta event = .ok (calls', change)) :
    CallStep calls calls' change ∧ calls.opens change = false ∧ calls.wasFinal change = false := by
  unfold delta at h
  split at h
  · cases h
  next call hfd =>
  have hin := (lookup_of_find hnum hfd).2
  split_ifs at h with hfin
  · cases h
  split at h
  · cases h
  next delta _ =>
  cases h
  have hstep := CallStep.extended call delta call.argumentsDone hin id
  refine ⟨hstep, ?_, ?_⟩
  · show (calls.lookup call.key).isNone = false
    rw [hin]
    rfl
  · show ((calls.lookup call.key).any fun call => call.argumentsDone) = false
    rw [hin]
    exact Bool.not_eq_true _ ▸ hfin

end

theorem finish_facts (hin : calls.lookup call.key = some call)
    (h : calls.finish call finalArguments changed = .ok (calls', change)) :
    CallStep calls calls' change ∧ calls.opens change = false ∧ change.call.key = call.key ∧
      change.call.argumentsDone = true ∧ (calls.wasFinal change = true → change.suffix = "") := by
  obtain ⟨hstep, hcall_eq, hfin⟩ := finish_step hin h
  have hsk : change.call.key = call.key := by rw [hcall_eq]
  refine ⟨hstep, ?_, hsk, by rw [hcall_eq], ?_⟩
  · unfold opens
    rw [hsk, hin]
    rfl
  · unfold wasFinal
    rw [hsk, hin]
    exact hfin

theorem done_step (hnum : calls.Numbered) (h : calls.done event = .ok (calls', change)) :
    CallStep calls calls' change ∧ calls.opens change = false ∧ change.call.argumentsDone = true ∧
      (calls.wasFinal change = true → change.suffix = "") := by
  unfold done at h
  split at h
  · cases h
  next call hfd =>
  split at h
  · cases h
  next finalArguments _ =>
  obtain ⟨hstep, hold, _, hdone, hfin⟩ := finish_facts (lookup_of_find hnum hfd).2 h
  exact ⟨hstep, hold, hdone, hfin⟩

/-- What the reconciliation of an item does to its call. -/
theorem reconcileItem_step (hnum : calls.Numbered) {changed : Option CallChange}
    (h : calls.reconcileItem event item = .ok (calls', changed)) :
    (changed = none ∧ calls' = calls ∧ isFunctionCall item = false) ∨
      ∃ change, changed = some change ∧ isFunctionCall item = true ∧
        CallStep calls calls' change ∧ keyOf event item = some change.call.key ∧
        change.call.argumentsDone = true ∧ (calls.wasFinal change = true → change.suffix = "") := by
  unfold reconcileItem at h
  split_ifs at h with hcall
  · cases h
    exact .inl ⟨rfl, rfl, hcall⟩
  split at h
  · cases h
  next argumentsText _ =>
  have hcall : isFunctionCall item = true := by
    cases hkn : isFunctionCall item with
    | false => exact absurd hkn hcall
    | true => rfl
  cases hfd : calls.find (keyOf event item) with
  | none =>
    rw [hfd] at h
    obtain ⟨⟨calls'', change⟩, hcr, h⟩ := Results.of_map h
    cases h
    obtain ⟨hkyd, hop | hextd⟩ := create_cases hnum hcr
    · obtain ⟨_, hdone, _, _, hstep⟩ := hop
      refine .inr ⟨change, rfl, hcall, hstep, hkyd, hdone, fun hfin => ?_⟩
      have hno : calls.lookup change.call.key = none := by
        rw [hkyd] at hfd
        exact hfd
      rw [wasFinal, hno] at hfin
      cases hfin
    · obtain ⟨call, hfd', _⟩ := hextd
      rw [hfd] at hfd'
      cases hfd'
  | some existing =>
    rw [hfd] at h
    simp only at h
    obtain ⟨hkyd, hin⟩ := lookup_of_find hnum hfd
    split_ifs at h with hdiff
    · cases h
    obtain ⟨⟨calls'', change⟩, hfnd, h⟩ := Results.of_map h
    cases h
    obtain ⟨hstep, _, hsk, hdone, hfin⟩ := finish_facts hin hfnd
    exact .inr ⟨change, rfl, hcall, hstep, by rw [hkyd, hsk], hdone, hfin⟩

end ChatFunctionCallAccumulator

end UbqGateway.Chat
