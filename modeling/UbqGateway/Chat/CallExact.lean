import UbqGateway.Chat.CallMoves

/-!
# Calls are shown exactly

What a run of events shows of each function call is exactly that call: it is announced once and
first, its fragments concatenate to its arguments, and nothing is shown of it after its arguments
are done.  That holds as long as an added item gives no more arguments to a call that is done, and a
final output lists each new call once (`handleEvents_exact_iff`).
-/

namespace UbqGateway.Chat

open Responses ChatStream ChatFunctionCallAccumulator

/-! ### What is shown of one call -/

def deltasOf (index : ℕ) (deltas : List ChatToolCall) : List ChatToolCall :=
  deltas.filter fun delta => decide (delta.index = index)

def appendFragment (text : String) (delta : ChatToolCall) : String :=
  text ++ delta.arguments.getD ""

def fragmentsOf (index : ℕ) (deltas : List ChatToolCall) : String :=
  (deltasOf index deltas).foldl appendFragment ""

/-- How often the call of an index is announced. -/
def announcements (index : ℕ) (deltas : List ChatToolCall) : ℕ :=
  (deltasOf index deltas).countP fun delta => delta.id.isSome

/-- A delta that opens a call in the stream. -/
structure Announces (delta : ChatToolCall) (call : ChatFunctionCall) : Prop where
  id : delta.id = some call.callId
  type : delta.type = some "function"
  name : delta.name = some call.name

/-- The deltas show the calls: the first of each announces it, and the fragments are its
arguments. -/
structure Shown (calls : ChatFunctionCallAccumulator) (deltas : List ChatToolCall) : Prop where
  known : ∀ delta ∈ deltas, delta.index < calls.entries.length
  fragments : ∀ (key : String) (call : ChatFunctionCall), calls.lookup key = some call →
    fragmentsOf call.index deltas = call.arguments
  first : ∀ (key : String) (call : ChatFunctionCall), calls.lookup key = some call →
    ∃ delta, (deltasOf call.index deltas).head? = some delta ∧ Announces delta call

def IsDone (calls : ChatFunctionCallAccumulator) (key : String) : Prop :=
  ∃ call, calls.lookup key = some call ∧ call.argumentsDone = true

/-- A key is added to those that appeared. -/
def addKey (seen : List String) (key : String) : List String :=
  if key ∈ seen then seen else seen ++ [key]

/-- Keys, each where it appears first. -/
def firstAppearances (keys : List String) : List String := keys.foldl addKey []

/-! ### Steps -/

variable {calls calls' : ChatFunctionCallAccumulator} {event : ResponsesStreamEvent}

section

variable (hstep : CallStep calls calls' change)

include hstep

theorem ChatFunctionCallAccumulator.CallStep.eq_insert :
    calls' = calls.insert change.call.key change.call := by
  cases hstep <;> rfl

theorem ChatFunctionCallAccumulator.CallStep.same_call
    (hfd : calls.lookup change.call.key = some call) :
    change.call.index = call.index ∧ change.call.callId = call.callId ∧
      change.call.name = call.name ∧
      change.call.arguments = call.arguments ++ change.suffix := by
  cases hstep with
  | opened _ hfr =>
    rw [hfr] at hfd
    cases hfd
  | extended old _ _ hin =>
    have heq : old = call := Option.some.inj (hin.symm.trans hfd)
    subst heq
    exact ⟨rfl, rfl, rfl, rfl⟩

theorem ChatFunctionCallAccumulator.CallStep.new_call
    (hfr : calls.lookup change.call.key = none) :
    change.call.index = calls.entries.length ∧ change.call.arguments = change.suffix := by
  cases hstep with
  | opened _ _ hidx => exact ⟨hidx, rfl⟩
  | extended old _ _ hin =>
    rw [show calls.lookup old.key = none from hfr] at hin
    cases hin

end

theorem key_of_index (hnum : calls.Numbered) (hfd : calls.lookup key = some call)
    (hfd' : calls.lookup key' = some call') (heq : call.index = call'.index) : key = key' := by
  have here := (getElem?_of_lookup hnum hfd).2
  have hin := (getElem?_of_lookup hnum hfd').2
  rw [heq, hin] at here
  exact congrArg Prod.fst (Option.some.inj here).symm

theorem index_lt (hnum : calls.Numbered) (hfd : calls.lookup key = some call) :
    call.index < calls.entries.length :=
  (List.getElem?_eq_some_iff.mp (getElem?_of_lookup hnum hfd).2).1

section

variable (hemit : Emits beforeCount change deltas)

include hemit

theorem Emits.index : ∀ delta ∈ deltas, delta.index = change.call.index := by
  intro delta hmem
  cases hemit with
  | announces | fragment =>
    rw [List.mem_singleton.mp hmem]
    rfl
  | nothing => cases hmem

theorem Emits.fragments (text : String) :
    deltas.foldl appendFragment text = text ++ change.suffix := by
  cases hemit with
  | announces | fragment => rfl
  | nothing _ hsfx =>
    rw [hsfx, String.append_empty]
    rfl

theorem Emits.announcements : (deltas.countP fun delta => delta.id.isSome) =
      if beforeCount ≤ change.call.index then 1 else 0 := by
  cases hemit with
  | announces hfr =>
    rw [if_pos hfr]
    rfl
  | fragment hold | nothing hold =>
    rw [if_neg (Nat.not_le.mpr hold)]
    rfl

end

theorem deltasOf_append (index : ℕ) (u v : List ChatToolCall) :
    deltasOf index (u ++ v) = deltasOf index u ++ deltasOf index v := List.filter_append ..

theorem deltasOf_same (heq : ∀ delta ∈ deltas, delta.index = index) :
    deltasOf index deltas = deltas :=
  List.filter_eq_self.mpr fun delta hmem => decide_eq_true (heq delta hmem)

theorem deltasOf_other (hoth : ∀ delta ∈ deltas, delta.index ≠ index) :
    deltasOf index deltas = [] :=
  List.filter_eq_nil_iff.mpr fun delta hmem => by
    rw [decide_eq_true_iff]
    exact hoth delta hmem

section

variable (hstep : CallStep calls calls' change)

include hstep

theorem lookup_step (key : String) :
    calls'.lookup key = if key = change.call.key then some change.call else calls.lookup key := by
  rw [hstep.eq_insert, Record.lookup_insert]

theorem keys_step :
    calls'.entries.map Prod.fst = addKey (calls.entries.map Prod.fst) change.call.key := by
  rw [hstep.eq_insert]
  exact Record.keys_assocSet ..

theorem lookup_stays (hfd : calls.lookup key = some call) :
    ∃ call', calls'.lookup key = some call' ∧ call'.index = call.index ∧
      call'.callId = call.callId ∧ call'.name = call.name := by
  rw [lookup_step hstep]
  by_cases heq : key = change.call.key
  · subst heq
    obtain ⟨hidx, hcid, hname, _⟩ := hstep.same_call hfd
    rw [if_pos rfl]
    exact ⟨_, rfl, hidx, hcid, hname⟩
  · rw [if_neg heq]
    exact ⟨call, hfd, rfl, rfl, rfl⟩

end

/-- What is shown follows one move of the calls. -/
theorem Shown.move (hnum : calls.Numbered) (h : Shown calls shown)
    (hbef : beforeCount ≤ calls.entries.length)
    (hmove' : Move event beforeCount calls calls' change deltas) :
    Shown calls' (shown ++ deltas) := by
  have hstep := hmove'.step
  have hnum' := hnum.step hstep
  have here : calls'.lookup change.call.key = some change.call := by
    rw [lookup_step hstep, if_pos rfl]
  -- The deltas of the call of the move, and those of another one.
  have heq : deltasOf change.call.index deltas = deltas := deltasOf_same hmove'.emits.index
  have hoth : ∀ (key : String) (call : ChatFunctionCall), calls'.lookup key = some call →
      key ≠ change.call.key → deltasOf call.index deltas = [] := by
    intro key call hfd hdiff
    refine deltasOf_other fun delta hmem hidx => hdiff ?_
    rw [hmove'.emits.index delta hmem] at hidx
    exact (key_of_index hnum' here hfd hidx).symm
  have hold : ∀ (key : String) (call : ChatFunctionCall), calls'.lookup key = some call →
      key ≠ change.call.key → calls.lookup key = some call := by
    intro key call hfd hdiff
    rw [lookup_step hstep, if_neg hdiff] at hfd
    exact hfd
  refine ⟨?_, ?_, ?_⟩
  · intro delta hmem
    have hlgr := length_entries_step hnum hstep
    rcases List.mem_append.mp hmem with hbef | hnew
    · have hbd := h.known delta hbef
      omega
    · rw [hmove'.emits.index delta hnew]
      exact index_lt hnum' here
  · intro key call hfd
    by_cases hdiff : key = change.call.key
    · subst hdiff
      obtain rfl : change.call = call := Option.some.inj (here.symm.trans hfd)
      unfold fragmentsOf
      rw [deltasOf_append, heq, List.foldl_append, hmove'.emits.fragments]
      cases hkn : calls.lookup change.call.key with
      | none =>
        obtain ⟨hidx, hargs⟩ := hstep.new_call hkn
        have hnth : deltasOf change.call.index shown = [] := by
          refine deltasOf_other fun delta hmem => ?_
          have hbd := h.known delta hmem
          omega
        rw [hnth, hargs]
        exact String.empty_append
      | some call =>
        obtain ⟨hidx, _, _, hargs⟩ := hstep.same_call hkn
        have hfragments := h.fragments _ call hkn
        rw [hargs, hidx]
        exact congrArg (· ++ change.suffix) hfragments
    · unfold fragmentsOf
      rw [deltasOf_append, hoth key call hfd hdiff, List.append_nil]
      exact h.fragments key call (hold key call hfd hdiff)
  · intro key call hfd
    rw [deltasOf_append]
    by_cases hdiff : key = change.call.key
    · subst hdiff
      obtain rfl : change.call = call := Option.some.inj (here.symm.trans hfd)
      rw [heq]
      cases hkn : calls.lookup change.call.key with
      | none =>
        have hnth : deltasOf change.call.index shown = [] := by
          refine deltasOf_other fun delta hmem => ?_
          have hbd := h.known delta hmem
          have hidx := (hstep.new_call hkn).1
          omega
        rw [hnth, List.nil_append]
        have hidx := (hstep.new_call hkn).1
        cases hmove'.emits with
        | announces => exact ⟨_, rfl, rfl, rfl, rfl⟩
        | fragment | nothing => omega
      | some call =>
        obtain ⟨hidx, hcid, hname, _⟩ := hstep.same_call hkn
        obtain ⟨delta, hfst, hann⟩ := h.first _ call hkn
        refine ⟨delta, ?_, ?_, hann.type, ?_⟩
        · rw [hidx, List.head?_append, hfst]
          rfl
        · rw [hcid]
          exact hann.id
        · rw [hname]
          exact hann.name
    · rw [hoth key call hfd hdiff, List.append_nil]
      exact h.first key call (hold key call hfd hdiff)

/-! ### Events -/

section

variable (hmove : Moves event beforeCount calls keys deltas calls')

include hmove

theorem Moves.numbered (hnum : calls.Numbered) : calls'.Numbered := by
  induction hmove with
  | nil => exact hnum
  | cons hmove' _ ih => exact ih (hnum.step hmove'.step)

theorem Moves.shown (hnum : calls.Numbered) (hbef : beforeCount ≤ calls.entries.length)
    {shown : List ChatToolCall} (h : Shown calls shown) : Shown calls' (shown ++ deltas) := by
  induction hmove generalizing shown with
  | nil =>
    rw [List.append_nil]
    exact h
  | cons hmove' _ ih =>
    have hlgr := length_entries_step hnum hmove'.step
    rw [← List.append_assoc]
    exact ih (hnum.step hmove'.step) (by omega) (h.move hnum hbef hmove')

theorem Moves.keys_eq :
    calls'.entries.map Prod.fst = keys.foldl addKey (calls.entries.map Prod.fst) := by
  induction hmove with
  | nil => rfl
  | cons hmove' _ ih => rw [ih, keys_step hmove'.step, List.foldl_cons]

theorem Moves.stays (hfd : calls.lookup key = some call) :
    ∃ call', calls'.lookup key = some call' ∧ call'.index = call.index ∧
      call'.callId = call.callId ∧ call'.name = call.name := by
  induction hmove generalizing call with
  | nil => exact ⟨call, hfd, rfl, rfl, rfl⟩
  | cons hmove' _ ih =>
    obtain ⟨mid, hfd, hidx, hcid, hname⟩ := lookup_stays hmove'.step hfd
    obtain ⟨call', hfd', hidx', hcid', hname'⟩ := ih hfd
    exact ⟨call', hfd', hidx'.trans hidx, hcid'.trans hcid, hname'.trans hname⟩

theorem Moves.fresh (hnum : calls.Numbered) (hfd : calls'.lookup key = some call)
    (hunk : calls.lookup key = none) : calls.entries.length ≤ call.index := by
  induction hmove with
  | nil =>
    rw [hunk] at hfd
    cases hfd
  | @cons _ mid _ _ _ _ _ hmove' hmove ih =>
    have hlgr := length_entries_step hnum hmove'.step
    cases hop : mid.lookup key with
    | none =>
      have := ih (hnum.step hmove'.step) hfd hop
      omega
    | some one =>
      obtain ⟨last, hfd', hidx, _⟩ := hmove.stays hop
      obtain rfl : last = call := Option.some.inj (hfd'.symm.trans hfd)
      rw [lookup_step hmove'.step] at hop
      split_ifs at hop with heq
      · cases hop
        rw [hidx, (hmove'.step.new_call (heq ▸ hunk)).1]
      · rw [hunk] at hop
        cases hop

theorem Moves.announcements (hnum : calls.Numbered) (hfd : calls'.lookup key = some call) :
    announcements call.index deltas = if beforeCount ≤ call.index then keys.count key else 0 := by
  induction hmove with
  | nil => exact (ite_self 0).symm
  | @cons _ mid _ change _ deltas _ hmove' hmove ih =>
    have hnum' := hnum.step hmove'.step
    obtain ⟨last, hin, hidx, _⟩ := hmove.stays
      (show mid.lookup change.call.key = some change.call by rw [lookup_step hmove'.step,
        if_pos rfl])
    unfold Chat.announcements at ih ⊢
    rw [deltasOf_append, List.countP_append, ih hnum' hfd]
    by_cases heq : change.call.key = key
    · subst heq
      obtain rfl : last = call := Option.some.inj (hin.symm.trans hfd)
      rw [hidx, deltasOf_same hmove'.emits.index, hmove'.emits.announcements, List.count_cons_self]
      split_ifs
      · exact Nat.add_comm ..
      · rfl
    · have hoth : deltasOf call.index deltas = [] := by
        refine deltasOf_other fun delta hmem hatIndex => heq ?_
        rw [hmove'.emits.index delta hmem, ← hidx] at hatIndex
        exact key_of_index (hmove.numbered hnum') hin hfd hatIndex
      rw [hoth, List.count_cons_of_ne heq]
      exact Nat.zero_add _

theorem Moves.done (key : String) :
    IsDone calls' key ↔ IsDone calls key ∨ finalizesCalls event = true ∧ key ∈ keys := by
  induction hmove with
  | nil => exact ⟨.inl, fun h => h.elim id fun h => absurd h.2 List.not_mem_nil⟩
  | @cons calls mid _ change _ _ _ hmove' _ ih =>
    have hstep : IsDone mid key ↔
        IsDone calls key ∨ finalizesCalls event = true ∧ key = change.call.key := by
      unfold IsDone
      rw [lookup_step hmove'.step]
      by_cases heq : key = change.call.key
      · subst heq
        rw [if_pos rfl]
        have hdone := hmove'.done
        unfold wasFinal at hdone
        cases hkn : calls.lookup change.call.key with
        | none | some call =>
          rw [hkn] at hdone
          simp [hdone]
      · simp [heq]
    rw [ih, hstep, List.mem_cons, or_assoc, ← and_or_left]

end

variable {delta : ChatToolCall}

/-- A call whose arguments are done is not shown again. -/
theorem Moves.quiet (hmove : Moves event beforeCount calls keys deltas calls')
    (hnum : calls.Numbered) (hfd : calls.lookup key = some call)
    (hdone : call.argumentsDone = true) (hold : call.index < beforeCount) (hmem : delta ∈ deltas)
    (hidx : delta.index = call.index) : event.type = "response.output_item.added" := by
  induction hmove generalizing call with
  | nil => cases hmem
  | @cons calls mid _ change _ _ _ hmove' _ ih =>
    have hsty : ∃ call', mid.lookup key = some call' ∧ call'.argumentsDone = true ∧
        call'.index = call.index := by
      by_cases heq : key = change.call.key
      · subst heq
        refine ⟨change.call, by rw [lookup_step hmove'.step,
          if_pos rfl], ?_, (hmove'.step.same_call hfd).1⟩
        rw [hmove'.done, wasFinal, hfd, Option.any_some, hdone, Bool.true_or]
      · exact ⟨call, by rw [lookup_step hmove'.step, if_neg heq, hfd], hdone, rfl⟩
    rcases List.mem_append.mp hmem with here | hlat
    · have hatIndex : change.call.index = call.index :=
        (hmove'.emits.index delta here).symm.trans hidx
      have hkn : calls.wasFinal change = true := by
        cases hop : calls.lookup change.call.key with
        | none =>
          have hlast := (hmove'.step.new_call hop).1
          have hbd := index_lt hnum hfd
          omega
        | some there =>
          have heq := (hmove'.step.same_call hop).1
          have hsk := key_of_index hnum hop hfd (heq.symm.trans hatIndex)
          rw [hsk, hfd] at hop
          cases hop
          rw [wasFinal, hsk, hfd, Option.any_some, hdone]
      rcases hmove'.quiet hkn (by omega) with hadd | hnth
      · exact hadd
      · rw [hnth] at here
        cases here
    · obtain ⟨call', hfd', hdone', heq⟩ := hsty
      exact ih (hnum.step hmove'.step) hfd' hdone' (by omega) hlat (hidx.trans heq.symm)

/-! ### Runs -/

/-- What was done with an event. -/
structure Handling where
  before : ChatFunctionCallAccumulator
  event : ResponsesStreamEvent
  deltas : List ChatToolCall

def handleEvents (calls : ChatFunctionCallAccumulator) (log : List Handling) :
    List ResponsesStreamEvent →
      Except ResponsesStreamError (ChatFunctionCallAccumulator × List Handling)
  | [] => .ok (calls, log)
  | event :: events =>
    (handleCalls calls event).bind fun x => handleEvents x.1 (log ++ [⟨calls, event, x.2⟩]) events

def allDeltas (log : List Handling) : List ChatToolCall := log.flatMap fun handling =>
    handling.deltas

/-- The keys that the events of a run name. -/
def allNamed (log : List Handling) : List String :=
  log.flatMap fun handling => namedCalls handling.event

/-- What a run shows of the calls is exactly the calls. -/
structure ExactCalls (calls : ChatFunctionCallAccumulator) (log : List Handling) : Prop where
  numbered : calls.Numbered
  order : calls.entries.map Prod.fst = firstAppearances (allNamed log)
  identity : ∀ handling ∈ log, ∀ (key : String) (call : ChatFunctionCall),
    handling.before.lookup key = some call → ∃ call', calls.lookup key = some call' ∧
      call'.index = call.index ∧ call'.callId = call.callId ∧ call'.name = call.name
  shown : Shown calls (allDeltas log)
  announcedOnce : ∀ (key : String) (call : ChatFunctionCall), calls.lookup key = some call →
    announcements call.index (allDeltas log) = 1
  nothingAfterDone : ∀ handling ∈ log, ∀ (key : String) (call : ChatFunctionCall),
    handling.before.lookup key = some call → call.argumentsDone = true →
    ∀ delta ∈ handling.deltas, delta.index ≠ call.index
  finalized : calls.assertFinalized = .ok () ↔ ∀ key ∈ calls.entries.map Prod.fst,
    ∃ handling ∈ log, finalizesCalls handling.event = true ∧ key ∈ namedCalls handling.event

/-- An added item of a call that is done gives the arguments of the call, and a final output lists
no call twice that is not there. -/
structure Fits (calls : ChatFunctionCallAccumulator) (event : ResponsesStreamEvent) : Prop where
  added : event.type = "response.output_item.added" → ∀ (key : String) (call : ChatFunctionCall),
    callKey event.value (event.value.get "item") = some key → calls.lookup key = some call →
    call.argumentsDone = true → createArguments (event.value.get "item") = some call.arguments
  listedOnce : ∀ key : String, calls.lookup key = none → (namedCalls event).count key ≤ 1

/-- What holds of every run. -/
structure Run (calls : ChatFunctionCallAccumulator) (log : List Handling) : Prop where
  numbered : calls.Numbered
  order : calls.entries.map Prod.fst = firstAppearances (allNamed log)
  identity : ∀ handling ∈ log, ∀ (key : String) (call : ChatFunctionCall),
    handling.before.lookup key = some call → ∃ call', calls.lookup key = some call' ∧
      call'.index = call.index ∧ call'.callId = call.callId ∧ call'.name = call.name
  shown : Shown calls (allDeltas log)
  done : ∀ key : String, IsDone calls key ↔
    ∃ handling ∈ log, finalizesCalls handling.event = true ∧ key ∈ namedCalls handling.event
  announcedOnce : (∀ (key : String) (call : ChatFunctionCall), calls.lookup key = some call →
      announcements call.index (allDeltas log) = 1) ↔
    ∀ handling ∈ log, ∀ key : String, handling.before.lookup key = none →
      (namedCalls handling.event).count key ≤ 1
  nothingAfterDone : ∀ handling ∈ log, (∀ (key : String) (call : ChatFunctionCall),
      handling.before.lookup key = some call → call.argumentsDone = true →
      ∀ delta ∈ handling.deltas, delta.index ≠ call.index) ↔
    (handling.event.type = "response.output_item.added" →
      ∀ (key : String) (call : ChatFunctionCall),
        callKey handling.event.value (handling.event.value.get "item") = some key →
        handling.before.lookup key = some call → call.argumentsDone = true →
        createArguments (handling.event.value.get "item") = some call.arguments)

theorem Run.start : Run .empty [] where
  numbered := .empty
  order := rfl
  identity := nofun
  shown := ⟨nofun, nofun, nofun⟩
  done := fun _ => iff_of_false (fun ⟨_, hfd, _⟩ => nomatch hfd) fun ⟨_, hmem, _⟩ => nomatch hmem
  announcedOnce := iff_of_true nofun nofun
  nothingAfterDone := nofun

theorem Moves.there (hmove : Moves event beforeCount calls keys deltas calls') (key : String) :
    (∃ call, calls'.lookup key = some call) ↔ (∃ call, calls.lookup key = some call) ∨
      key ∈ keys := by
  induction hmove with
  | nil => exact ⟨.inl, fun h => h.elim id fun h => absurd h List.not_mem_nil⟩
  | @cons _ _ _ _ _ _ _ hmove' _ ih =>
    rw [ih, lookup_step hmove'.step, List.mem_cons, ← or_assoc]
    refine or_congr_left ?_
    split_ifs with heq
    · exact iff_of_true ⟨_, rfl⟩ (.inr heq)
    · exact ⟨.inl, fun h => h.elim id fun h => absurd h heq⟩

theorem createArguments_of_create
    (h : calls.create event.value item argumentsDone = .ok (calls', change)) :
    createArguments item = some change.call.arguments := by
  obtain ⟨key, callId, name, arguments, -, -, -, hgvn, ⟨-, hpushed⟩ | ⟨existing, -, hext⟩⟩ :=
    create_eq_ok h
  · cases hpushed
    exact hgvn
  · obtain ⟨suffix, -, -, rfl⟩ := extend_eq_ok hext
    exact hgvn

/-- An item that is added again. -/
theorem handleCalls_added (hnum : calls.Numbered)
    (htype : event.type = "response.output_item.added")
    (h : handleCalls calls event = .ok (calls', deltas))
    (hname : callKey event.value (event.value.get "item") = some key)
    (hfd : calls.lookup key = some call) : ∃ change : CallChange, change.call.index = call.index ∧
      createArguments (event.value.get "item") = some (call.arguments ++ change.suffix) ∧
      deltas = toolCallsOf (callDelta false change) := by
  unfold handleCalls add at h
  unfold callKey at hname
  split_ifs at hname with hcall
  rw [if_pos htype, hcall, if_neg Bool.noConfusion] at h
  cases hcr : calls.create event.value (event.value.get "item") false with
  | error error =>
    rw [hcr] at h
    cases h
  | ok x =>
    obtain ⟨mid, change⟩ := x
    rw [hcr] at h
    cases h
    obtain ⟨hstep, hkyd, hop⟩ := create_step hnum hcr
    have hsk : change.call.key = key := Option.some.inj (hkyd.symm.trans hname)
    rw [← hsk] at hfd
    obtain ⟨hidx, _, _, hargs⟩ := hstep.same_call hfd
    refine ⟨change, hidx, ?_, ?_⟩
    · rw [← hargs]
      exact createArguments_of_create hcr
    · have hkn : (calls.find (some change.call.key)).isNone = false := by
        rw [show calls.find (some change.call.key) = some call from hfd]
        rfl
      rw [hkyd]
      show toolCallsOf (callDelta (calls.find (some change.call.key)).isNone change) = _
      rw [hkn]

theorem Moves.about (hmove : Moves event beforeCount calls keys deltas calls')
    (hmem : delta ∈ deltas) :
    ∃ key ∈ keys, ∃ call, calls'.lookup key = some call ∧ call.index = delta.index := by
  induction hmove with
  | nil => cases hmem
  | @cons _ mid _ change _ _ _ hmove' hmove ih =>
    rcases List.mem_append.mp hmem with here | hlat
    · obtain ⟨call, hfd, hidx, _⟩ := hmove.stays
        (show mid.lookup change.call.key = some change.call by rw [lookup_step hmove'.step,
          if_pos rfl])
      exact ⟨_, List.mem_cons_self, call, hfd, hidx.trans (hmove'.emits.index delta here).symm⟩
    · obtain ⟨key, hlst, call, hfd, hidx⟩ := ih hlat
      exact ⟨key, List.mem_cons_of_mem _ hlst, call, hfd, hidx⟩

theorem nothingAfterDone_iff (hnum : calls.Numbered)
    (h : handleCalls calls event = .ok (calls', deltas)) :
    (∀ (key : String) (call : ChatFunctionCall), calls.lookup key = some call →
      call.argumentsDone = true → ∀ delta ∈ deltas, delta.index ≠ call.index) ↔
    (event.type = "response.output_item.added" → ∀ (key : String) (call : ChatFunctionCall),
      callKey event.value (event.value.get "item") = some key → calls.lookup key = some call →
      call.argumentsDone = true →
        createArguments (event.value.get "item") = some call.arguments) := by
  have hmove := handleCalls_moves hnum h
  constructor
  · intro hnth htype key call hname hfd hdone
    obtain ⟨change, hidx, hargs, hsh⟩ := handleCalls_added hnum htype h hname hfd
    rw [hargs]
    by_cases hemp : change.suffix = ""
    · rw [hemp, String.append_empty]
    · have hmem : chatToolCallDelta change.call false (some change.suffix) ∈ deltas := by
        rw [hsh]
        unfold callDelta
        rw [if_pos (.inr hemp)]
        exact List.mem_singleton_self _
      exact absurd hidx (hnth key call hfd hdone _ hmem)
  · intro hfit key call hfd hdone delta hmem hidx
    have htype := hmove.quiet hnum hfd hdone (index_lt hnum hfd) hmem hidx
    have hname : callKey event.value (event.value.get "item") = some key := by
      obtain ⟨other, hlst, there, hfd', hsameIndex⟩ := hmove.about hmem
      obtain ⟨call', hsty, hidx', _⟩ := hmove.stays hfd
      obtain rfl : other = key := key_of_index (hmove.numbered hnum) hfd' hsty
        (hsameIndex.trans (hidx.trans hidx'.symm))
      unfold namedCalls at hlst
      rw [if_pos (.inl htype)] at hlst
      exact Option.mem_toList.mp hlst
    obtain ⟨change, _, hargs, hsh⟩ := handleCalls_added hnum htype h hname hfd
    have heq := Option.some.inj ((hfit htype key call hname hfd hdone).symm.trans hargs)
    have hemp : change.suffix = "" := by
      exact String.append_eq_left_iff.mp heq.symm
    rw [hsh, callDelta_quiet hemp] at hmem
    cases hmem

theorem allDeltas_concat (log : List Handling) (handling : Handling) :
    allDeltas (log ++ [handling]) = allDeltas log ++ handling.deltas := by
  unfold allDeltas
  rw [List.flatMap_append, List.flatMap_singleton]

theorem announcements_append (index : ℕ) (u v : List ChatToolCall) :
    announcements index (u ++ v) = announcements index u + announcements index v := by
  unfold announcements
  rw [deltasOf_append, List.countP_append]

/-- **The step**: one event carries the invariant of the calls on. -/
theorem Run.step (h : Run calls log) (hhd : handleCalls calls event = .ok (calls', deltas)) :
    Run calls' (log ++ [⟨calls, event, deltas⟩]) := by
  have hmove := handleCalls_moves h.numbered hhd
  have hnum' := hmove.numbered h.numbered
  refine ⟨hnum', ?_, ?_, ?_, ?_, ?_, ?_⟩
  · unfold allNamed firstAppearances
    rw [hmove.keys_eq, h.order, List.flatMap_append, List.foldl_append, List.flatMap_singleton]
    rfl
  · intro handling hmem key call hfd
    rcases List.mem_append.mp hmem with hold | hnew
    · obtain ⟨mid, hfd, hidx, hcid, hname⟩ := h.identity handling hold key call hfd
      obtain ⟨call', hfd', hidx', hcid', hname'⟩ := hmove.stays hfd
      exact ⟨call', hfd', hidx'.trans hidx, hcid'.trans hcid, hname'.trans hname⟩
    · obtain rfl := List.mem_singleton.mp hnew
      exact hmove.stays hfd
  · rw [allDeltas_concat]
    exact hmove.shown h.numbered le_rfl h.shown
  · intro key
    rw [hmove.done, h.done]
    simp only [List.mem_append, List.mem_singleton, or_and_right, exists_or, exists_eq_left]
  · -- Old calls are announced in the old events, and new ones in the new event.
    rw [allDeltas_concat]
    have hold : ∀ (key : String) (call call' : ChatFunctionCall), calls.lookup key = some call →
        calls'.lookup key = some call' → announcements call'.index (allDeltas log ++ deltas) =
          announcements call.index (allDeltas log) := by
      intro key call call' hfd hfd'
      obtain ⟨last, hin, hidx, _⟩ := hmove.stays hfd
      obtain rfl : last = call' := Option.some.inj (hin.symm.trans hfd')
      have hbd := index_lt h.numbered hfd
      rw [announcements_append, hmove.announcements h.numbered hfd', if_neg (by omega), hidx,
        Nat.add_zero]
    have hnew : ∀ (key : String) (call : ChatFunctionCall), calls.lookup key = none →
        calls'.lookup key = some call → announcements call.index (allDeltas log ++ deltas) =
          (namedCalls event).count key := by
      intro key call hunk hfd
      have hbd := hmove.fresh h.numbered hfd hunk
      have hnth : deltasOf call.index (allDeltas log) = [] := by
        refine deltasOf_other fun delta hmem => ?_
        have hkn := h.shown.known delta hmem
        omega
      rw [announcements_append, hmove.announcements h.numbered hfd, if_pos hbd]
      unfold announcements
      rw [hnth, List.countP_nil, Nat.zero_add]
    have hspl : (∀ (key : String) (call : ChatFunctionCall), calls'.lookup key = some call →
        announcements call.index (allDeltas log ++ deltas) = 1) ↔
        (∀ (key : String) (call : ChatFunctionCall), calls.lookup key = some call →
          announcements call.index (allDeltas log) = 1) ∧
        ∀ key : String, calls.lookup key = none → (namedCalls event).count key ≤ 1 := by
      constructor
      · intro honce
        refine ⟨fun key call hfd => ?_, fun key hunk => ?_⟩
        · obtain ⟨call', hfd', _⟩ := hmove.stays hfd
          rw [← hold key call call' hfd hfd']
          exact honce key call' hfd'
        · by_cases hlst : key ∈ namedCalls event
          · obtain ⟨call, hfd⟩ := (hmove.there key).mpr (.inr hlst)
            rw [← hnew key call hunk hfd]
            exact (honce key call hfd).le
          · rw [List.count_eq_zero_of_not_mem hlst]
            exact Nat.zero_le _
      · rintro ⟨hbef, honce⟩ key call hfd
        cases hkn : calls.lookup key with
        | some one =>
          rw [hold key one call hkn hfd]
          exact hbef key one hkn
        | none =>
          rw [hnew key call hkn hfd]
          have hlst : key ∈ namedCalls event := by
            rcases (hmove.there key).mp ⟨call, hfd⟩ with ⟨one, hin⟩ | hlst
            · rw [hkn] at hin
              cases hin
            · exact hlst
          have hpos := List.count_pos_iff.mpr hlst
          have hbd := honce key hkn
          omega
    rw [hspl, h.announcedOnce]
    simp only [List.mem_append, List.mem_singleton, or_imp, forall_and, forall_eq]
  · intro handling hmem
    rcases List.mem_append.mp hmem with hold | hnew
    · exact h.nothingAfterDone handling hold
    · obtain rfl := List.mem_singleton.mp hnew
      exact nothingAfterDone_iff h.numbered hhd

theorem Run.events {events : List ResponsesStreamEvent} {log log' : List Handling}
    (hstr : Run calls log) (h : handleEvents calls log events = .ok (calls', log')) :
    Run calls' log' := by
  induction events generalizing calls log with
  | nil =>
    cases h
    exact hstr
  | cons _ _ ih =>
    rw [handleEvents] at h
    obtain ⟨x, hone, h⟩ := Results.of_bind h
    exact ih (hstr.step hone) h

theorem assertFinalized_iff :
    calls.assertFinalized = .ok () ↔ ∀ key ∈ calls.entries.map Prod.fst, IsDone calls key := by
  unfold assertFinalized
  have hall : (calls.values.all fun call => call.argumentsDone) = true ↔
      ∀ key ∈ calls.entries.map Prod.fst, IsDone calls key := by
    rw [List.all_eq_true]
    constructor
    · intro hdone key hmem
      obtain ⟨⟨_, call⟩, hin, rfl⟩ := List.mem_map.mp hmem
      exact ⟨call, (calls.mem_entries_iff _ _).mp hin, hdone call (List.mem_map_of_mem hin)⟩
    · intro hdone call hmem
      obtain ⟨⟨key, _⟩, hin, rfl⟩ := List.mem_map.mp hmem
      obtain ⟨call', hfd, hfin⟩ := hdone key (List.mem_map_of_mem hin)
      have hfd' := (calls.mem_entries_iff _ _).mp hin
      rw [hfd] at hfd'
      cases hfd'
      exact hfin
  rw [← hall]
  split_ifs with hdone
  · exact iff_of_true rfl hdone
  · exact iff_of_false nofun hdone

/-- What an accepted run shows of the calls is exactly the calls, if and only if each event fits the
calls that it meets. -/
theorem handleEvents_exact_iff (events : List ResponsesStreamEvent)
    (calls : ChatFunctionCallAccumulator) (log : List Handling)
    (hacc : handleEvents .empty [] events = .ok (calls, log)) :
    ExactCalls calls log ↔ ∀ handling ∈ log, Fits handling.before handling.event := by
  have hrun := Run.start.events hacc
  have hfinalized : calls.assertFinalized = .ok () ↔ ∀ key ∈ calls.entries.map Prod.fst,
      ∃ handling ∈ log, finalizesCalls handling.event = true ∧ key ∈ namedCalls handling.event := by
    rw [assertFinalized_iff]
    exact forall₂_congr fun key _ => hrun.done key
  constructor
  · intro hexc handling hmem
    exact ⟨(hrun.nothingAfterDone handling hmem).mp (hexc.nothingAfterDone handling hmem),
      hrun.announcedOnce.mp hexc.announcedOnce handling hmem⟩
  · intro hfit
    exact ⟨hrun.numbered, hrun.order, hrun.identity, hrun.shown,
      hrun.announcedOnce.mpr fun handling hmem => (hfit handling hmem).listedOnce,
      fun handling hmem => (hrun.nothingAfterDone handling hmem).mpr (hfit handling hmem).added,
      hfinalized⟩

def callEvent (type : String) (fields : List (String × Json)) : ResponsesStreamEvent where
  raw := ""
  type := type
  value := .obj fields
  terminal := false

/-- A function call with these arguments. -/
def callItem (arguments : String) : Json :=
  .obj [("type", .str "function_call"), ("id", .str "i"), ("call_id", .str "c"), ("name", .str "n"),
    ("arguments", .str arguments)]

/-- A call that is added and done. -/
def calledOnce : List ResponsesStreamEvent :=
  [callEvent "response.output_item.added" [("item", callItem "a")],
    callEvent "response.function_call_arguments.done"
      [("item_id", .str "i"), ("arguments", .str "a")]]

theorem handleEvents_exact_iff_calledOnce : ∃ calls log,
    handleEvents .empty [] calledOnce = .ok (calls, log) ∧
      (ExactCalls calls log ↔ ∀ handling ∈ log, Fits handling.before handling.event) := by
  have hacc : (handleEvents .empty [] calledOnce).toOption.isSome = true := by decide +kernel
  cases hrun : handleEvents .empty [] calledOnce with
  | error error =>
    rw [hrun] at hacc
    cases hacc
  | ok x => exact ⟨x.1, x.2, rfl, handleEvents_exact_iff calledOnce x.1 x.2 hrun⟩

/-- The item of a call that is done is added again, with more arguments; and a new call is listed
twice in a final output. -/
theorem handleEvents_not_exact : (∃ calls log, handleEvents .empty []
        (calledOnce ++ [callEvent "response.output_item.added" [("item", callItem "ab")]]) =
          .ok (calls, log) ∧ ¬ExactCalls calls log) ∧
      ∃ calls log, handleEvents .empty [] [callEvent "response.completed"
          [("response", .obj [("output", .arr [callItem "a", callItem "a"])])]] =
          .ok (calls, log) ∧ ¬ExactCalls calls log := by
  constructor
  · have hlate : ((handleEvents .empty [] (calledOnce ++
        [callEvent "response.output_item.added" [("item", callItem "ab")]])).toOption.any fun x =>
          x.2.any fun handling => handling.before.entries.any fun entry =>
            entry.2.argumentsDone && handling.deltas.any fun delta =>
              decide (delta.index = entry.2.index)) = true := by decide +kernel
    cases hrun : handleEvents .empty [] (calledOnce ++
        [callEvent "response.output_item.added" [("item", callItem "ab")]]) with
    | error error =>
      rw [hrun] at hlate
      cases hlate
    | ok x =>
      refine ⟨x.1, x.2, rfl, fun hexc => ?_⟩
      rw [hrun] at hlate
      obtain ⟨handling, hmem, hlate⟩ := List.any_eq_true.mp hlate
      obtain ⟨⟨key, call⟩, hin, hlate⟩ := List.any_eq_true.mp hlate
      rw [Bool.and_eq_true] at hlate
      obtain ⟨delta, hsh, hidx⟩ := List.any_eq_true.mp hlate.2
      exact hexc.nothingAfterDone handling hmem key call
        ((handling.before.mem_entries_iff key call).mp hin) hlate.1 delta hsh
        (of_decide_eq_true hidx)
  · have htwice : ((handleEvents .empty []
        [callEvent "response.completed"
          [("response", .obj [("output", .arr [callItem "a", callItem "a"])])]]).toOption.any
            fun x =>
          x.1.entries.any fun entry =>
            decide (announcements entry.2.index (allDeltas x.2) = 2)) = true := by decide +kernel
    cases hrun : handleEvents .empty []
        [callEvent "response.completed"
          [("response", .obj [("output", .arr [callItem "a", callItem "a"])])]] with
    | error error =>
      rw [hrun] at htwice
      cases htwice
    | ok x =>
      refine ⟨x.1, x.2, rfl, fun hexc => ?_⟩
      rw [hrun] at htwice
      obtain ⟨⟨key, call⟩, hin, htwice⟩ := List.any_eq_true.mp htwice
      have honce := hexc.announcedOnce key call ((x.1.mem_entries_iff key call).mp hin)
      rw [of_decide_eq_true htwice] at honce
      exact absurd honce (by decide)

end UbqGateway.Chat
