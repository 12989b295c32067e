import UbqGateway.Chat.Buffered
import UbqGateway.Chat.CallRuns
import UbqGateway.Chat.Repeats

/-!
# Folding the chunks of a stream

A client folds the chunks of a stream to a message: the role and the identity of a call are set
once, and texts and arguments are appended.  The message of a translation is what a buffered
completion has, and each delta that is emitted takes the one to the other.
-/

namespace UbqGateway.Chat

open Responses

/-! ### The client -/

structure FoldedCall where
  id : Option String
  name : Option String
  arguments : String
deriving DecidableEq

structure FoldedMessage where
  content : Option String
  refusal : Option String
  toolCalls : List FoldedCall

/-- A text after a delta; appending nothing leaves a missing text missing. -/
def appendText (text delta : Option String) : Option String :=
  match delta with
  | none => text
  | some delta => if delta = "" then text else some (text.getD "" ++ delta)

/-- A call of which nothing is known. -/
def FoldedCall.blank : FoldedCall := ⟨none, none, ""⟩

def FoldedCall.merge (delta : ChatToolCall) (call : FoldedCall) : FoldedCall where
  id := call.id.or delta.id
  name := call.name.or delta.name
  arguments := call.arguments ++ delta.arguments.getD ""

/-- The calls after a delta of the one at its index. -/
def mergeCall (calls : List FoldedCall) (delta : ChatToolCall) : List FoldedCall :=
  (calls ++ List.replicate (delta.index + 1 - calls.length) FoldedCall.blank).modify delta.index
    (FoldedCall.merge delta)

def foldDelta (message : FoldedMessage) (delta : ChunkDelta) : FoldedMessage where
  content := appendText message.content delta.content
  refusal := appendText message.refusal delta.refusal
  toolCalls := delta.toolCall.elim message.toolCalls (mergeCall message.toolCalls)

def foldChunk (message : FoldedMessage) : Chunk → FoldedMessage
  | .choice _ _ _ delta _ => foldDelta message delta
  | _ => message

def foldMessage (chunks : List Chunk) : FoldedMessage := chunks.foldl foldChunk ⟨none, none, []⟩

def chunkRole : Chunk → Option String
  | .choice _ _ _ delta _ => delta.role
  | _ => none

def chunkFinishReason : Chunk → Option String
  | .choice _ _ _ _ finishReason => finishReason
  | _ => none

/-- The role of the message of a stream. -/
def foldRole (chunks : List Chunk) : Option String := chunks.findSome? chunkRole

def foldFinishReason (chunks : List Chunk) : Option String := chunks.findSome? chunkFinishReason

/-! ### The message of a translation -/

/-- A text that is missing when it is empty. -/
def nonEmpty (text : String) : Option String := if text = "" then none else some text

def foldedCall (call : ChatFunctionCall) : FoldedCall :=
    ⟨some call.callId, some call.name, call.arguments⟩

/-- The calls as they are accumulated. -/
def foldedCalls (calls : ChatFunctionCallAccumulator) : List FoldedCall :=
  calls.values.map foldedCall

def ChatTranslation.message (translation : ChatTranslation) : FoldedMessage where
  content := nonEmpty translation.outputText
  refusal := nonEmpty translation.refusal
  toolCalls := foldedCalls translation.functionCalls

def QueuedDelta.chunk : QueuedDelta → ChunkDelta
  | .content text => ⟨none, some text, none, none⟩
  | .refusal text => ⟨none, none, some text, none⟩
  | .tool call includeIdentity argumentsDelta =>
    ⟨none, none, none, some (chatToolCallDelta call includeIdentity (some argumentsDelta))⟩

def foldQueued (message : FoldedMessage) (deltas : List QueuedDelta) : FoldedMessage :=
  deltas.foldl (fun message delta => foldDelta message delta.chunk) message

theorem nonEmpty_append (text delta : String) :
    nonEmpty (text ++ delta) = appendText (nonEmpty text) (some delta) := by
  unfold nonEmpty
  show _ = if delta = "" then _ else _
  by_cases hblk : delta = ""
  · rw [if_pos hblk, hblk, String.append_empty]
  rw [if_neg hblk]
  have hmore : text ++ delta ≠ "" := by
    intro hemp
    have hltr := congrArg String.toList hemp
    rw [String.toList_append] at hltr
    exact hblk (String.toList_inj.mp (List.append_eq_nil_iff.mp hltr).2)
  rw [if_neg hmore]
  split_ifs with hstr
  · rw [hstr]
    rfl
  · rfl

variable (translation : ChatTranslation)

theorem foldDelta_content (x : Parts × String) :
    foldDelta translation.message (QueuedDelta.content x.2).chunk =
      (translation.addText x).message := by
  show FoldedMessage.mk (appendText (nonEmpty translation.outputText) (some x.2)) _ _ = _
  rw [← nonEmpty_append]
  rfl

theorem foldDelta_refusal (x : Parts × String) :
    foldDelta translation.message (QueuedDelta.refusal x.2).chunk =
      (translation.addRefusal x).message := by
  show FoldedMessage.mk _ (appendText (nonEmpty translation.refusal) (some x.2)) _ = _
  rw [← nonEmpty_append]
  rfl

theorem foldQueued_content (x : ContentParts × ReconciledChatContent) :
    foldQueued translation.message (ChatStream.contentDeltas x.2) =
      (translation.addContent x).message := by
  obtain ⟨parts, text, refusal⟩ := x
  show foldQueued _ ((if text = "" then [] else [.content text]) ++
    if refusal = "" then [] else [.refusal refusal]) = _
  have happend : (translation.addContent (parts, ⟨text, refusal⟩)).message =
      ⟨appendText (nonEmpty translation.outputText) (some text),
        appendText (nonEmpty translation.refusal) (some refusal),
        foldedCalls translation.functionCalls⟩ := by
    rw [← nonEmpty_append, ← nonEmpty_append]
    rfl
  rw [happend]
  by_cases hntx : text = ""
  · by_cases hnrf : refusal = ""
    · rw [if_pos hntx, if_pos hnrf, hntx, hnrf]
      rfl
    · rw [if_pos hntx, if_neg hnrf, hntx]
      rfl
  · by_cases hnrf : refusal = ""
    · rw [if_neg hntx, if_pos hnrf, hnrf]
      rfl
    · rw [if_neg hntx, if_neg hnrf]
      rfl

/-! ### Calls -/

open ChatFunctionCallAccumulator

theorem foldedCalls_eq (calls : ChatFunctionCallAccumulator) :
    foldedCalls calls = calls.entries.map fun entry => foldedCall entry.2 := by
  unfold foldedCalls Record.values
  rw [List.map_map]
  rfl

theorem length_foldedCalls (calls : ChatFunctionCallAccumulator) :
    (foldedCalls calls).length = calls.entries.length := by
  rw [foldedCalls_eq, List.length_map]

theorem foldedCalls_getElem? (hnum : calls.Numbered) {call : ChatFunctionCall}
    (hfd : calls.lookup call.key = some call) :
    (foldedCalls calls)[call.index]? = some (foldedCall call) := by
  rw [foldedCalls_eq, List.getElem?_map, (getElem?_of_lookup hnum hfd).2]
  rfl

theorem modify_concat (f : α → α) (xs : List α) (x : α) :
    (xs ++ [x]).modify xs.length f = xs ++ [f x] := by
  induction xs with
  | nil => rfl
  | cons _ _ ih =>
    rw [List.cons_append, List.length_cons, List.modify_succ_cons, ih, List.cons_append]

theorem modify_eq_set_of_getElem? {xs : List α} (h : xs[i]? = some x) :
    xs.modify i f = xs.set i (f x) := by
  induction xs generalizing i with
  | nil => cases h
  | cons _ _ ih =>
    cases i with
    | zero =>
      cases h
      rfl
    | succ i => rw [List.modify_succ_cons, List.set_cons_succ, ih h]

theorem mergeCall_step (hnum : calls.Numbered) (hstep : CallStep calls calls' change)
    (hidt : calls.opens change = true → includeIdentity = true) : mergeCall (foldedCalls calls)
      (chatToolCallDelta change.call includeIdentity (some change.suffix)) =
        foldedCalls calls' := by
  unfold mergeCall
  rw [length_foldedCalls]
  cases hstep with
  | opened call hfr hidx =>
    have hidt : includeIdentity = true := by
      refine hidt ?_
      show (calls.lookup call.key).isNone = true
      rw [hfr]
      rfl
    subst hidt
    show (foldedCalls calls ++ List.replicate (call.index + 1 - calls.entries.length) _).modify
      call.index _ = _
    rw [hidx, Nat.add_sub_cancel_left, List.replicate_one, ← length_foldedCalls, modify_concat,
      foldedCalls_eq (calls.insert _ _), entries_insert_new hfr, List.map_append, ← foldedCalls_eq]
    show _ ++ [FoldedCall.mk _ _ ("" ++ call.arguments)] = _
    rw [String.empty_append]
    rfl
  | extended call _ _ hfd =>
    have hat := foldedCalls_getElem? hnum hfd
    have hbd : call.index < calls.entries.length := by
      rw [← length_foldedCalls]
      exact (List.getElem?_eq_some_iff.mp hat).1
    show (foldedCalls calls ++ List.replicate (call.index + 1 - calls.entries.length) _).modify
      call.index _ = _
    rw [Nat.sub_eq_zero_of_le hbd, List.replicate_zero, List.append_nil,
      foldedCalls_eq (calls.insert _ _), entries_insert_old hnum hfd, List.map_set,
      ← foldedCalls_eq, modify_eq_set_of_getElem? hat]
    rfl

theorem foldedCalls_step (hnum : calls.Numbered) (hstep : CallStep calls calls' change)
    (hold : calls.opens change = false) (hnth : change.suffix = "") :
    foldedCalls calls' = foldedCalls calls := by
  cases hstep with
  | opened call hfr =>
    have hops : (calls.lookup call.key).isNone = false := hold
    rw [hfr] at hops
    cases hops
  | extended call suffix _ hfd =>
    have hnth : suffix = "" := hnth
    rw [foldedCalls_eq (calls.insert _ _), entries_insert_old hnum hfd, List.map_set,
      ← foldedCalls_eq, hnth, String.append_empty]
    refine List.ext_getElem? fun j => ?_
    rw [List.getElem?_set]
    by_cases heq : call.index = j
    · subst heq
      have hat := foldedCalls_getElem? hnum hfd
      rw [if_pos rfl, if_pos (List.getElem?_eq_some_iff.mp hat).1, hat]
      rfl
    · rw [if_neg heq]

def callDelta (includeIdentity : Bool) (change : CallChange) : List QueuedDelta :=
  if includeIdentity = true ∨ change.suffix ≠ "" then
    [.tool change.call includeIdentity change.suffix]
  else []

theorem foldQueued_step (hnum : calls.Numbered) (hstep : CallStep calls calls' change)
    (hidt : calls.opens change = true → includeIdentity = true)
    (heq : message.toolCalls = foldedCalls calls) :
    foldQueued message (callDelta includeIdentity change) =
      { message with toolCalls := foldedCalls calls' } := by
  unfold callDelta
  split_ifs with hemit
  · show foldDelta message _ = _
    unfold foldDelta
    show FoldedMessage.mk _ _ (mergeCall message.toolCalls _) = _
    rw [heq, mergeCall_step hnum hstep hidt]
    rfl
  · rw [not_or, not_not] at hemit
    have hold : calls.opens change = false := by
      cases hops : calls.opens change with
      | false => rfl
      | true => exact absurd (hidt hops) hemit.1
    rw [foldedCalls_step hnum hstep hold hemit.2, ← heq]
    rfl

theorem callDeltas_cons (beforeCount : ℕ) (change : CallChange) (changes : List CallChange) :
    ChatStream.callDeltas beforeCount (change :: changes) =
      callDelta (decide (beforeCount ≤ change.call.index)) change ++
        ChatStream.callDeltas beforeCount changes := by
  unfold ChatStream.callDeltas callDelta
  rw [List.filterMap_cons]
  by_cases hemit : beforeCount ≤ change.call.index ∨ change.suffix ≠ ""
  · rw [if_pos hemit, if_pos (by rw [decide_eq_true_eq]; exact hemit)]
    rfl
  · rw [if_neg hemit, if_neg (by rw [decide_eq_true_eq]; exact hemit)]
    rfl

theorem length_entries_step (hnum : calls.Numbered) (hstep : CallStep calls calls' change) :
    calls.entries.length ≤ calls'.entries.length := by
  cases hstep with
  | opened _ hfr =>
    rw [entries_insert_new hfr, List.length_append]
    omega
  | extended _ _ _ hfd =>
    rw [entries_insert_old hnum hfd, List.length_set]

theorem foldQueued_run (hrun : CallRun calls changes calls') (hnum : calls.Numbered)
    (hbef : beforeCount ≤ calls.entries.length) (heq : message.toolCalls = foldedCalls calls) :
    foldQueued message (ChatStream.callDeltas beforeCount changes) =
      { message with toolCalls := foldedCalls calls' } := by
  induction hrun generalizing message with
  | nil =>
    rw [← heq]
    rfl
  | @cons calls _ _ change _ hstep _ ih =>
    have hidt : calls.opens change = true → decide (beforeCount ≤ change.call.index) = true := by
      intro hops
      have := (hstep.opens_iff hnum).mp hops
      exact decide_eq_true (by omega)
    have hlgr := length_entries_step hnum hstep
    rw [callDeltas_cons, foldQueued, List.foldl_append]
    show foldQueued (foldQueued message _) _ = _
    rw [foldQueued_step hnum hstep hidt heq]
    exact ih (hnum.step hstep) (by omega) rfl

end UbqGateway.Chat
