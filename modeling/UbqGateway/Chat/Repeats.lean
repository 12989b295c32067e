import UbqGateway.Chat.CallSteps

/-!
# A final output that is reconciled again

A final output addresses its parts by their positions, and each position once.  After it was
reconciled, all of its parts are where they would be looked for, so that reconciling it again gives
nothing new and leaves everything as it is.
-/

namespace UbqGateway.Chat

open Responses ReconciledChatContent JsString

/-! ### One text -/

theorem reconcileCompleted_value (h : reconcileCompleted conflict emitted completed = .ok suffix) :
    completed = "" ∨ startsWith (emitted ++ suffix) completed = true := by
  unfold reconcileCompleted at h
  split_ifs at h with hkn
  · cases h
    rw [String.append_empty]
    rcases hkn with hblk | heq | hlgr
    · exact .inl hblk
    · exact .inr (startsWith_iff.mpr ⟨"", by rw [heq, String.append_empty]⟩)
    · exact .inr hlgr
  · split at h
    · next rest haft =>
        cases h
        rw [← after?_eq_some.mp haft]
        exact .inr (startsWith_iff.mpr ⟨"", (String.append_empty).symm⟩)
    · cases h

theorem reconcileCompleted_known (h : completed = "" ∨ startsWith emitted completed = true) :
    reconcileCompleted conflict emitted completed = .ok "" := by
  unfold reconcileCompleted
  rcases h with hblk | hlgr
  · rw [if_pos (.inl hblk)]
  · rw [if_pos (.inr (.inr hlgr))]

theorem matchesEmitted_eq_some {emitted : Option String}
    (h : matchesEmitted completed emitted = some value) : startsWith value completed = true := by
  unfold matchesEmitted at h
  rw [Option.filter_eq_some_iff] at h
  rw [Bool.or_eq_true, decide_eq_true_eq] at h
  rcases h.2 with heq | hlgr
  · exact startsWith_iff.mpr ⟨"", by rw [heq, String.append_empty]⟩
  · exact hlgr

theorem repeats_startsWith {parts : Parts}
    (h : completedPartRepeatForUnidentified parts event completed = some value) :
    startsWith value completed = true := by
  unfold completedPartRepeatForUnidentified completedPartRepeatsEmittedContent at h
  by_cases hidentified : event.identified = true
  · rw [if_pos hidentified] at h
    cases h
  rw [if_neg hidentified] at h
  split_ifs at h with hblk
  rcases Option.or_eq_some_iff.mp h with hposn | ⟨_, h⟩
  · obtain ⟨key, _, hfd⟩ := Option.bind_eq_some_iff.mp hposn
    exact matchesEmitted_eq_some hfd
  rcases Option.or_eq_some_iff.mp h with hitem | ⟨_, haggregate⟩
  · unfold matchesItem at hitem
    split at hitem
    · exact matchesEmitted_eq_some hitem
    · cases hitem
  · unfold matchesAggregate at haggregate
    split_ifs at haggregate
    cases haggregate
    exact startsWith_iff.mpr ⟨"", (String.append_empty).symm⟩

theorem reconcileText_value
    (h : reconcileText (reconcileCompleted conflict) parts event completed = .ok (parts', suffix)) :
    ∃ value, parts' = setChatOutputTextPart parts event value ∧
      (completed = "" ∨ startsWith value completed = true) := by
  unfold reconcileText at h
  split at h
  · next value hrepeats =>
      cases h
      exact ⟨value, rfl, .inr (repeats_startsWith hrepeats)⟩
  · cases hrcn : reconcileCompleted conflict (emittedText parts event) completed with
    | error error =>
      simp only [hrcn] at h
      cases h
    | ok suffix =>
      simp only [hrcn] at h
      cases h
      exact ⟨_, rfl, reconcileCompleted_value hrcn⟩

theorem storageKey_of_positionKey (h : chatOutputTextPartPositionKey event = some key) :
    chatOutputTextPartStorageKey event = key := by
  unfold chatOutputTextPartStorageKey
  rw [h]
  rfl

/-- A text that was completed before is reconciled without a change. -/
theorem reconcileText_again {parts : Parts}
    (hposn : chatOutputTextPartPositionKey event = some key)
    (hkept : parts.lookup key = some value)
    (h : completed = "" ∨ startsWith value completed = true) :
    reconcileText (reconcileCompleted conflict) parts event completed =
      .ok (setChatOutputTextPart parts event value, "") := by
  have hemit : emittedText parts event = value := by
    unfold emittedText
    rw [storageKey_of_positionKey hposn, hkept]
    rfl
  have hpln : (reconcileCompleted conflict (emittedText parts event) completed).map
      (fun suffix => (setChatOutputTextPart parts event (emittedText parts event ++ suffix),
        suffix))
        = .ok (setChatOutputTextPart parts event value, "") := by
    rw [hemit, reconcileCompleted_known h]
    show Except.ok (setChatOutputTextPart parts event (value ++ ""), "") = _
    rw [String.append_empty]
  unfold reconcileText completedPartRepeatForUnidentified completedPartRepeatsEmittedContent
  by_cases hidentified : event.identified = true
  · rw [if_pos hidentified]
    exact hpln
  rw [if_neg hidentified]
  by_cases hblk : completed = ""
  · rw [if_pos hblk]
    exact hpln
  · have hmatches : matchesEmitted completed (some value) = some value := by
      unfold matchesEmitted
      rw [Option.filter_some, if_pos]
      rw [h.resolve_left hblk, Bool.or_true]
    rw [if_neg hblk, hposn, Option.bind_some, hkept, hmatches]
    rfl

/-! ### Positions -/

theorem separator_notMem (n : ℕ) : ':' ∉ n.repr.toList := by
  intro hmem
  rw [Nat.toList_repr] at hmem
  have hdg := Nat.isDigit_of_mem_toDigits (by omega) (by omega) hmem
  exact absurd hdg (by decide)

variable {i j i' j' : ℕ}

theorem outputKey_inj (h : outputKey i.repr j.repr = outputKey i'.repr j'.repr) :
    i = i' ∧ j = j' := by
  have hltr := congrArg String.toList h
  unfold outputKey at hltr
  rw [String.toList_append, String.toList_append, String.toList_append, String.toList_append,
    String.toList_append, String.toList_append, List.append_cancel_left_eq] at hltr
  have hspl := (List.append_cons_inj_of_notMem (separator_notMem i) (separator_notMem j)).mp
    hltr
  exact ⟨Nat.repr_injective (String.toList_inj.mp hspl.1),
    Nat.repr_injective (String.toList_inj.mp hspl.2.2)⟩

theorem outputKey_ne_itemKey (output content id content' : String) :
    outputKey output content ≠ itemKey id content' := by
  intro h
  have hltr := congrArg String.toList h
  unfold outputKey itemKey at hltr
  rw [String.toList_append (s := "output:"), String.toList_append (s := "item:")] at hltr
  cases hltr

/-- The position of a part in a list of outputs. -/
def PartAddress.At (event : PartAddress) (i j : ℕ) : Prop :=
  event.outputIndex = some (Json.num i) ∧ event.contentIndex = some (Json.num j)

theorem PartAddress.At.positionKey (h : event.At i j) :
    chatOutputTextPartPositionKey event = some (outputKey i.repr j.repr) := by
  unfold chatOutputTextPartPositionKey
  rw [h.1, h.2]
  show some (outputKey (numberText i) (numberText j)) = _
  rw [numberText_natCast, numberText_natCast]

theorem PartAddress.At.storageKey (h : event.At i j) :
    chatOutputTextPartStorageKey event = outputKey i.repr j.repr :=
  storageKey_of_positionKey h.positionKey

theorem itemKey_of_aliasKey (h : chatOutputTextPartItemAliasKey event = some key) :
    ∃ id, event.trimmedId = some id ∧
      key = itemKey id (chatOutputTextPartIndexText event.contentIndex) := by
  unfold chatOutputTextPartItemAliasKey at h
  split_ifs at h with hno
  rw [not_or, PartAddress.identified] at hno
  cases htrimmed : event.trimmedId with
  | none =>
    rw [htrimmed] at hno
    exact absurd rfl hno.2
  | some id =>
    refine ⟨id, rfl, ?_⟩
    rw [← Option.some.inj h, chatOutputTextPartKey, htrimmed]

/-! ### Writes -/

/-- A value that is kept of a part. -/
structure PartWrite where
  refused : Bool
  event : PartAddress
  value : String

def PartWrite.entries (write : PartWrite) : List (String × String) :=
  (chatOutputTextPartStorageKey write.event, write.value) ::
    (chatOutputTextPartItemAliasKey write.event).toList.map fun key => (key, write.value)

theorem setChatOutputTextPart_eq (parts : Parts) (write : PartWrite) :
    setChatOutputTextPart parts write.event write.value = parts.insertAll write.entries := by
  unfold setChatOutputTextPart PartWrite.entries
  cases chatOutputTextPartItemAliasKey write.event <;> rfl

variable (parts : ContentParts)

namespace ContentParts

/-- The map of refusals or of output texts. -/
def map (parts : ContentParts) (refused : Bool) : Parts :=
  if refused = true then parts.refusalParts else parts.outputTextParts

def write (parts : ContentParts) (write : PartWrite) : ContentParts :=
  if write.refused = true then
    { parts with refusalParts := setChatOutputTextPart parts.refusalParts write.event write.value }
  else
    { parts with
      outputTextParts := setChatOutputTextPart parts.outputTextParts write.event write.value }

def writeAll (parts : ContentParts) (writes : List PartWrite) : ContentParts :=
  writes.foldl write parts

variable {parts}

theorem ext_map (h : ∀ refused, parts.map refused = parts'.map refused) : parts = parts' := by
  cases parts
  cases parts'
  have htxs := h false
  have hrefusals := h true
  simp only [map, if_true, Bool.false_eq_true, if_false] at htxs hrefusals
  rw [htxs, hrefusals]

theorem map_write (write : PartWrite) (refused : Bool) : (parts.write write).map refused =
      if write.refused = refused then (parts.map refused).insertAll write.entries
      else parts.map refused := by
  unfold ContentParts.write
  rw [setChatOutputTextPart_eq, setChatOutputTextPart_eq]
  cases heq : write.refused <;> cases refused <;> rfl

theorem map_writeAll (writes : List PartWrite) (refused : Bool) :
    (parts.writeAll writes).map refused =
      (parts.map refused).insertAll
        ((writes.filter fun write =>
          decide (write.refused = refused)).flatMap PartWrite.entries) := by
  induction writes generalizing parts with
  | nil => rfl
  | cons write writes ih =>
    show ((parts.write write).writeAll writes).map refused = _
    rw [ih, map_write, List.filter_cons]
    by_cases heq : write.refused = refused
    · rw [if_pos heq, if_pos (decide_eq_true heq), List.flatMap_cons]
      exact List.foldl_append.symm
    · rw [if_neg heq, if_neg (by rw [decide_eq_true_eq]; exact heq)]

theorem writeAll_writeAll (writes : List PartWrite) :
    (parts.writeAll writes).writeAll writes = parts.writeAll writes := by
  refine ext_map fun refused => ?_
  rw [map_writeAll, map_writeAll, Record.insertAll_insertAll]

variable {write : PartWrite}

theorem lookup_write_self (hat : write.event.At i j) :
    ((parts.write write).map write.refused).lookup (outputKey i.repr j.repr) =
      some write.value := by
  rw [map_write, if_pos rfl, Record.lookup_insertAll, PartWrite.entries, hat.storageKey]
  cases haliased : chatOutputTextPartItemAliasKey write.event with
  | none =>
    show ([(outputKey i.repr j.repr, write.value)].lookup (outputKey i.repr j.repr)).or _ = _
    rw [Record.list_lookup_cons, if_pos rfl, Option.some_or]
  | some key =>
    obtain ⟨id, _, rfl⟩ := itemKey_of_aliasKey haliased
    show (List.lookup _ [(itemKey id _, write.value), (outputKey i.repr j.repr, write.value)]).or _
      = _
    rw [Record.list_lookup_cons, if_neg (outputKey_ne_itemKey _ _ _ _).symm,
      Record.list_lookup_cons,
      if_pos rfl, Option.some_or]

theorem lookup_write_other (hat : write.event.At i j)
    (hoth : ¬(i = i' ∧ j = j')) (refused : Bool) :
    ((parts.write write).map refused).lookup (outputKey i'.repr j'.repr) =
      (parts.map refused).lookup (outputKey i'.repr j'.repr) := by
  rw [map_write]
  split_ifs with heq
  · rw [Record.lookup_insertAll, PartWrite.entries, hat.storageKey]
    have hposn : outputKey i.repr j.repr ≠ outputKey i'.repr j'.repr :=
      fun h => hoth (outputKey_inj h)
    cases haliased : chatOutputTextPartItemAliasKey write.event with
    | none =>
      show (List.lookup _ [(outputKey i.repr j.repr, write.value)]).or _ = _
      rw [Record.list_lookup_cons, if_neg hposn, List.lookup_nil, Option.none_or]
    | some key =>
      obtain ⟨id, _, rfl⟩ := itemKey_of_aliasKey haliased
      show (List.lookup _ [(itemKey id _, write.value), (outputKey i.repr j.repr, write.value)]).or
        _ = _
      rw [Record.list_lookup_cons, if_neg (outputKey_ne_itemKey _ _ _ _).symm,
        Record.list_lookup_cons,
        if_neg hposn, List.lookup_nil, Option.none_or]
  · rfl

end ContentParts

/-! ### Parts -/

/-- A value that is kept is left where it is by a part of which it is the value. -/
def Keeps (event : PartAddress) (i j : ℕ) (reconcile : ContentParts → Reconciled)
    (parts parts' : ContentParts) : Prop :=
  ∃ write : PartWrite, write.event = event ∧ parts' = parts.write write ∧
    ∀ kept : ContentParts,
      (kept.map write.refused).lookup (outputKey i.repr j.repr) = some write.value →
        reconcile kept = .ok (kept.write write, .empty)

variable {parts}

theorem reconcileOutputTextPart_keeps (hat : event.At i j)
    (h : reconcileOutputTextPart parts event text = .ok (parts', content)) :
    Keeps event i j (fun kept => reconcileOutputTextPart kept event text) parts parts' := by
  unfold reconcileOutputTextPart at h
  cases text with
  | none => cases h
  | some completedText =>
    simp only at h
    obtain ⟨x, hrcn, h⟩ := Results.of_map h
    cases h
    obtain ⟨value, hwr, hstarts⟩ := reconcileText_value hrcn
    refine ⟨⟨false, event, value⟩, rfl, by rw [hwr]; rfl, fun kept hfd => ?_⟩
    have hagn : reconcileText reconcileCompletedOutputText (kept.map false) event completedText =
        .ok (setChatOutputTextPart (kept.map false) event value, "") :=
      reconcileText_again hat.positionKey hfd hstarts
    show (reconcileText reconcileCompletedOutputText (kept.map false) event completedText).map _ = _
    rw [hagn]
    rfl

theorem reconcileRefusalPart_keeps {refusal : Option String} (hat : event.At i j)
    (h : reconcileRefusalPart parts event refusal = .ok (parts', content)) :
    Keeps event i j (fun kept => reconcileRefusalPart kept event refusal) parts parts' := by
  unfold reconcileRefusalPart at h
  cases refusal with
  | none => cases h
  | some completedRefusal =>
    simp only at h
    obtain ⟨x, hrcn, h⟩ := Results.of_map h
    cases h
    obtain ⟨value, hwr, hstarts⟩ := reconcileText_value hrcn
    refine ⟨⟨true, event, value⟩, rfl, by rw [hwr]; rfl, fun kept hfd => ?_⟩
    have hagn : reconcileText reconcileCompletedRefusal (kept.map true) event completedRefusal =
        .ok (setChatOutputTextPart (kept.map true) event value, "") :=
      reconcileText_again hat.positionKey hfd hstarts
    show (reconcileText reconcileCompletedRefusal (kept.map true) event completedRefusal).map _ = _
    rw [hagn]
    rfl

theorem reconcileChatContentPart_keeps (hat : event.At i j)
    (h : reconcileChatContentPart parts event part = .ok (parts', content)) :
    (parts' = parts ∧ ∀ kept, reconcileChatContentPart kept event part = .ok (kept, .empty)) ∨
      Keeps event i j (fun kept => reconcileChatContentPart kept event part) parts parts' := by
  unfold reconcileChatContentPart at h ⊢
  by_cases hobj : isObject part = false
  · rw [if_pos hobj] at h
    cases h
  simp only [if_neg hobj] at h ⊢
  by_cases htext : Json.string? (itemGet part "type") = some "output_text" ∨
      Json.string? (itemGet part "type") = some "text"
  · simp only [if_pos htext] at h ⊢
    exact .inr (reconcileOutputTextPart_keeps hat h)
  simp only [if_neg htext] at h ⊢
  by_cases hrfs : Json.string? (itemGet part "type") = some "refusal"
  · simp only [if_pos hrfs] at h ⊢
    exact .inr (reconcileRefusalPart_keeps hat h)
  · simp only [if_neg hrfs] at h ⊢
    cases h
    exact .inl ⟨rfl, fun _ => trivial⟩

/-! ### Lists of parts -/

def reconcileParts : ContentParts → List (PartAddress × Json) → Reconciled
  | parts, [] => .ok (parts, .empty)
  | parts, (event, part) :: rest =>
    (reconcileChatContentPart parts event (some part)).bind fun x =>
      (reconcileParts x.1 rest).map fun y => (y.1, x.2.append y.2)

namespace ReconciledChatContent

theorem empty_append (content : ReconciledChatContent) : empty.append content = content := by
  cases content
  simp only [append, empty, String.empty_append]

theorem append_empty (content : ReconciledChatContent) : content.append empty = content := by
  cases content
  simp only [append, empty, String.append_empty]

theorem append_assoc (a b c : ReconciledChatContent) :
    (a.append b).append c = a.append (b.append c) := by
  simp only [append, String.append_assoc]

end ReconciledChatContent

/-- Lists of parts are reconciled one after the other. -/
theorem reconcileParts_append (u v : List (PartAddress × Json)) : reconcileParts parts (u ++ v) =
      (reconcileParts parts u).bind fun x =>
        (reconcileParts x.1 v).map fun y => (y.1, x.2.append y.2) := by
  induction u generalizing parts with
  | nil =>
    rw [List.nil_append, reconcileParts]
    show _ = (reconcileParts parts v).map _
    cases reconcileParts parts v with
    | error error => rfl
    | ok y =>
      show Except.ok y = Except.ok (y.1, empty.append y.2)
      rw [empty_append]
  | cons x u ih =>
    obtain ⟨event, part⟩ := x
    rw [List.cons_append, reconcileParts, reconcileParts]
    cases reconcileChatContentPart parts event (some part) with
    | error error => rfl
    | ok x =>
      show (reconcileParts x.1 (u ++ v)).map _ = ((reconcileParts x.1 u).map _).bind _
      rw [ih]
      cases reconcileParts x.1 u with
      | error error => rfl
      | ok y =>
        show ((reconcileParts y.1 v).map _).map _ = (reconcileParts y.1 v).map _
        cases reconcileParts y.1 v with
        | error error => rfl
        | ok z =>
          show Except.ok (z.1, x.2.append (y.2.append z.2)) =
            Except.ok (z.1, (x.2.append y.2).append z.2)
          rw [append_assoc]

theorem reconcileEach_eq {g : ℕ → Json → List (PartAddress × Json)}
    (h : ∀ parts index value, f parts index value = reconcileParts parts (g index value))
    (parts : ContentParts) (content : ReconciledChatContent) (index : ℕ) (values : List Json) :
    reconcileEach f parts content index values =
      (reconcileParts parts ((values.zipIdx index).flatMap fun x => g x.2 x.1)).map fun y =>
        (y.1, content.append y.2) := by
  induction values generalizing parts content index with
  | nil =>
    show Except.ok (parts, content) = Except.ok (parts, content.append .empty)
    rw [append_empty]
  | cons value values ih =>
    rw [reconcileEach, List.zipIdx_cons, List.flatMap_cons, reconcileParts_append, h]
    cases reconcileParts parts (g index value) with
    | error error => rfl
    | ok x =>
      show reconcileEach f x.1 (content.append x.2) (index + 1) values =
        ((reconcileParts x.1 _).map _).map _
      rw [ih]
      cases reconcileParts x.1 ((values.zipIdx (index + 1)).flatMap fun x => g x.2 x.1) with
      | error error => rfl
      | ok y =>
        show Except.ok (y.1, (content.append x.2).append y.2) =
          Except.ok (y.1, content.append (x.2.append y.2))
        rw [append_assoc]

def contentOf (item : Option Json) : List Json :=
  if isObject item = false then [] else (Json.items? (itemGet item "content")).getD []

def partAddress (event : PartAddress) (item : Option Json) (contentIndex : ℕ) : PartAddress :=
  { event with
    itemId := (Json.string? (itemGet item "id")).or event.itemId
    contentIndex := some (Json.num contentIndex) }

def itemParts (event : PartAddress) (item : Option Json) : List (PartAddress × Json) :=
  (contentOf item).zipIdx.flatMap fun x => [(partAddress event item x.2, x.1)]

def outputParts (event : PartAddress) (output : Option Json) : List (PartAddress × Json) :=
  ((Json.items? output).getD []).zipIdx.flatMap fun x =>
    itemParts { event with outputIndex := some (Json.num x.2) } (some x.1)

variable (event)

theorem reconcileParts_singleton (part : Json) :
    reconcileParts parts [(event, part)] = reconcileChatContentPart parts event (some part) := by
  rw [reconcileParts]
  cases reconcileChatContentPart parts event (some part) with
  | error error => rfl
  | ok x =>
    show Except.ok (x.1, x.2.append .empty) = Except.ok x
    rw [append_empty]

theorem map_empty_append (x : Reconciled) : (x.map fun y => (y.1, empty.append y.2)) = x := by
  cases x with
  | error error => rfl
  | ok y =>
    show Except.ok (y.1, empty.append y.2) = Except.ok y
    rw [empty_append]

theorem reconcileChatOutputItemContent_eq (item : Option Json) :
    reconcileChatOutputItemContent parts event item = reconcileParts parts
      (itemParts event item) := by
  unfold reconcileChatOutputItemContent itemParts contentOf
  by_cases hobj : isObject item = false
  · rw [if_pos hobj, if_pos hobj]
    rfl
  rw [if_neg hobj, if_neg hobj]
  cases Json.items? (itemGet item "content") with
  | none => rfl
  | some content =>
    exact (reconcileEach_eq
      (g := fun contentIndex part => [(partAddress event item contentIndex, part)])
      (fun parts index value => (reconcileParts_singleton ..).symm) parts .empty 0 content).trans
        (map_empty_append _)

theorem reconcileChatResponseOutputContent_eq (output : Option Json) :
    reconcileChatResponseOutputContent parts event output =
      reconcileParts parts (outputParts event output) := by
  unfold reconcileChatResponseOutputContent outputParts
  cases Json.items? output with
  | none => rfl
  | some items =>
    exact (reconcileEach_eq
      (g := fun outputIndex item =>
        itemParts { event with outputIndex := some (Json.num outputIndex) } (some item))
      (fun parts index value => reconcileChatOutputItemContent_eq ..) parts .empty 0 items).trans
        (map_empty_append _)

/-! ### Once more -/

/-- Parts at different positions. -/
def Apart (x y : PartAddress × Json) : Prop :=
  ∀ i j i' j', x.1.At i j → y.1.At i' j' → ¬(i = i' ∧ j = j')

/-- Parts that all have positions, different ones. -/
structure Placed (parts : List (PartAddress × Json)) : Prop where
  at_ : ∀ x ∈ parts, ∃ i j, x.1.At i j
  apart : parts.Pairwise Apart

theorem Placed.tail {parts : List (PartAddress × Json)} (h : Placed (x :: parts)) : Placed parts :=
  ⟨fun y hy => h.at_ y (List.mem_cons_of_mem x hy), (List.pairwise_cons.mp h.apart).2⟩

theorem num_natCast_inj (h : some (Json.num i) = some (Json.num j)) : i = j := by
  rw [Option.some.injEq, Json.num.injEq] at h
  exact_mod_cast h

theorem pairwise_zipIdx (h : ∀ x y : α × ℕ, x.2 ≠ y.2 → R x y) (values : List α) (k : ℕ) :
    (values.zipIdx k).Pairwise R := by
  induction values generalizing k with
  | nil => exact List.Pairwise.nil
  | cons _ _ ih =>
    rw [List.zipIdx_cons, List.pairwise_cons]
    refine ⟨fun y hmem => h _ _ ?_, ih (k + 1)⟩
    have hlat := List.le_snd_of_mem_zipIdx hmem
    show k ≠ y.2
    omega

theorem outputParts_placed (output : Option Json) : Placed (outputParts event output) := by
  constructor
  · intro x hmem
    obtain ⟨item, _, hinItem⟩ := List.mem_flatMap.mp hmem
    obtain ⟨part, _, hsingle⟩ := List.mem_flatMap.mp hinItem
    rw [List.mem_singleton] at hsingle
    subst hsingle
    exact ⟨item.2, part.2, rfl, rfl⟩
  · unfold outputParts
    rw [List.pairwise_flatMap]
    constructor
    · rintro ⟨item, outputIndex⟩ _
      unfold itemParts
      rw [List.pairwise_flatMap]
      refine ⟨fun _ _ => List.pairwise_singleton .., pairwise_zipIdx (fun x y hdiffer => ?_) _ _⟩
      rintro a hinA b hinB i j i' j' hatA hatB ⟨-, heq⟩
      rw [List.mem_singleton] at hinA hinB
      subst hinA hinB
      exact hdiffer ((num_natCast_inj hatA.2).trans (heq.trans (num_natCast_inj hatB.2).symm))
    · refine pairwise_zipIdx (fun x y hdiffer => ?_) _ _
      rintro a hinA b hinB i j i' j' hatA hatB ⟨heq, -⟩
      obtain ⟨_, _, hinA⟩ := List.mem_flatMap.mp hinA
      obtain ⟨_, _, hinB⟩ := List.mem_flatMap.mp hinB
      rw [List.mem_singleton] at hinA hinB
      subst hinA hinB
      exact hdiffer ((num_natCast_inj hatA.1).trans (heq.trans (num_natCast_inj hatB.1).symm))

/-- The values that writes leave are at their positions. -/
def Kept (parts : ContentParts) (writes : List PartWrite) : Prop :=
  ∀ write ∈ writes, ∀ i j, write.event.At i j →
    (parts.map write.refused).lookup (outputKey i.repr j.repr) = some write.value

theorem lookup_writeAll_other
    (hat : ∀ write ∈ writes, ∃ i' j', write.event.At i' j' ∧ ¬(i' = i ∧ j' = j))
    (parts : ContentParts) (refused : Bool) :
    ((parts.writeAll writes).map refused).lookup (outputKey i.repr j.repr) =
      (parts.map refused).lookup (outputKey i.repr j.repr) := by
  induction writes generalizing parts with
  | nil => rfl
  | cons write _ ih =>
    obtain ⟨i', j', here, hoth⟩ := hat write (List.mem_cons_self ..)
    rw [← parts.lookup_write_other here hoth refused]
    exact ih (fun w hw => hat w (List.mem_cons_of_mem _ hw)) (parts.write write)

/-- What is reconciled is what is written, and later writes keep it. -/
theorem reconcileParts_writes (hpl : Placed list)
    (h : reconcileParts parts list = .ok (parts', content)) :
    ∃ writes : List PartWrite, parts' = parts.writeAll writes ∧ Kept parts' writes ∧
      (∀ write ∈ writes, ∃ x ∈ list, write.event = x.1) ∧
      ∀ kept, Kept kept writes → reconcileParts kept list = .ok (kept.writeAll writes, .empty) := by
  induction list generalizing parts content with
  | nil =>
    cases h
    exact ⟨[], rfl, nofun, nofun, fun _ _ => rfl⟩
  | cons x list ih =>
    obtain ⟨event, part⟩ := x
    rw [reconcileParts] at h
    obtain ⟨⟨parts₁, content₁⟩, hfst, h⟩ := Results.of_bind h
    cases hsnd : reconcileParts parts₁ list with
    | error error =>
      change ((reconcileParts parts₁ list).map _) = _ at h
      rw [hsnd] at h
      cases h
    | ok two =>
    change ((reconcileParts parts₁ list).map _) = _ at h
    rw [hsnd] at h
    obtain ⟨parts₂, content₂⟩ := two
    cases h
    obtain ⟨writes, hwritten', hvalued, hevents, hagn'⟩ := ih hpl.tail hsnd
    obtain ⟨i, j, here⟩ := hpl.at_ _ (List.mem_cons_self ..)
    rcases reconcileChatContentPart_keeps here hfst with ⟨heq', hnth⟩ | hkps
    · refine ⟨writes, ?_, hvalued, fun write hw => ?_, fun kept hkept => ?_⟩
      · rw [hwritten', heq']
      · obtain ⟨x, hx, hevt⟩ := hevents write hw
        exact ⟨x, List.mem_cons_of_mem _ hx, hevt⟩
      · rw [reconcileParts, hnth kept]
        show (reconcileParts kept list).map _ = _
        rw [hagn' kept hkept]
        rfl
    · obtain ⟨write, hevt, hwr, hagn⟩ := hkps
      have hap : ∀ w ∈ writes, ∃ i' j', w.event.At i' j' ∧ ¬(i' = i ∧ j' = j) := by
        intro w hw
        obtain ⟨x, hx, heq⟩ := hevents w hw
        obtain ⟨i', j', hin⟩ := hpl.at_ x (List.mem_cons_of_mem _ hx)
        have hdiffer := (List.pairwise_cons.mp hpl.apart).1 x hx i j i' j' here hin
        exact ⟨i', j', heq ▸ hin, fun hboth => hdiffer ⟨hboth.1.symm, hboth.2.symm⟩⟩
      have hat : write.event.At i j := hevt ▸ here
      refine ⟨write :: writes, ?_, ?_, ?_, ?_⟩
      · rw [hwritten', hwr]
        rfl
      · intro w hw i' j' hin
        rcases List.mem_cons.mp hw with rfl | hw
        · rw [hwritten', hwr, num_natCast_inj (hin.1.symm.trans hat.1),
            num_natCast_inj (hin.2.symm.trans hat.2), lookup_writeAll_other hap]
          exact parts.lookup_write_self hat
        · exact hvalued w hw i' j' hin
      · intro w hw
        rcases List.mem_cons.mp hw with rfl | hw
        · exact ⟨_, List.mem_cons_self .., hevt⟩
        · obtain ⟨x, hx, heq⟩ := hevents w hw
          exact ⟨x, List.mem_cons_of_mem _ hx, heq⟩
      · intro kept hkept
        have head : reconcileChatContentPart kept event (some part) = .ok
          (kept.write write, .empty) :=
          hagn kept (hkept write (List.mem_cons_self ..) i j hat)
        have hrest : Kept (kept.write write) writes := by
          intro w hw i' j' hin
          obtain ⟨i'', j'', hin', hdiffer⟩ := hap w hw
          rw [← hkept w (List.mem_cons_of_mem _ hw) i' j' hin]
          refine kept.lookup_write_other hat ?_ w.refused
          rw [num_natCast_inj (hin.1.symm.trans hin'.1),
            num_natCast_inj (hin.2.symm.trans hin'.2)]
          exact fun hboth => hdiffer ⟨hboth.1.symm, hboth.2.symm⟩
        rw [reconcileParts, head]
        show (reconcileParts (kept.write write) list).map _ = _
        rw [hagn' _ hrest]
        rfl

theorem reconcileChatResponseOutputContent_again
    (h : reconcileChatResponseOutputContent parts event output = .ok (parts', content)) :
    reconcileChatResponseOutputContent parts' event output = .ok (parts', .empty) := by
  rw [reconcileChatResponseOutputContent_eq] at h ⊢
  obtain ⟨writes, hwr, hkept, _, hagn⟩ :=
    reconcileParts_writes (outputParts_placed event output) h
  rw [hagn parts' hkept, hwr, ContentParts.writeAll_writeAll]

end UbqGateway.Chat
