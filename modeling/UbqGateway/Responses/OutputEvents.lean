import UbqGateway.Library.Slots
import UbqGateway.Library.Utf16

/-!
# The output of a Responses stream

The events of a Responses stream that announce, fill and close output items, and a client that
follows them.  The client accepts an event only if it fits what the events before announced: items
are announced at the indexes `0, 1, 2, …`; every later event names an item that is announced and not
closed; what an item is closed with is what was announced and the texts that its deltas add up to;
and the response ends once, when all items are closed, with the items in the order of their indexes.
-/

namespace UbqGateway.Responses

/-- Texts, which deltas are appended to. -/
class Text (τ : Type) extends Append τ where
  empty : τ
  empty_append : ∀ text : τ, empty ++ text = text

instance : Text Utf16 where
  empty := []
  empty_append := List.nil_append

instance : Text String where
  empty := ""
  empty_append _ := String.empty_append

/-- The kinds of parts of items. -/
inductive PartKind
  | outputText
  | refusal
  | summaryText
deriving DecidableEq

structure Part (τ : Type) where
  kind : PartKind
  text : τ
deriving DecidableEq

/-- `status` of an item. -/
inductive ItemStatus
  | inProgress
  | completed
  | incomplete
deriving DecidableEq

/-- An output item.  The text of a call is its `arguments`, or its `input` if it is a custom
call. -/
inductive OutputItem (τ : Type)
  | message (id : τ) (status : ItemStatus) (content : List (Option (Part τ)))
  | reasoning (id : τ) (status : ItemStatus) (summary : List (Part τ))
  | call (custom : Bool) (id : τ) (status : ItemStatus) (callId name : τ) (space : Option τ)
    (text : τ)
deriving DecidableEq

/-- An event.  The events of parts are named after the kinds of their parts, and those of calls
after what their text is. -/
inductive OutputEvent (τ ε : Type)
  | created (envelope : ε)
  | inProgress (envelope : ε)
  | itemAdded (index : ℤ) (item : OutputItem τ)
  | partAdded (id : τ) (index partIndex : ℤ) (part : Part τ)
  | textDelta (kind : PartKind) (id : τ) (index partIndex : ℤ) (delta : τ)
  | textDone (kind : PartKind) (id : τ) (index partIndex : ℤ) (text : τ)
  | partDone (id : τ) (index partIndex : ℤ) (part : Part τ)
  | argumentsDelta (id : τ) (index : ℤ) (delta : τ)
  | argumentsDone (id : τ) (index : ℤ) (arguments : τ)
  | inputDelta (id : τ) (index : ℤ) (callId delta : τ)
  | itemDone (index : ℤ) (item : OutputItem τ)
  | terminal (envelope : ε) (output : List (Option (OutputItem τ)))
  | error (code message : τ)
deriving DecidableEq

def OutputItem.id {τ : Type} : OutputItem τ → τ
  | .message id _ _ => id
  | .reasoning id _ _ => id
  | .call _ id _ _ _ _ _ => id

/-! ### A client -/

/-- What a client knows of an item that is not closed. -/
inductive Collected (τ : Type)
  | message (id : τ) (parts : List (Part τ))
  | reasoning (id : τ) (parts : List (Part τ))
  | call (custom : Bool) (id callId name text : τ)
deriving DecidableEq

abbrev Items (τ : Type) := List (Slot (Collected τ) (OutputItem τ))

structure Client (τ : Type) where
  items : Items τ
  ended : Bool

variable [Text τ] [DecidableEq τ] {item : Collected τ}

namespace Collected

/-- What is known of an item that is announced, without content. -/
def ofAnnounced : OutputItem τ → Option (Collected τ)
  | .message id .inProgress [] => some (.message id [])
  | .reasoning id .inProgress [] => some (.reasoning id [])
  | .call custom id .inProgress callId name _ text =>
    if text = Text.empty then some (.call custom id callId name text) else none
  | _ => none

def id : Collected τ → τ
  | .message id _ => id
  | .reasoning id _ => id
  | .call _ id _ _ _ => id

def parts : Collected τ → List (Part τ)
  | .message _ parts => parts
  | .reasoning _ parts => parts
  | .call .. => []

def withParts (parts : List (Part τ)) : Collected τ → Collected τ
  | .message id _ => .message id parts
  | .reasoning id _ => .reasoning id parts
  | .call custom id callId name text => .call custom id callId name text

/-- Whether an item can have a part of a kind. -/
def admits : Collected τ → PartKind → Bool
  | .message .., .summaryText => false
  | .message .., _ => true
  | .reasoning .., kind => decide (kind = .summaryText)
  | .call .., _ => false

/-- A part is added after the others, without text. -/
def addPart (partIndex : ℤ) (part : Part τ) (item : Collected τ) : Option (Collected τ) :=
  if partIndex = item.parts.length ∧ part.text = Text.empty ∧ item.admits part.kind = true then
    some (item.withParts (item.parts ++ [part]))
  else none

def appendText (kind : PartKind) (partIndex : ℤ) (delta : τ) (item : Collected τ) :
    Option (Collected τ) :=
  if 0 ≤ partIndex then
    match item.parts[partIndex.toNat]? with
    | some part =>
      if part.kind = kind then
        some (item.withParts (item.parts.set partIndex.toNat ⟨kind, part.text ++ delta⟩))
      else none
    | none => none
  else none

/-- A part is as the deltas made it. -/
def checkPart (partIndex : ℤ) (part : Part τ) (item : Collected τ) : Option (Collected τ) :=
  if 0 ≤ partIndex ∧ item.parts[partIndex.toNat]? = some part then some item else none

/-- A delta is appended to the arguments of a function call. -/
def appendArguments (delta : τ) : Collected τ → Option (Collected τ)
  | .call false id callId name text => some (.call false id callId name (text ++ delta))
  | _ => none

/-- The arguments of a function call are as the deltas made them. -/
def checkArguments (arguments : τ) : Collected τ → Option (Collected τ)
  | .call false id callId name text =>
    if text = arguments then some (.call false id callId name text) else none
  | _ => none

def appendInput (callId' delta : τ) : Collected τ → Option (Collected τ)
  | .call true id callId name text =>
    if callId = callId' then some (.call true id callId name (text ++ delta)) else none
  | _ => none

/-- Whether an item that is closed is the one that was announced, with the texts of its deltas. -/
def closedAs : Collected τ → OutputItem τ → Bool
  | .message id parts, .message id' status content =>
    decide (id = id' ∧ status ≠ .inProgress ∧ content = parts.map some)
  | .reasoning id parts, .reasoning id' status summary =>
    decide (id = id' ∧ status ≠ .inProgress ∧ summary = parts)
  | .call custom id callId name text, .call custom' id' status callId' name' _ text' =>
    decide (custom = custom' ∧ id = id' ∧ status ≠ .inProgress ∧ callId = callId' ∧ name = name' ∧
      text = text')
  | _, _ => false

/-! The events keep the ids of items. -/

section Ids

theorem id_of_ofAnnounced {announced : OutputItem τ} (h : ofAnnounced announced = some item) :
    item.id = announced.id := by
  unfold ofAnnounced at h
  split at h
  · cases h
    rfl
  · cases h
    rfl
  · obtain ⟨-, heq⟩ := Option.ite_none_right_eq_some.mp h
    cases heq
    rfl
  · cases h

omit [Text τ] in
theorem id_of_closedAs {closed : OutputItem τ} (h : item.closedAs closed = true) :
    closed.id = item.id := by
  unfold closedAs at h
  split at h
  · exact (of_decide_eq_true h).1.symm
  · exact (of_decide_eq_true h).1.symm
  · exact (of_decide_eq_true h).2.1.symm
  · cases h

omit [Text τ] [DecidableEq τ] in
theorem id_withParts (parts : List (Part τ)) (item : Collected τ) :
    (item.withParts parts).id = item.id := by
  cases item <;> rfl

theorem id_of_addPart (h : addPart partIndex part item = some item') : item'.id = item.id := by
  obtain ⟨-, heq⟩ := Option.ite_none_right_eq_some.mp h
  cases heq
  exact id_withParts _ item

omit [DecidableEq τ] in
theorem id_of_appendText {kind : PartKind} (h : appendText kind partIndex delta item = some item') :
    item'.id = item.id := by
  obtain ⟨-, h⟩ := Option.ite_none_right_eq_some.mp h
  split at h
  · obtain ⟨-, heq⟩ := Option.ite_none_right_eq_some.mp h
    cases heq
    exact id_withParts _ item
  · cases h

omit [Text τ] in
theorem id_of_checkPart (h : checkPart partIndex part item = some item') : item'.id = item.id := by
  obtain ⟨-, heq⟩ := Option.ite_none_right_eq_some.mp h
  cases heq
  rfl

omit [DecidableEq τ] in
theorem id_of_appendArguments (h : appendArguments delta item = some item') :
    item'.id = item.id := by
  unfold appendArguments at h
  split at h
  · cases h
    rfl
  · cases h

omit [Text τ] in
theorem id_of_checkArguments {text : τ} (h : checkArguments text item = some item') :
    item'.id = item.id := by
  unfold checkArguments at h
  split at h
  · obtain ⟨-, heq⟩ := Option.ite_none_right_eq_some.mp h
    cases heq
    rfl
  · cases h

theorem id_of_appendInput {callId : τ} (h : appendInput callId delta item = some item') :
    item'.id = item.id := by
  unfold appendInput at h
  split at h
  · obtain ⟨-, heq⟩ := Option.ite_none_right_eq_some.mp h
    cases heq
    rfl
  · cases h

end Ids

end Collected

/-- The id of an item that a client knows. -/
def itemId : Slot (Collected τ) (OutputItem τ) → τ
  | .opened item => item.id
  | .done item => item.id

namespace Client

/-- Before the first event. -/
def fresh : Client τ := ⟨[], false⟩

def opened (items : Items τ) (index : ℤ) : Option (Collected τ) :=
  if 0 ≤ index then
    match items[index.toNat]? with
    | some (.opened item) => some item
    | _ => none
  else none

/-- An event about the item at an index. -/
def update (client : Client τ) (id : τ) (index : ℤ) (f : Collected τ → Option (Collected τ)) :
    Option (Client τ) :=
  match opened client.items index with
  | some item =>
    if item.id = id then
      (f item).map fun item => { client with items := client.items.set index.toNat (.opened item) }
    else none
  | none => none

/-- An item is announced, which can be open together with the items that are. -/
def add (together : Collected τ → Collected τ → Bool) (client : Client τ) (index : ℤ)
    (item : OutputItem τ) : Option (Client τ) :=
  match Collected.ofAnnounced item with
  | some new =>
    if index = client.items.length ∧
        (∀ slot ∈ client.items, (slot.content?.all fun old => together old new) = true) then
      some { client with items := client.items ++ [.opened new] }
    else none
  | none => none

def close (client : Client τ) (index : ℤ) (item : OutputItem τ) : Option (Client τ) :=
  match opened client.items index with
  | some collected =>
    if collected.closedAs item = true then
      some { client with items := client.items.set index.toNat (.done item) }
    else none
  | none => none

/-- The client takes an event of a response that has not ended, if it fits the events before. -/
def handle (together : Collected τ → Collected τ → Bool) (client : Client τ) :
    OutputEvent τ ε → Option (Client τ)
  | .created _ => some client
  | .inProgress _ => some client
  | .itemAdded index item => client.add together index item
  | .partAdded id index partIndex part => client.update id index (Collected.addPart partIndex part)
  | .textDelta kind id index partIndex delta =>
    client.update id index (Collected.appendText kind partIndex delta)
  | .textDone kind id index partIndex text =>
    client.update id index (Collected.checkPart partIndex ⟨kind, text⟩)
  | .partDone id index partIndex part => client.update id index (Collected.checkPart partIndex part)
  | .argumentsDelta id index delta => client.update id index (Collected.appendArguments delta)
  | .argumentsDone id index arguments => client.update id index (Collected.checkArguments arguments)
  | .inputDelta id index callId delta => client.update id index (Collected.appendInput callId delta)
  | .itemDone index item => client.close index item
  | .terminal _ output =>
    if (∀ slot ∈ client.items, slot.done?.isSome = true) ∧ output = client.items.map Slot.done? then
      some { client with ended := true }
    else none
  | .error .. => some { client with ended := true }

def take (together : Collected τ → Collected τ → Bool) (client : Client τ)
    (event : OutputEvent τ ε) :
    Option (Client τ) :=
  if client.ended = true then none else client.handle together event

/-- The client takes events. -/
def takeAll (together : Collected τ → Collected τ → Bool) :
    Client τ → List (OutputEvent τ ε) → Option (Client τ)
  | client, [] => some client
  | client, event :: events => (client.take together event).bind fun client =>
    takeAll together client events

section Rules

variable {client : Client τ}

theorem takeAll_append (events more : List (OutputEvent τ ε)) :
    takeAll together client (events ++ more) =
      (takeAll together client events).bind fun client => takeAll together client more := by
  induction events generalizing client with
  | nil => rfl
  | cons event events ih =>
    rw [List.cons_append, takeAll, takeAll, Option.bind_assoc]
    exact congrArg _ (funext fun client => ih)

variable {items : Items τ} {i : ℕ}

omit [Text τ] [DecidableEq τ] in
theorem opened_of_getElem? (h : items[i]? = some (.opened item)) : opened items i = some item := by
  unfold opened
  rw [if_pos (Int.natCast_nonneg i), Int.toNat_natCast, h]

variable {index : ℤ} {id : τ}

omit [Text τ] in
theorem update_of_check (hpl : index = i) (h : client.items[i]? = some (.opened item))
    (hname : item.id = id) (hchks : f item = some item) :
    client.update id index f = some client := by
  subst hpl hname
  unfold update
  rw [opened_of_getElem? h]
  simp only [if_true, hchks, Option.map_some, Int.toNat_natCast]
  obtain ⟨hins, heq⟩ := List.getElem?_eq_some_iff.mp h
  rw [← heq, List.set_getElem_self]

omit [Text τ] in
theorem update_of_opened (hpl : index = i) (h : client.items[i]? = some (.opened item))
    (hname : item.id = id) (hlearns : f item = some item') :
    client.update id index f =
      some { client with items := client.items.set i (.opened item') } := by
  subst hpl hname
  unfold update
  rw [opened_of_getElem? h]
  simp only [if_true, hlearns, Option.map_some, Int.toNat_natCast]

theorem add_of_together (hpl : index = client.items.length) {item : OutputItem τ}
    (hann : Collected.ofAnnounced item = some new)
    (hfit : ∀ old, .opened old ∈ client.items → together old new = true) :
    client.add together index item = some { client with items := client.items ++
      [.opened new] } := by
  subst hpl
  unfold add
  rw [hann]
  refine if_pos ⟨rfl, fun slot hmem => ?_⟩
  cases slot with
  | done => rfl
  | opened old => exact hfit old hmem

omit [Text τ] in
theorem close_of_opened (hpl : index = i) {item : OutputItem τ}
    (h : client.items[i]? = some (.opened collected)) (hcls : collected.closedAs item = true) :
    client.close index item = some { client with items := client.items.set i (.done item) } := by
  subst hpl
  unfold close
  rw [opened_of_getElem? h]
  simp only [hcls, if_true, Int.toNat_natCast]

end Rules

end Client

/-! ### What emits events -/

section Leads

/-- A client takes what is emitted, and a property holds afterwards. -/
def Leads (together : Collected τ → Collected τ → Bool) (client : Client τ)
    (emitted : σ × List (OutputEvent τ ε)) (post : σ → Client τ → Prop) : Prop :=
  ∃ after, client.takeAll together emitted.2 = some after ∧ post emitted.1 after

namespace Leads

variable {post : σ → Client τ → Prop}

theorem nil (h : post s client) : Leads together client (s, ([] : List (OutputEvent τ ε))) post :=
  ⟨client, rfl, h⟩

theorem cons (hrng : client.ended = false)
    (hhd : client.handle together event = some client')
    (h : Leads together client' (s, events) post) :
    Leads together client (s, event :: events) post := by
  obtain ⟨after, htake, holds⟩ := h
  refine ⟨after, ?_, holds⟩
  rw [Client.takeAll, Client.take, hrng, if_neg Bool.false_ne_true, hhd]
  exact htake

variable {emitted : σ × List (OutputEvent τ ε)}

section

variable (h : Leads together client emitted post)

include h

theorem mono (himp : ∀ s client, post s client → post' s client) :
    Leads together client emitted post' := by
  obtain ⟨after, htake, holds⟩ := h
  exact ⟨after, htake, himp _ _ holds⟩

theorem keep : Leads together client emitted fun s client => s = emitted.1 ∧ post s client := by
  obtain ⟨after, htake, holds⟩ := h
  exact ⟨after, htake, rfl, holds⟩

theorem append {f : σ → σ × List (OutputEvent τ ε)}
    (hnext : ∀ s client, post s client → Leads together client (f s) post') :
    Leads together client ((f emitted.1).1, emitted.2 ++ (f emitted.1).2) post' := by
  obtain ⟨after, htake, holds⟩ := h
  obtain ⟨last, htake', holds'⟩ := hnext _ _ holds
  refine ⟨last, ?_, holds'⟩
  rw [Client.takeAll_append, htake]
  exact htake'

end

end Leads

end Leads

/-! ### What an accepted stream looks like -/

namespace OutputEvent

def announces : OutputEvent τ ε → Option ℤ
  | .itemAdded index _ => some index
  | _ => none

def closes : OutputEvent τ ε → Option ℤ
  | .itemDone index _ => some index
  | _ => none

def ends : OutputEvent τ ε → Bool
  | .terminal .. => true
  | .error .. => true
  | _ => false

/-- The item that an event is about: its index and its id. -/
def about : OutputEvent τ ε → Option (ℤ × τ)
  | .itemAdded index item => some (index, item.id)
  | .partAdded id index _ _ => some (index, id)
  | .textDelta _ id index _ _ => some (index, id)
  | .textDone _ id index _ _ => some (index, id)
  | .partDone id index _ _ => some (index, id)
  | .argumentsDelta id index _ => some (index, id)
  | .argumentsDone id index _ => some (index, id)
  | .inputDelta id index _ _ => some (index, id)
  | .itemDone index item => some (index, item.id)
  | _ => none

/-- The item that a part, or the arguments, are done of. -/
def finishes : OutputEvent τ ε → Option ℤ
  | .textDone _ _ index _ _ => some index
  | .partDone _ index _ _ => some index
  | .argumentsDone _ index _ => some index
  | _ => none

/-- The item that something is added to. -/
def fills : OutputEvent τ ε → Option ℤ
  | .partAdded _ index _ _ => some index
  | .textDelta _ _ index _ _ => some index
  | .argumentsDelta _ index _ => some index
  | .inputDelta _ index _ _ => some index
  | _ => none

end OutputEvent

/-- The first event goes on with the end of an item: it is about what is done, or closes it. -/
def GoesOn (i : ℤ) (events : List (OutputEvent τ ε)) : Prop :=
  ∃ next ∈ events.head?, next.finishes = some i ∨ next.closes = some i

/-- What is done of an item is followed by what else is done of it, up to its closing. -/
def DoneTogether : List (OutputEvent τ ε) → Prop
  | [] => True
  | event :: rest => (∀ i, event.finishes = some i → GoesOn i rest) ∧ DoneTogether rest

section DoneTogether

variable {events more : List (OutputEvent τ ε)}

omit [Text τ] [DecidableEq τ] in
theorem doneTogether_of_none (h : ∀ event ∈ events, event.finishes = none) :
    DoneTogether events := by
  induction events with
  | nil => trivial
  | cons _ _ ih =>
    obtain ⟨hhd, hrest⟩ := List.forall_mem_cons.mp h
    exact ⟨fun i his => (Option.some_ne_none i (his.symm.trans hhd)).elim, ih hrest⟩

omit [Text τ] [DecidableEq τ] in
theorem DoneTogether.append (h : DoneTogether events) (hmore : DoneTogether more) :
    DoneTogether (events ++ more) := by
  induction events with
  | nil => exact hmore
  | cons _ events ih =>
    refine ⟨fun i his => ?_, ih h.2⟩
    obtain ⟨next, hnext, hon⟩ := h.1 i his
    cases events with
    | nil => cases hnext
    | cons _ _ => exact ⟨next, hnext, hon⟩

end DoneTogether

namespace Client

variable {client client' : Client τ} {events : List (OutputEvent τ ε)} {items : Items τ} {id : τ}

/-- Whether the item at an index is closed. -/
def isDone (client : Client τ) (i : ℕ) : Bool := (client.items[i]?.bind Slot.done?).isSome

/-- What an event can do to the items of a client. -/
inductive Handled (client client' : Client τ) : OutputEvent τ ε → Prop
  | same (event : OutputEvent τ ε) (hann : event.announces = none) (hcls : event.closes = none)
    (hits : client'.items = client.items) (hend : client'.ended = event.ends) :
      Handled client client' event
  | updated (event : OutputEvent τ ε) (hann : event.announces = none) (hcls : event.closes = none)
    (i : ℕ) (old new : Collected τ) (hat : client.items[i]? = some (.opened old))
    (hits : client'.items = client.items.set i (.opened new))
      (hend : client'.ended = event.ends) :
    Handled client client' event
  | added (item : OutputItem τ) (new : Collected τ) (hits : client'.items = client.items ++
    [.opened new])
    (hend : client'.ended = false) : Handled client client' (.itemAdded client.items.length item)
  | closed (i : ℕ) (item : OutputItem τ) (old : Collected τ)
    (hat : client.items[i]? = some (.opened old))
    (hits : client'.items = client.items.set i (.done item)) (hend : client'.ended = false) :
    Handled client client' (.itemDone i item)

omit [Text τ] [DecidableEq τ] in
theorem getElem?_of_opened
    (h : opened items index = some item) : ∃ i : ℕ, index = i ∧
      items[i]? = some (.opened item) := by
  unfold opened at h
  by_cases hins : 0 ≤ index
  · rw [if_pos hins] at h
    refine ⟨index.toNat, (Int.toNat_of_nonneg hins).symm, ?_⟩
    split at h
    · rename_i item' hfd
      rw [hfd, Option.some.inj h]
    · cases h
  · rw [if_neg hins] at h
    cases h

omit [Text τ] in
/-- What an accepted update does: it changes the open item of its index and id. -/
theorem update_eq_some (h : client.update id index f = some client') :
    ∃ (i : ℕ) (old new : Collected τ), index = i ∧ client.items[i]? = some (.opened old) ∧
      old.id = id ∧ f old = some new ∧
      client' = { client with items := client.items.set i (.opened new) } := by
  unfold update at h
  split at h
  · next old hfd =>
      obtain ⟨i, rfl, hat⟩ := getElem?_of_opened hfd
      obtain ⟨hname, hchg⟩ := Option.ite_none_right_eq_some.mp h
      obtain ⟨new, his, rfl⟩ := Option.map_eq_some_iff.mp hchg
      exact ⟨i, old, new, rfl, hat, hname, his, rfl⟩
  · cases h

/-- What an accepted announcement does. -/
theorem add_eq_some {item : OutputItem τ} (h : client.add together index item = some client') :
    ∃ new, Collected.ofAnnounced item = some new ∧ index = client.items.length ∧
      client' = { client with items := client.items ++ [.opened new] } := by
  unfold add at h
  split at h
  · next new hann =>
      obtain ⟨⟨hpl, -⟩, heq⟩ := Option.ite_none_right_eq_some.mp h
      exact ⟨new, hann, hpl, (Option.some.inj heq).symm⟩
  · cases h

omit [Text τ] in
/-- What an accepted close does. -/
theorem close_eq_some {item : OutputItem τ} (h : client.close index item = some client') :
    ∃ (i : ℕ) (old : Collected τ), index = i ∧ client.items[i]? = some (.opened old) ∧
      old.closedAs item = true ∧
      client' = { client with items := client.items.set i (.done item) } := by
  unfold close at h
  split at h
  · next old hfd =>
      obtain ⟨i, rfl, hat⟩ := getElem?_of_opened hfd
      obtain ⟨hcls, heq⟩ := Option.ite_none_right_eq_some.mp h
      exact ⟨i, old, rfl, hat, hcls, (Option.some.inj heq).symm⟩
  · cases h

theorem takeAll_cons (h : client.takeAll together (event :: events) = some client') :
    ∃ next, client.take together event = some next ∧ next.takeAll together events = some client' :=
  Option.bind_eq_some_iff.mp h

omit [Text τ] in
theorem handled_of_update
    (hrng : client.ended = false) (h : client.update id index f = some client')
    (hann : event.announces = none) (hcls : event.closes = none) (hends : event.ends = false) :
    Handled client client' event := by
  obtain ⟨i, old, new, rfl, hat, -, -, rfl⟩ := update_eq_some h
  exact .updated event hann hcls i old new hat rfl (hrng.trans hends.symm)

/-- What an accepted event does to the items. -/
theorem handled_of_handle (hrng : client.ended = false)
    (h : client.handle together event = some client') : Handled client client' event := by
  cases event with
  | created | inProgress =>
    cases h
    exact .same _ rfl rfl rfl hrng
  | itemAdded index item =>
    obtain ⟨new, -, rfl, rfl⟩ := add_eq_some h
    exact .added item new rfl hrng
  | itemDone index item =>
    obtain ⟨i, old, rfl, hat, -, rfl⟩ := close_eq_some h
    exact .closed i item old hat rfl hrng
  | terminal =>
    obtain ⟨-, heq⟩ := Option.ite_none_right_eq_some.mp h
    cases heq
    exact .same _ rfl rfl rfl rfl
  | error code message =>
    cases h
    exact .same _ rfl rfl rfl rfl
  | partAdded | textDelta | textDone | partDone | argumentsDelta | argumentsDone | inputDelta =>
    exact handled_of_update hrng h rfl rfl rfl

theorem handled_of_take (h : client.take together event = some client') :
    client.ended = false ∧ Handled client client' event := by
  unfold take at h
  by_cases hend : client.ended = true
  · rw [if_pos hend] at h
    cases h
  · have hrng : client.ended = false := by simpa using hend
    rw [if_neg hend] at h
    exact ⟨hrng, handled_of_handle hrng h⟩

section

variable (h : client.takeAll together events = some client')

include h

theorem takeAll_announces :
    (List.range client.items.length).map Nat.cast ++ events.filterMap OutputEvent.announces =
      (List.range client'.items.length).map (Nat.cast : ℕ → ℤ) := by
  induction events generalizing client with
  | nil =>
    cases h
    exact List.append_nil _
  | cons _ _ ih =>
    obtain ⟨next, htake, hrest⟩ := takeAll_cons h
    rw [← ih hrest]
    obtain ⟨-, hhd⟩ := handled_of_take htake
    cases hhd with
    | same _ hann _ hits => rw [List.filterMap_cons, hann, hits]
    | updated _ hann _ _ _ _ _ hits =>
      rw [List.filterMap_cons, hann, hits, List.length_set]
    | added _ _ hits =>
      rw [List.filterMap_cons, hits, List.length_append, List.length_singleton, List.range_succ,
        List.map_append, List.append_assoc]
      rfl
    | closed _ _ _ _ hits =>
      rw [List.filterMap_cons, hits, List.length_set]
      rfl

/-- An item is closed once, or was done before. -/
theorem takeAll_closes (i : ℕ) :
    (events.filterMap OutputEvent.closes).count (i : ℤ) + (client.isDone i).toNat =
      (client'.isDone i).toNat := by
  induction events generalizing client with
  | nil =>
    cases h
    exact Nat.zero_add _
  | cons _ events ih =>
    obtain ⟨next, htake, hrest⟩ := takeAll_cons h
    rw [← ih hrest]
    obtain ⟨-, hhd⟩ := handled_of_take htake
    unfold isDone
    cases hhd with
    | same _ _ hcls hits => rw [List.filterMap_cons, hcls, hits]
    | updated _ _ hcls j _ _ hat hits =>
      rw [List.filterMap_cons, hcls, hits]
      by_cases heq : j = i
      · subst heq
        have hins := (List.getElem?_eq_some_iff.mp hat).1
        rw [hat, List.getElem?_set_self hins]
        rfl
      · rw [List.getElem?_set_ne heq]
    | added _ _ hits =>
      rw [List.filterMap_cons, hits]
      rcases lt_trichotomy i client.items.length with hins | rfl | houtside
      · rw [List.getElem?_append_left hins]
        rfl
      · rw [List.getElem?_concat_length, List.getElem?_eq_none (le_refl _)]
        rfl
      · rw [List.getElem?_eq_none (by omega), List.getElem?_eq_none (by simp; omega)]
        rfl
    | closed j _ _ hat hits =>
      rw [List.filterMap_cons, hits]
      show ((j : ℤ) :: events.filterMap OutputEvent.closes).count (i : ℤ) + _ = _
      rw [List.count_cons]
      by_cases heq : j = i
      · subst heq
        have hins := (List.getElem?_eq_some_iff.mp hat).1
        rw [hat, List.getElem?_set_self hins]
        simp [Slot.done?]
      · rw [List.getElem?_set_ne heq]
        simp [heq]

/-- The last event ends the response, and no other. -/
theorem takeAll_ends (hrng : client.ended = false) :
    (client'.ended = false ∧ ∀ event ∈ events, event.ends = false) ∨
      client'.ended = true ∧ ∃ before last, events = before ++ [last] ∧ last.ends = true ∧
        ∀ event ∈ before, event.ends = false := by
  induction events generalizing client with
  | nil =>
    cases h
    exact .inl ⟨hrng, List.forall_mem_nil _⟩
  | cons event events ih =>
    obtain ⟨next, htake, hrest⟩ := takeAll_cons h
    obtain ⟨-, hhd⟩ := handled_of_take htake
    have hend : next.ended = event.ends := by
      cases hhd with
      | same _ _ _ _ hend | updated _ _ _ _ _ _ _ _ hend | added _ _ _ hend
      | closed _ _ _ _ _ hend => exact hend
    cases hends : event.ends with
    | false =>
      rw [hends] at hend
      rcases ih hrest hend with ⟨hstll, hno⟩ | ⟨hfnd, before, last, rfl, hfin, hoths⟩
      · exact .inl ⟨hstll, List.forall_mem_cons.mpr ⟨hends, hno⟩⟩
      · exact .inr ⟨hfnd, event :: before, last, rfl, hfin,
          List.forall_mem_cons.mpr ⟨hends, hoths⟩⟩
    | true =>
      rw [hends] at hend
      cases events with
      | nil =>
        cases hrest
        exact .inr ⟨hend, [], event, rfl, hends, List.forall_mem_nil _⟩
      | cons more others =>
        rw [takeAll, take, hend, if_pos rfl] at hrest
        cases hrest

end

/-! ### Nothing is added to what is done -/

theorem opened_of_fills (h : client.handle together event = some client')
    (hfills : event.fills = some index) :
    ∃ i : ℕ, index = i ∧ ∃ old, client.items[i]? = some (.opened old) := by
  cases event with
  | partAdded | textDelta | argumentsDelta | inputDelta =>
    cases hfills
    obtain ⟨i, old, _, hpl, hat, -⟩ := update_eq_some h
    exact ⟨i, hpl, old, hat⟩
  | _ => cases hfills

/-- A closed item stays closed, and nothing is added to it. -/
theorem not_fills_of_isDone (h : client.takeAll together events = some client') {i : ℕ}
    (hdone : client.isDone i = true) : ∀ event ∈ events, event.fills ≠ some (i : ℤ) := by
  induction events generalizing client with
  | nil => exact List.forall_mem_nil _
  | cons event events ih =>
    obtain ⟨next, htake, hrest⟩ := takeAll_cons h
    have hone : client.takeAll together [event] = some next := by
      rw [takeAll, htake]
      rfl
    have hkept := takeAll_closes hone i
    rw [hdone] at hkept
    refine List.forall_mem_cons.mpr ⟨fun hfills => ?_, ih hrest ?_⟩
    · unfold take at htake
      obtain ⟨j, heq, old, hat⟩ :=
        opened_of_fills (Option.ite_none_left_eq_some.mp htake).2 hfills
      obtain rfl : i = j := Int.ofNat_inj.mp heq
      rw [isDone, hat] at hdone
      cases hdone
    · cases hnext : next.isDone i with
      | true => rfl
      | false =>
        rw [hnext] at hkept
        exact absurd hkept (Nat.succ_ne_zero _)

theorem not_fills_of_goesOn (h : client.takeAll together events = some client')
    (htogether : DoneTogether events) {i : ℤ} (hon : GoesOn i events) :
    ∀ event ∈ events, event.fills ≠ some i := by
  induction events generalizing client with
  | nil => exact List.forall_mem_nil _
  | cons event _ ih =>
    obtain ⟨next, htake, hrest⟩ := takeAll_cons h
    obtain ⟨first, hfst, hon⟩ := hon
    cases hfst
    have hnot : event.fills ≠ some i := by
      intro hfills
      cases event <;> simp_all [OutputEvent.fills, OutputEvent.finishes, OutputEvent.closes]
    refine List.forall_mem_cons.mpr ⟨hnot, ?_⟩
    rcases hon with hfinishes | hcloses
    · exact ih hrest htogether.2 (htogether.1 i hfinishes)
    · obtain ⟨-, hhd⟩ := handled_of_take htake
      cases hhd with
      | same _ _ hcls | updated _ _ hcls => exact absurd (hcls.symm.trans hcloses) nofun
      | added => cases hcloses
      | closed _ _ _ hat hits =>
        cases hcloses
        refine not_fills_of_isDone hrest ?_
        rw [isDone, hits, List.getElem?_set_self (List.getElem?_eq_some_iff.mp hat).1]
        rfl

/-- Once a part of an item is done, nothing is added to the item. -/
theorem takeAll_finishes (h : client.takeAll together events = some client')
    (htogether : DoneTogether events) :
    events.Pairwise fun event later => ∀ i, event.finishes = some i → later.fills ≠ some i := by
  induction events generalizing client with
  | nil => exact .nil
  | cons _ _ ih =>
    obtain ⟨next, -, hrest⟩ := takeAll_cons h
    refine .cons (fun later hmem i hfinishes => ?_) (ih hrest htogether.2)
    exact not_fills_of_goesOn hrest htogether.2 (htogether.1 i hfinishes) later hmem

/-! ### The items that events name -/

/-- Every event about an item names it, and the items keep their ids. -/
structure Names (client client' : Client τ) (event : OutputEvent τ ε) : Prop where
  named : ∀ index id, event.about = some (index, id) →
    ∃ i : ℕ, index = i ∧ client'.items[i]?.map itemId = some id
  kept : ∀ (i : ℕ) id, client.items[i]?.map itemId = some id →
    client'.items[i]?.map itemId = some id

variable {old new : Slot (Collected τ) (OutputItem τ)}

omit [Text τ] [DecidableEq τ] in
theorem itemId_set (hat : items[i]? = some old) (heq : itemId new = itemId old) (j : ℕ) :
    (items.set i new)[j]?.map itemId = items[j]?.map itemId := by
  by_cases here : i = j
  · subst here
    rw [List.getElem?_set_self (List.getElem?_eq_some_iff.mp hat).1, hat]
    exact congrArg some heq
  · rw [List.getElem?_set_ne here]

omit [Text τ] [DecidableEq τ] in
theorem names_of_set {i : ℕ} (hat : client.items[i]? = some old) (heq : itemId new = itemId old)
    (hname : itemId old = id) (habo : event.about = some ((i : ℤ), id)) :
    Names client { client with items := client.items.set i new } event where
  named index id' his := by
    rw [habo] at his
    cases his
    refine ⟨i, rfl, ?_⟩
    rw [itemId_set hat heq, hat]
    exact congrArg some hname
  kept j id' hfd := (itemId_set hat heq j).trans hfd

omit [Text τ] in
theorem names_of_update (hkps : ∀ item item', f item = some item' → item'.id = item.id)
    (h : client.update id index f = some client') (habo : event.about = some (index, id)) :
    Names client client' event := by
  obtain ⟨i, old, new, rfl, hat, hname, his, rfl⟩ := update_eq_some h
  exact names_of_set hat (hkps _ _ his) hname habo

omit [Text τ] [DecidableEq τ] in
theorem names_of_items (hits : client'.items = client.items) (habo : event.about = none) :
    Names client client' event where
  named index id his := by
    rw [habo] at his
    cases his
  kept i id hfd := by
    rw [hits]
    exact hfd

/-- What an accepted event names. -/
theorem names_of_handle (h : client.handle together event = some client') :
    Names client client' event := by
  cases event with
  | created | inProgress | error code message =>
    cases h
    exact names_of_items rfl rfl
  | itemAdded index item =>
    obtain ⟨new, hann, rfl, rfl⟩ := add_eq_some h
    refine ⟨fun index id his => ?_, fun i id hfd => ?_⟩
    · cases his
      refine ⟨client.items.length, rfl, ?_⟩
      rw [List.getElem?_concat_length]
      exact congrArg some (Collected.id_of_ofAnnounced hann)
    · rw [List.getElem?_append_left]
      · exact hfd
      · by_contra houtside
        rw [List.getElem?_eq_none (by omega)] at hfd
        cases hfd
  | itemDone index item =>
    obtain ⟨i, old, rfl, hat, hcls, rfl⟩ := close_eq_some h
    have hid := Collected.id_of_closedAs hcls
    exact names_of_set hat hid hid.symm rfl
  | terminal =>
    obtain ⟨-, heq⟩ := Option.ite_none_right_eq_some.mp h
    cases heq
    exact names_of_items rfl rfl
  | partAdded => exact names_of_update (fun _ _ => Collected.id_of_addPart) h rfl
  | textDelta => exact names_of_update (fun _ _ => Collected.id_of_appendText) h rfl
  | textDone | partDone => exact names_of_update (fun _ _ => Collected.id_of_checkPart) h rfl
  | argumentsDelta => exact names_of_update (fun _ _ => Collected.id_of_appendArguments) h rfl
  | argumentsDone => exact names_of_update (fun _ _ => Collected.id_of_checkArguments) h rfl
  | inputDelta => exact names_of_update (fun _ _ => Collected.id_of_appendInput) h rfl

theorem takeAll_names (h : client.takeAll together events = some client') :
    (∀ (i : ℕ) id, client.items[i]?.map itemId = some id → client'.items[i]?.map itemId = some id) ∧
      ∀ event ∈ events, ∀ index id, event.about = some (index, id) →
        ∃ i : ℕ, index = i ∧ client'.items[i]?.map itemId = some id := by
  induction events generalizing client with
  | nil =>
    cases h
    exact ⟨fun _ _ hfd => hfd, List.forall_mem_nil _⟩
  | cons _ _ ih =>
    obtain ⟨next, htake, hrest⟩ := takeAll_cons h
    obtain ⟨hkept, hname⟩ := ih hrest
    unfold take at htake
    obtain ⟨-, hhd⟩ := Option.ite_none_left_eq_some.mp htake
    have hnms := names_of_handle hhd
    refine ⟨fun i id hfd => hkept i id (hnms.kept i id hfd), List.forall_mem_cons.mpr ⟨?_, hname⟩⟩
    intro index id habo
    obtain ⟨i, heq, hfd⟩ := hnms.named index id habo
    exact ⟨i, heq, hkept i id hfd⟩

theorem takeAll_terminal
    (h : client.takeAll together (before ++ [.terminal envelope output]) = some client') :
    (∀ slot ∈ client'.items, slot.done?.isSome = true) ∧ output = client'.items.map Slot.done? := by
  rw [takeAll_append, Option.bind_eq_some_iff] at h
  obtain ⟨next, -, hlast⟩ := h
  obtain ⟨final, htake, heq⟩ := takeAll_cons hlast
  cases heq
  unfold take at htake
  obtain ⟨-, hhd⟩ := Option.ite_none_left_eq_some.mp htake
  obtain ⟨hcl, his⟩ := Option.ite_none_right_eq_some.mp hhd
  cases his
  exact hcl

end Client

end UbqGateway.Responses
