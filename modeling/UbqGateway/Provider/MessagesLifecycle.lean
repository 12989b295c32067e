import UbqGateway.Provider.MessagesTranslator

/-!
# The lifecycle of translated Messages streams

A client that follows a translated stream knows of the open block what the translator knows, and has
closed the items of the blocks that are closed (`MessagesFollows`).  Suppressed blocks have no
items.
-/

namespace UbqGateway.Provider

open Responses MessagesOptions

/-- No two items are open together. -/
def alone : Collected String → Collected String → Bool := fun _ _ => false

/-- The index of the item of a block, unless it is suppressed. -/
def shownIndex (block : ContentBlock) : Option ℕ :=
  if block.suppressed = true then none else some block.outputIndex

/-- The indexes of the items of the blocks, in the order in which the blocks were opened. -/
def shownIndexes (s : MessagesState) : List ℕ := (s.blocks.filterMap shownIndex).values

namespace MessagesOptions

variable (t : MessagesOptions)

/-- What a client knows of a block that is open. -/
def contentOf (block : ContentBlock) : Collected String :=
  match block.kind with
  | .text => .message block.id [⟨.outputText, block.text⟩]
  | .thinking => .reasoning block.id [⟨.summaryText, block.text⟩]
  | _ => .call false block.id block.callId (t.originalName block.name).name block.args

/-- What a client knows of the blocks that are open and shown. -/
def owns (s : MessagesState) (nativeIndex : ℕ) : Option (ℕ × Collected String) :=
  (s.blocks.lookup nativeIndex).bind fun block =>
    if block.closed = false ∧
      block.suppressed = false then some (block.outputIndex, t.contentOf block)
    else none

end MessagesOptions

structure ShownAs (client : Responses.Client String) (block : ContentBlock) : Prop where
  id_at : client.items[block.outputIndex]?.map itemId = some block.id
  done_iff : client.isDone block.outputIndex = block.closed

variable {client : Responses.Client String}

theorem ShownAs.lt_length (h : ShownAs client block) : block.outputIndex < client.items.length := by
  by_contra houtside
  have hid := h.id_at
  rw [List.getElem?_eq_none (by omega)] at hid
  cases hid

/-- What a client that has taken all events so far knows of the blocks. -/
structure MessagesFollows (t : MessagesOptions) (s : MessagesState)
    (client : Responses.Client String) : Prop where
  ended : client.ended = s.terminal
  owned : Slot.Owned client.items (t.owns s)
  stored : Slot.Stored client.items (s.output.map some)
  full : s.output.length = client.items.length
  keyed : ∀ key block, s.blocks.lookup key = some block → block.nativeIndex = key
  single : ∀ key block key' block', s.blocks.lookup key = some block → block.closed = false →
    s.blocks.lookup key' = some block' → block'.closed = false → key = key'
  indexes : shownIndexes s = List.range client.items.length
  shown : ∀ key block, s.blocks.lookup key = some block → block.suppressed = false →
    ShownAs client block

namespace MessagesFollows

variable {t : MessagesOptions} {s s' : MessagesState}

theorem initial (t : MessagesOptions) : MessagesFollows t t.initial .fresh where
  ended := rfl
  owned := Slot.Owned.empty _ fun _ => rfl
  stored := Slot.Stored.empty
  full := rfl
  keyed _ block hfd := absurd (hfd : none = some block) nofun
  single _ block _ _ hfd := absurd (hfd : none = some block) nofun
  indexes := rfl
  shown _ block hfd := absurd (hfd : none = some block) nofun

theorem congr (h : MessagesFollows t s client) (hblk : s'.blocks = s.blocks)
    (hout : s'.output = s.output)
    (hterm : s'.terminal = s.terminal) : MessagesFollows t s' client := by
  have hown := h.owned
  have hindexes := h.indexes
  unfold MessagesOptions.owns at hown
  unfold shownIndexes at hindexes
  refine ⟨?_, ?_, ?_, ?_, ?_, ?_, ?_, ?_⟩
  · rw [hterm]
    exact h.ended
  · unfold MessagesOptions.owns
    rw [hblk]
    exact hown
  · rw [hout]
    exact h.stored
  · rw [hout]
    exact h.full
  · rw [hblk]
    exact h.keyed
  · rw [hblk]
    exact h.single
  · unfold shownIndexes
    rw [hblk]
    exact hindexes
  · rw [hblk]
    exact h.shown

theorem owns_of (hkn : s.blocks.lookup key = some block) (hop : block.closed = false)
    (hsh : block.suppressed = false) :
    t.owns s key = some (block.outputIndex, t.contentOf block) := by
  unfold MessagesOptions.owns
  rw [hkn, Option.bind_some, if_pos ⟨hop, hsh⟩]

theorem owns_none (hkn : s.blocks.lookup key = some block)
    (hidden : ¬ (block.closed = false ∧ block.suppressed = false)) : t.owns s key = none := by
  unfold MessagesOptions.owns
  rw [hkn, Option.bind_some, if_neg hidden]

section

variable (hblk : s'.blocks = s.blocks.insert block.nativeIndex block)

include hblk

theorem owns_of_ne (key : ℕ)
    (hdiff : key ≠ block.nativeIndex) : t.owns s' key = t.owns s key := by
  unfold MessagesOptions.owns
  rw [hblk, Record.lookup_insert_of_ne _ _ hdiff]

theorem lookup_self : s'.blocks.lookup block.nativeIndex = some block := by
  rw [hblk, Record.lookup_insert_self]

theorem forall_insert
    {p : ℕ → ContentBlock → Prop} (here : p block.nativeIndex block)
    (hin : ∀ key other, key ≠ block.nativeIndex → s.blocks.lookup key = some other → p key other) :
    ∀ key other, s'.blocks.lookup key = some other → p key other := by
  intro key other hfd
  by_cases heq : key = block.nativeIndex
  · rw [heq, lookup_self hblk] at hfd
    cases hfd
    rw [heq]
    exact here
  · rw [hblk, Record.lookup_insert_of_ne _ _ heq] at hfd
    exact hin key other heq hfd

end

theorem contentOf_id (t : MessagesOptions) (block : ContentBlock) :
    (t.contentOf block).id = block.id := by
  unfold MessagesOptions.contentOf
  cases block.kind <;> rfl

theorem isDone_set (hdiff : i ≠ j) :
    Client.isDone { client with items := client.items.set i new } j = client.isDone j := by
  unfold Client.isDone
  rw [List.getElem?_set_ne hdiff]

theorem isDone_of_opened (hat : client.items[i]? = some (.opened content)) :
    client.isDone i = false := by
  unfold Client.isDone
  rw [hat]
  rfl

section

variable (h : MessagesFollows t s client)

include h

theorem single_insert (hblk : s'.blocks = s.blocks.insert block.nativeIndex block)
    (hoths : block.closed = false → ∀ key other, key ≠ block.nativeIndex →
      s.blocks.lookup key = some other → other.closed = true) :
    ∀ key one key' two, s'.blocks.lookup key = some one → one.closed = false →
      s'.blocks.lookup key' = some two → two.closed = false → key = key' := by
  have hlookup (key : ℕ) (one : ContentBlock) (hfd : s'.blocks.lookup key = some one) :
      key = block.nativeIndex ∧ one = block ∨ key ≠ block.nativeIndex ∧
        s.blocks.lookup key = some one := by
    by_cases heq : key = block.nativeIndex
    · rw [heq, lookup_self hblk] at hfd
      exact .inl ⟨heq, (Option.some.inj hfd).symm⟩
    · rw [hblk, Record.lookup_insert_of_ne _ _ heq] at hfd
      exact .inr ⟨heq, hfd⟩
  intro key one key' two hfd hop hfd' hop'
  rcases hlookup key one hfd with ⟨rfl, rfl⟩ | ⟨hdiff, hold⟩
  · rcases hlookup key' two hfd' with ⟨rfl, -⟩ | ⟨hdiff', hold'⟩
    · rfl
    · exact absurd (hop'.symm.trans (hoths hop key' two hdiff' hold')) Bool.false_ne_true
  · rcases hlookup key' two hfd' with ⟨rfl, rfl⟩ | ⟨_, hold'⟩
    · exact absurd (hop.symm.trans (hoths hop' key one hdiff hold)) Bool.false_ne_true
    · exact h.single key one key' two hold hop hold' hop'

theorem others_closed (hkn : s.blocks.lookup key = some block) (hop : block.closed = false) :
    ∀ key' other, key' ≠ key → s.blocks.lookup key' = some other → other.closed = true := by
  intro key' other hdiff hfd
  by_contra hstll
  exact hdiff (h.single key' other key block hfd (by simpa using hstll) hkn hop)

/-- A block is not shown. -/
theorem hide (hblk : s'.blocks = s.blocks.insert block.nativeIndex block)
    (hout : s'.output = s.output) (hterm : s'.terminal = s.terminal)
    (hsupp : block.suppressed = true)
    (hbef : ∀ old, s.blocks.lookup block.nativeIndex = some old → old.suppressed = true)
    (hoths : block.closed = false → ∀ key other, key ≠ block.nativeIndex →
      s.blocks.lookup key = some other → other.closed = true) :
    MessagesFollows t s' client := by
  have hidden (b : ContentBlock) (his : b.suppressed = true) : ¬ (b.closed = false ∧
    b.suppressed = false) :=
    fun hboth => Bool.false_ne_true (hboth.2.symm.trans his)
  have hno (b : ContentBlock) (his : b.suppressed = true) : shownIndex b = none := if_pos his
  refine ⟨hterm ▸ h.ended, h.owned.congr fun key => ?_, hout ▸ h.stored, hout ▸ h.full, ?_,
    h.single_insert hblk hoths, ?_, ?_⟩
  · by_cases heq : key = block.nativeIndex
    · rw [heq, owns_none (lookup_self hblk) (hidden _ hsupp)]
      cases hkn : s.blocks.lookup block.nativeIndex with
      | none =>
        unfold MessagesOptions.owns
        rw [hkn]
        rfl
      | some old => exact (owns_none hkn (hidden _ (hbef old hkn))).symm
    · exact owns_of_ne hblk key heq
  · exact forall_insert hblk rfl fun key other _ => h.keyed key other
  · rw [← h.indexes]
    unfold shownIndexes
    rw [hblk]
    cases hkn : s.blocks.lookup block.nativeIndex with
    | none =>
      have himage : (s.blocks.insert block.nativeIndex block).filterMap shownIndex =
          s.blocks.filterMap shownIndex := by
        refine Record.ext ?_
        show List.filterMap _ (s.blocks.insert block.nativeIndex block).entries = _
        rw [Record.entries_insert_of_new hkn, List.filterMap_append]
        simp only [List.filterMap_cons, hno block hsupp, Option.map_none, List.filterMap_nil,
          List.append_nil]
        rfl
      rw [himage]
    | some old =>
      rw [Record.filterMap_insert_of_eq hkn]
      rw [hno block hsupp, hno old (hbef old hkn)]
  · refine forall_insert hblk (fun hsh => ?_) fun key other _ => h.shown key other
    exact absurd (hsh.symm.trans hsupp) Bool.false_ne_true

end

section

variable (h : MessagesFollows t s client)

include h

/-- A shown block changes. -/
theorem change
    (hkn : s.blocks.lookup block.nativeIndex = some old) (hop : old.closed = false)
    (hwas : old.suppressed = false) (hblk : s'.blocks = s.blocks.insert block.nativeIndex block)
    (hout : s'.output = s.output) (hterm : s'.terminal = s.terminal)
    (hstll : block.closed = false) (hsh : block.suppressed = false)
    (hidx : block.outputIndex = old.outputIndex) (hid : block.id = old.id) :
    MessagesFollows t s' { client with
      items := client.items.set old.outputIndex (.opened (t.contentOf block)) } := by
  have hown := owns_of (t := t) hkn hop hwas
  have hat := h.owned.holds hown
  have hins := h.owned.lt_length hown
  have hsameId : itemId (Slot.opened (t.contentOf block)) = itemId (.opened (t.contentOf old)) := by
    show (t.contentOf block).id = (t.contentOf old).id
    rw [contentOf_id, contentOf_id, hid]
  have hisDone (j : ℕ) : Client.isDone { client with
      items := client.items.set old.outputIndex (.opened (t.contentOf block)) } j =
        client.isDone j := by
    by_cases here : old.outputIndex = j
    · subst here
      rw [isDone_of_opened hat]
      exact isDone_of_opened (List.getElem?_set_self hins)
    · exact isDone_set here
  have hkept (b : ContentBlock) (has : ShownAs client b) : ShownAs { client with
      items := client.items.set old.outputIndex (.opened (t.contentOf block)) } b :=
    ⟨(Client.itemId_set hat hsameId _).trans has.id_at, (hisDone _).trans has.done_iff⟩
  refine ⟨hterm ▸ h.ended, ?_, ?_, ?_, ?_, ?_, ?_, ?_⟩
  · refine h.owned.change hown ?_ (owns_of_ne hblk)
    rw [← hidx]
    exact owns_of (lookup_self hblk) hstll hsh
  · rw [hout]
    exact h.stored.change _ _
  · rw [hout, List.length_set]
    exact h.full
  · exact forall_insert hblk rfl fun key other _ => h.keyed key other
  · exact h.single_insert hblk fun _ => h.others_closed hkn hop
  · rw [List.length_set, ← h.indexes]
    unfold shownIndexes
    rw [hblk, Record.filterMap_insert_of_eq hkn]
    unfold shownIndex
    rw [hsh, hwas, hidx]
  · refine forall_insert hblk (fun _ => ?_) fun key other _ hfd hsh =>
      hkept other (h.shown key other hfd hsh)
    have has := hkept old (h.shown _ old hkn hwas)
    refine ⟨?_, ?_⟩
    · rw [hidx, hid]
      exact has.id_at
    · rw [hidx, hstll, ← hop]
      exact has.done_iff

/-- A block is announced. -/
theorem announce (hnew : s.blocks.lookup block.nativeIndex = none)
    (hblk : s'.blocks = s.blocks.insert block.nativeIndex block)
    (hout : s'.output = s.output ++ [item]) (hterm : s'.terminal = s.terminal)
    (hop : block.closed = false) (hsh : block.suppressed = false)
    (hidx : block.outputIndex = s.output.length)
    (hoths : ∀ key other, key ≠ block.nativeIndex → s.blocks.lookup key = some other →
      other.closed = true) :
    MessagesFollows t s' { client with items := client.items ++
      [.opened (t.contentOf block)] } := by
  have hpl : block.outputIndex = client.items.length := hidx.trans h.full
  have hkept (b : ContentBlock) (has : ShownAs client b) :
      ShownAs { client with items := client.items ++ [.opened (t.contentOf block)] } b := by
    have hins := has.lt_length
    refine ⟨?_, ?_⟩
    · rw [List.getElem?_append_left hins]
      exact has.id_at
    · rw [← has.done_iff]
      unfold Client.isDone
      rw [List.getElem?_append_left hins]
  refine ⟨hterm ▸ h.ended, ?_, ?_, ?_, ?_, ?_, ?_, ?_⟩
  · refine h.owned.announce (w := block.nativeIndex) ?_ ?_ (owns_of_ne hblk)
    · unfold MessagesOptions.owns
      rw [hnew]
      rfl
    · rw [← hpl]
      exact owns_of (lookup_self hblk) hop hsh
  · rw [hout, List.map_append]
    exact h.stored.push ((List.length_map _).trans h.full) _ _
  · rw [hout, List.length_append, List.length_append, h.full]
    rfl
  · exact forall_insert hblk rfl fun key other _ => h.keyed key other
  · exact h.single_insert hblk fun _ => hoths
  · rw [List.length_append, List.length_singleton, List.range_succ, ← h.indexes]
    unfold shownIndexes
    rw [hblk]
    unfold Record.values
    show List.map _ (List.filterMap _ (s.blocks.insert block.nativeIndex block).entries) = _
    rw [Record.entries_insert_of_new hnew, List.filterMap_append, List.map_append, ← hpl]
    have himage : shownIndex block = some block.outputIndex :=
      if_neg (by rw [hsh]; exact Bool.false_ne_true)
    simp only [List.filterMap_cons, himage, Option.map_some, List.filterMap_nil, List.map_cons,
      List.map_nil]
    rfl
  · refine forall_insert hblk (fun _ => ?_) fun key other _ hfd hsh =>
      hkept other (h.shown key other hfd hsh)
    refine ⟨?_, ?_⟩
    · rw [hpl, List.getElem?_concat_length]
      exact congrArg some (contentOf_id t block)
    · rw [hop, hpl]
      exact isDone_of_opened List.getElem?_concat_length

/-- A shown block is closed. -/
theorem close (block : ContentBlock)
    (hkn : s.blocks.lookup block.nativeIndex = some old) (hop : old.closed = false)
    (hwas : old.suppressed = false) (hblk : s'.blocks = s.blocks.insert block.nativeIndex block)
    (hout : s'.output = s.output.set old.outputIndex item) (hterm : s'.terminal = s.terminal)
    (hcl : block.closed = true) (hsh : block.suppressed = false)
    (hidx : block.outputIndex = old.outputIndex) (hid : block.id = old.id)
    (hname : item.id = block.id) :
    MessagesFollows t s'
      { client with items := client.items.set old.outputIndex (.done item) } := by
  have hown := owns_of (t := t) hkn hop hwas
  have hat := h.owned.holds hown
  have hins := h.owned.lt_length hown
  have hsameId : itemId (Slot.done item) = itemId (.opened (t.contentOf old)) := by
    show item.id = (t.contentOf old).id
    rw [hname, contentOf_id, hid]
  refine ⟨hterm ▸ h.ended, ?_, ?_, ?_, ?_, ?_, ?_, ?_⟩
  · refine h.owned.close hown (owns_none (lookup_self hblk) fun hboth => ?_) (owns_of_ne hblk)
    exact Bool.false_ne_true (hboth.1.symm.trans hcl)
  · rw [hout, List.map_set]
    exact h.stored.replace hins ((List.length_map _).trans h.full) item
  · rw [hout, List.length_set, List.length_set]
    exact h.full
  · exact forall_insert hblk rfl fun key other _ => h.keyed key other
  · refine h.single_insert hblk fun hstll => ?_
    exact absurd (hstll.symm.trans hcl) Bool.false_ne_true
  · rw [List.length_set, ← h.indexes]
    unfold shownIndexes
    rw [hblk, Record.filterMap_insert_of_eq hkn]
    unfold shownIndex
    rw [hsh, hwas, hidx]
  · have here : Client.isDone { client with items := client.items.set old.outputIndex (.done item) }
        old.outputIndex = true := by
      unfold Client.isDone
      rw [List.getElem?_set_self hins]
      rfl
    refine forall_insert hblk (fun _ => ⟨?_, ?_⟩) fun key other hdiff hfd hvisible => ?_
    · rw [hidx, hid, ← (h.shown _ old hkn hwas).id_at]
      exact Client.itemId_set hat hsameId _
    · rw [hidx, hcl]
      exact here
    · -- Another block is closed already, so its item is another one.
      have has := h.shown key other hfd hvisible
      have hels : old.outputIndex ≠ other.outputIndex := by
        intro heq
        have hopen := isDone_of_opened hat
        rw [heq, has.done_iff, h.others_closed hkn hop key other hdiff hfd] at hopen
        cases hopen
      exact ⟨(Client.itemId_set hat hsameId _).trans has.id_at,
        (isDone_set hels).trans has.done_iff⟩

end

end MessagesFollows

end UbqGateway.Provider
