import UbqGateway.Library.Results
import UbqGateway.Provider.MessagesLifecycle

/-!
# Runs of Messages streams

What one event does (`Pushes`), and what a whole run does: its events are numbered from `0` on, and
a client follows them.
-/

namespace UbqGateway.Provider

open Responses MessagesOptions Collected Leads

/-! ### Numbers -/

section Numbers

theorem numberFrom_fst (n : ℕ) (events : List α) :
    (numberFrom n events).map Prod.fst = List.range' n events.length := by
  induction events generalizing n with
  | nil => rfl
  | cons _ _ ih =>
    rw [numberFrom, List.map_cons, ih, List.length_cons, List.range'_succ]

theorem numberFrom_snd (n : ℕ) (events : List α) : (numberFrom n events).map Prod.snd = events := by
  induction events generalizing n with
  | nil => rfl
  | cons _ _ ih => rw [numberFrom, List.map_cons, ih]

theorem length_numberFrom (n : ℕ) (events : List α) :
    (numberFrom n events).length = events.length := by
  have heq := congrArg List.length (numberFrom_snd n events)
  rw [List.length_map] at heq
  exact heq

end Numbers

theorem accepts_of_not [Decidable p] {x : Except ε α} (h : (if p then .error e else x) = .ok a) :
    ¬ p ∧ x = .ok a := by
  split_ifs at h with holds
  exact ⟨holds, h⟩

/-! ### What one event does -/

/-- What the translator relies on in a block. -/
structure BlockFits (t : MessagesOptions) (block : ContentBlock) : Prop where
  hidden : block.suppressed = isSuppressed t block.kind
  bare : block.closed = false → block.argumentDelta = false → block.args = ""

/-- A client follows the translator. -/
structure Translates (t : MessagesOptions) (s : MessagesState) (client : Responses.Client String) :
    Prop
    extends MessagesFollows t s client where
  fits : ∀ key block, s.blocks.lookup key = some block → BlockFits t block

/-- A client takes the events of a push, which are numbered. -/
structure Pushes (t : MessagesOptions) (s : MessagesState) (client : Responses.Client String)
    (r : Pushed) : Prop where
  sequence : r.1.sequence = s.sequence + r.2.length
  numbers : r.2.map Prod.fst = List.range' s.sequence r.2.length
  leads : Leads alone client (r.1, r.2.map Prod.snd) (Translates t)

theorem Translates.initial (t : MessagesOptions) : Translates t t.initial .fresh where
  toMessagesFollows := MessagesFollows.initial t
  fits _ block hfd := absurd (hfd : none = some block) nofun

namespace Pushes

theorem silent (hsequence : s'.sequence = s.sequence) (h : Translates t s' client) :
    Pushes t s client (s', []) where
  sequence := hsequence
  numbers := rfl
  leads := nil h

theorem numbered (hsequence : s'.sequence = s.sequence)
    (h : Leads alone client (s', events) (Translates t)) :
    Pushes t s client (numbered s' events) where
  sequence := by
    show s'.sequence + events.length = _
    unfold MessagesOptions.numbered
    rw [hsequence, length_numberFrom]
  numbers := by
    unfold MessagesOptions.numbered
    rw [numberFrom_fst, length_numberFrom, hsequence]
  leads := by
    obtain ⟨after, htake, holds⟩ := h
    refine ⟨after, ?_, holds.toMessagesFollows.congr rfl rfl rfl, holds.fits⟩
    show Client.takeAll alone client ((numberFrom s'.sequence events).map Prod.snd) = _
    rw [numberFrom_snd]
    exact htake

theorem append (h : Pushes t s client r) (hnext : ∀ client', Translates t r.1 client' →
    Pushes t r.1 client' r') :
    Pushes t s client (r'.1, r.2 ++ r'.2) := by
  obtain ⟨middle, -, holds⟩ := h.leads
  have haft := hnext middle holds
  refine ⟨?_, ?_, ?_⟩
  · show r'.1.sequence = _
    rw [haft.sequence, h.sequence, List.length_append, Nat.add_assoc]
  · show (r.2 ++ r'.2).map Prod.fst = _
    rw [List.map_append, h.numbers, haft.numbers, h.sequence, List.length_append,
      List.range'_append_1]
  · rw [List.map_append]
    refine Leads.append (f := fun _ => (r'.1, r'.2.map Prod.snd)) h.leads.keep ?_
    rintro s client ⟨rfl, holds⟩
    exact (hnext client holds).leads

end Pushes

namespace Translates

variable {t : MessagesOptions} {s s' : MessagesState}

section

variable (h : Translates t s client)

include h

theorem running (hrng : s.terminal = false) : client.ended = false :=
  h.ended.trans hrng

theorem unblocked (hblk : s'.blocks = s.blocks) (hout : s'.output = s.output)
    (hterm : s'.terminal = s.terminal) : Translates t s' client where
  toMessagesFollows := h.toMessagesFollows.congr hblk hout hterm
  fits := by
    rw [hblk]
    exact h.fits

theorem fits_setBlock (hblk : s'.blocks = s.blocks.insert block.nativeIndex block)
    (hfit : BlockFits t block) : ∀ key other, s'.blocks.lookup key = some other →
      BlockFits t other :=
  MessagesFollows.forall_insert hblk hfit fun key other _ => h.fits key other

theorem hide (block : ContentBlock)
    (hkn : s.blocks.lookup block.nativeIndex = some old) (hop : old.closed = false)
    (hwas : old.suppressed = true) (hsupp : block.suppressed = true) (hfit : BlockFits t block) :
    Translates t (setBlock block s) client where
  toMessagesFollows := by
    refine h.toMessagesFollows.hide rfl rfl rfl hsupp ?_ fun _ => h.others_closed hkn hop
    intro same hfd
    rw [hkn] at hfd
    cases hfd
    exact hwas
  fits := h.fits_setBlock rfl hfit

theorem change (block : ContentBlock)
    (hkn : s.blocks.lookup block.nativeIndex = some old) (hop : old.closed = false)
    (hwas : old.suppressed = false) (hstll : block.closed = false) (hsh : block.suppressed = false)
    (hidx : block.outputIndex = old.outputIndex) (hid : block.id = old.id)
    (hfit : BlockFits t block) : Translates t (setBlock block s) { client with
      items := client.items.set old.outputIndex (.opened (t.contentOf block)) } where
  toMessagesFollows := h.toMessagesFollows.change hkn hop hwas rfl rfl rfl hstll hsh hidx hid
  fits := h.fits_setBlock rfl hfit

theorem changePrivately
    (hkn : s.blocks.lookup block.nativeIndex = some old) (hop : old.closed = false)
    (hwas : old.suppressed = false) (hstll : block.closed = false) (hsh : block.suppressed = false)
    (hidx : block.outputIndex = old.outputIndex) (hid : block.id = old.id)
    (hfit : BlockFits t block) (heq : t.contentOf block = t.contentOf old) :
    Translates t (setBlock block s) client := by
  have hchg := h.change block hkn hop hwas hstll hsh hidx hid hfit
  have hat := h.owned.holds (MessagesFollows.owns_of (t := t) hkn hop hwas)
  obtain ⟨hins, his⟩ := List.getElem?_eq_some_iff.mp hat
  rw [heq, ← his, List.set_getElem_self] at hchg
  exact hchg

theorem content_at (hkn : s.blocks.lookup key = some block)
    (hop : block.closed = false) (hsh : block.suppressed = false) :
    client.items[block.outputIndex]? = some (.opened (t.contentOf block)) :=
  h.owned.holds (MessagesFollows.owns_of hkn hop hsh)

end

/-! ### Deltas -/

theorem appendText_contentOf (hkind : block.kind = .text ∨ block.kind = .thinking) (text : String) :
    appendText (if block.kind = .text then .outputText else .summaryText) 0 text
      (t.contentOf block) =
      some (t.contentOf (growText block text)) := by
  unfold MessagesOptions.contentOf growText
  rcases hkind with his | his <;> rw [his] <;> rfl

section

variable (h : Translates t s client) (hterm : s.terminal = false)
  (hkn : s.blocks.lookup block.nativeIndex = some block) (hop : block.closed = false)

include h hterm hkn hop

theorem deltaText (hsh : block.suppressed = false)
    (hkind : block.kind = .text ∨ block.kind = .thinking) (text : String) :
    Pushes t s client (deltaText block text s) := by
  have hfit := h.fits _ block hkn
  have hhd : client.handle alone (textEvent block text) = _ :=
    client.update_of_opened rfl (h.content_at hkn hop hsh) (MessagesFollows.contentOf_id t block)
      (appendText_contentOf hkind text)
  refine Pushes.numbered rfl (cons (h.running hterm) hhd (nil ?_))
  exact h.change (growText block text) hkn hop hsh hop hsh rfl rfl
    ⟨hfit.hidden, hfit.bare⟩

theorem deltaArguments (hkind : block.kind = .toolUse) (text : String) :
    Pushes t s client (numbered (setBlock (growArguments block text) s)
      [.argumentsDelta block.id block.outputIndex text]) := by
  have hfit := h.fits _ block hkn
  have hsh : block.suppressed = false := by
    rw [hfit.hidden, hkind]
    rfl
  have hlearns : appendArguments text (t.contentOf block) =
      some (t.contentOf (growArguments block text)) := by
    unfold MessagesOptions.contentOf growArguments
    rw [hkind]
    rfl
  have hhd : client.handle alone
    (.argumentsDelta block.id block.outputIndex text : OutputEvent String MessagesEnvelope) = _ :=
    client.update_of_opened rfl (h.content_at hkn hop hsh)
      (MessagesFollows.contentOf_id t block) hlearns
  refine Pushes.numbered rfl (cons (h.running hterm) hhd (nil ?_))
  exact h.change (growArguments block text) hkn hop hsh hop hsh rfl rfl
    ⟨hfit.hidden, nofun⟩

end

theorem appendSignature (h : Translates t s client)
    (hkn : s.blocks.lookup block.nativeIndex = some block) (hop : block.closed = false)
      (signature : String) :
    Translates t (setBlock (appendSignature block signature) s) client := by
  have hfit := h.fits _ block hkn
  have heq : BlockFits t (MessagesOptions.appendSignature block signature) :=
    ⟨hfit.hidden, hfit.bare⟩
  cases hsh : block.suppressed with
  | true => exact h.hide (MessagesOptions.appendSignature block signature) hkn hop hsh hsh heq
  | false =>
    exact h.changePrivately hkn hop hsh hop
      hsh rfl rfl heq rfl

theorem deltaBlock (h : Translates t s client) (hterm : s.terminal = false)
    (hkn : s.blocks.lookup block.nativeIndex = some block) (hop : block.closed = false)
    (hacc : deltaBlock block value s = .ok r) : Pushes t s client r := by
  have hfit := h.fits _ block hkn
  unfold MessagesOptions.deltaBlock at hacc
  split_ifs at hacc with hsignature hredacted htext hthinking hsupp htool
  · obtain ⟨signature, -, rfl⟩ := Results.of_map hacc
    exact Pushes.silent rfl (h.appendSignature hkn hop signature)
  · obtain ⟨text, -, rfl⟩ := Results.of_map hacc
    refine h.deltaText hterm hkn hop ?_ (.inl htext.1) text
    rw [hfit.hidden, htext.1]
    rfl
  · obtain ⟨text, -, rfl⟩ := Results.of_map hacc
    exact Pushes.silent rfl (h.hide (growText block text) hkn hop hsupp hsupp
      ⟨hfit.hidden, hfit.bare⟩)
  · obtain ⟨text, -, rfl⟩ := Results.of_map hacc
    rw [Bool.not_eq_true] at hsupp
    exact h.deltaText hterm hkn hop hsupp (.inr hthinking.1) text
  · obtain ⟨text, -, rfl⟩ := Results.of_map hacc
    exact h.deltaArguments hterm hkn hop htool.1 text

theorem delta (h : Translates t s client) (hacc : delta nativeIndex value s = .ok r) :
    Pushes t s client r := by
  unfold MessagesOptions.delta at hacc
  split at hacc
  · cases hacc
  next block hkn =>
  obtain ⟨hlive, hacc⟩ := accepts_of_not hacc
  rw [not_or, Bool.not_eq_true, Bool.not_eq_true] at hlive
  rw [← h.keyed nativeIndex block hkn] at hkn
  exact h.deltaBlock hlive.2 hkn hlive.1 hacc

end Translates

/-! ### New blocks -/

structure NewBlock (t : MessagesOptions) (nativeIndex outputIndex : ℕ) (block : ContentBlock) :
    Prop where
  nativeIndex_eq : block.nativeIndex = nativeIndex
  outputIndex_eq : block.outputIndex = outputIndex
  hidden : block.suppressed = isSuppressed t block.kind
  text : block.text = ""
  args : block.args = ""
  opened : block.closed = false

variable {t : MessagesOptions}

theorem NewBlock.fits (h : NewBlock t nativeIndex outputIndex block) :
    BlockFits t block := ⟨h.hidden, fun _ _ => h.args⟩

theorem newBlock_of_accepts
    (hacc : newContentBlock t nativeIndex outputIndex responseId content = .ok block) :
    NewBlock t nativeIndex outputIndex block := by
  unfold newContentBlock at hacc
  split at hacc
  · cases hacc
  · obtain ⟨callId, -, hacc⟩ := Results.of_bind hacc
    obtain ⟨name, -, hacc⟩ := Results.of_bind hacc
    split at hacc
    · obtain ⟨-, hacc⟩ := accepts_of_not hacc
      cases hacc
      exact ⟨rfl, rfl, rfl, rfl, rfl, rfl⟩
    · cases hacc
  · cases hacc
    exact ⟨rfl, rfl, rfl, rfl, rfl, rfl⟩

variable {initial : String}

theorem initialBlockText_kind (hacc : initialBlockText kind content = .ok initial)
    (hsome : initial ≠ "") : kind = .text ∨ kind = .thinking := by
  cases kind with
  | text => exact .inl rfl
  | thinking => exact .inr rfl
  | toolUse | redactedThinking => exact absurd (Except.ok.inj hacc).symm hsome

/-- What a client knows of a block that is announced without its part. -/
def announcedContent (t : MessagesOptions) (block : ContentBlock) : Collected String :=
  match block.kind with
  | .text => .message block.id []
  | .thinking => .reasoning block.id []
  | _ => t.contentOf block

namespace Translates

variable {s : MessagesState}

theorem ofAnnounced_announcedItem (hargs : block.args = "") :
    ofAnnounced (t.announcedItem block) = some (announcedContent t block) := by
  unfold MessagesOptions.announcedItem announcedContent contentOf itemFor
  cases hkind : block.kind with
  | text | thinking => rfl
  | toolUse | redactedThinking => exact if_pos hargs

theorem owns_none_of_closed (hcl : ∀ key other, s.blocks.lookup key = some other →
    other.closed = true)
    (key : ℕ) : t.owns s key = none := by
  unfold MessagesOptions.owns
  cases hkn : s.blocks.lookup key with
  | none => rfl
  | some block =>
    rw [Option.bind_some, if_neg]
    exact fun hboth => Bool.false_ne_true (hboth.1.symm.trans (hcl key block hkn))

section

variable (h : Translates t s client)

include h

theorem alone_of_closed (hcl : ∀ key other, s.blocks.lookup key = some other → other.closed = true)
    (new : Collected String) : ∀ old, Slot.opened old ∈ client.items → alone old new = true := by
  intro old hmem
  obtain ⟨result, his⟩ := h.owned.settled (owns_none_of_closed hcl) _ hmem
  cases his

/-- What announces a block is accepted. -/
theorem announcement (hterm : s.terminal = false) (habs : s.blocks.lookup block.nativeIndex = none)
    (hnew : NewBlock t nativeIndex s.output.length block) (hsh : block.suppressed = false)
    (hcl : ∀ key other, s.blocks.lookup key = some other → other.closed = true) :
    Pushes t s client (numbered
      (setBlock block { s with output := s.output ++ [t.announcedItem block] })
      (t.announcement block)) := by
  have hidx : block.outputIndex = client.items.length := hnew.outputIndex_eq.trans h.full
  have hfol : Translates t
      (setBlock block { s with output := s.output ++ [t.announcedItem block] })
      { client with items := client.items ++ [.opened (t.contentOf block)] } :=
    ⟨h.toMessagesFollows.announce habs rfl rfl rfl hnew.opened hsh hnew.outputIndex_eq
      fun key other _ hfd => hcl key other hfd, h.fits_setBlock rfl hnew.fits⟩
  have hhd : client.handle alone (.itemAdded block.outputIndex (t.announcedItem block) :
      OutputEvent String MessagesEnvelope) = _ :=
    client.add_of_together (congrArg Nat.cast hidx) (ofAnnounced_announcedItem hnew.args)
      (h.alone_of_closed hcl _)
  have hat : (client.items ++ [Slot.opened (announcedContent t block)])[block.outputIndex]? =
      some (.opened (announcedContent t block)) := by
    rw [hidx, List.getElem?_concat_length]
  -- A part is added to the item that was announced last.
  have hpts (kind : PartKind)
      (hadds : addPart 0 ⟨kind, ""⟩ (announcedContent t block) = some (t.contentOf block))
      (hid : (announcedContent t block).id = block.id) :
      Client.handle alone { client with items := client.items ++
        [.opened (announcedContent t block)] }
        (.partAdded block.id block.outputIndex 0 ⟨kind, ""⟩ : OutputEvent String MessagesEnvelope) =
      some { client with items := client.items ++ [.opened (t.contentOf block)] } := by
    refine (Client.update_of_opened rfl hat hid hadds).trans ?_
    rw [hidx, List.set_append_right _ _ (Nat.le_refl _), Nat.sub_self]
    rfl
  refine Pushes.numbered rfl (cons (h.running hterm) hhd ?_)
  cases hkind : block.kind with
  | text =>
    have hadds := hpts .outputText
      (by unfold announcedContent contentOf; rw [hkind, hnew.text]; rfl)
      (by unfold announcedContent; rw [hkind]; rfl)
    exact cons (h.running hterm) hadds (nil hfol)
  | thinking =>
    have hadds := hpts .summaryText
      (by unfold announcedContent contentOf; rw [hkind, hnew.text]; rfl)
      (by unfold announcedContent; rw [hkind]; rfl)
    exact cons (h.running hterm) hadds (nil hfol)
  | toolUse | redactedThinking =>
    unfold announcedContent
    rw [hkind]
    exact nil hfol

theorem openShown (hterm : s.terminal = false) (habs : s.blocks.lookup block.nativeIndex = none)
    (hnew : NewBlock t nativeIndex s.output.length block) (hsh : block.suppressed = false)
    (hcl : ∀ key other, s.blocks.lookup key = some other → other.closed = true)
    (hkind : initial ≠ "" → block.kind = .text ∨ block.kind = .thinking) :
    Pushes t s client (t.openShown block initial s) := by
  have hann := h.announcement hterm habs hnew hsh hcl
  unfold MessagesOptions.openShown
  split_ifs with hemp
  · exact hann
  · refine hann.append fun client' h' => ?_
    refine h'.deltaText hterm ?_ hnew.opened hsh (hkind hemp) initial
    exact Record.lookup_insert_self _ _ _

theorem openBlock (hterm : s.terminal = false) (habs : s.blocks.lookup block.nativeIndex = none)
    (hnew : NewBlock t nativeIndex s.output.length block)
    (hcl : ∀ key other, s.blocks.lookup key = some other → other.closed = true)
    (hacc : t.openBlock block content s = .ok r) : Pushes t s client r := by
  unfold MessagesOptions.openBlock at hacc
  obtain ⟨initial, his, rfl⟩ := Results.of_map hacc
  split_ifs with hsupp
  · refine Pushes.silent rfl ⟨?_, h.fits_setBlock rfl ⟨hnew.hidden, fun _ _ => hnew.args⟩⟩
    refine h.toMessagesFollows.hide rfl rfl rfl hsupp ?_ fun _ key other _ hfd => hcl key other hfd
    intro old hfd
    rw [habs] at hfd
    cases hfd
  · exact h.openShown hterm habs hnew (by simpa using hsupp) hcl fun hsome =>
      initialBlockText_kind his hsome

end

theorem closed_of_none (hno : ¬ (s.blocks.values.any fun block => !block.closed) = true) :
    ∀ key other, s.blocks.lookup key = some other → other.closed = true := by
  intro key other hfd
  by_contra hopen
  refine hno (List.any_eq_true.mpr ⟨other, (s.blocks.mem_values_iff other).mpr ⟨key, hfd⟩, ?_⟩)
  simpa using hopen

section

variable (h : Translates t s client)

include h

theorem openAt (hacc : t.openAt nativeIndex content s = .ok r) : Pushes t s client r := by
  unfold MessagesOptions.openAt at hacc
  obtain ⟨hfit, hacc⟩ := accepts_of_not hacc
  rw [not_or, not_or, not_or] at hfit
  obtain ⟨-, hterm, habs, hcl⟩ := hfit
  obtain ⟨block, his, hacc⟩ := Results.of_bind hacc
  have hnew := newBlock_of_accepts his
  refine h.openBlock (by simpa using hterm) ?_ hnew (closed_of_none hcl) hacc
  rw [hnew.nativeIndex_eq]
  simpa using habs

/-! ### The end of a block -/

/-- What closes a block is accepted. -/
theorem closeShown (hterm : s.terminal = false)
    (hkn : s.blocks.lookup block.nativeIndex = some block) (hop : block.closed = false)
    (hsh : block.suppressed = false) : Pushes t s client (t.closeShown block s) := by
  have hfit := h.fits _ block hkn
  have hat := h.content_at hkn hop hsh
  have hname := MessagesFollows.contentOf_id t block
  have hitemNamed (status : ItemStatus) : (t.itemFor (t.closedBlock block) status).id =
    block.id := by
    unfold MessagesOptions.itemFor closedBlock
    cases block.kind <;> rfl
  have hfol : Translates t (setBlock (t.closedBlock block)
      { s with output := s.output.set block.outputIndex (t.itemFor (t.closedBlock block) .completed)
        })
      { client with
        items := client.items.set block.outputIndex
          (.done (t.itemFor (t.closedBlock block) .completed)) } :=
    ⟨h.toMessagesFollows.close (t.closedBlock block) hkn hop hsh rfl rfl rfl rfl hsh rfl rfl
      (hitemNamed _), h.fits_setBlock rfl ⟨hfit.hidden, nofun⟩⟩
  have hchk {f : Collected String → Option (Collected String)}
      (hchks : f (t.contentOf block) = some (t.contentOf block)) :
      client.update block.id block.outputIndex f = some client :=
        client.update_of_check rfl hat hname hchks
  refine Pushes.numbered rfl ?_
  unfold MessagesOptions.closingEvents
  cases hkind : block.kind with
  | text | thinking =>
    have hcls : (t.contentOf block).closedAs (t.itemFor (t.closedBlock block) .completed) =
      true := by
      unfold MessagesOptions.contentOf MessagesOptions.itemFor closedBlock
      rw [hkind]
      simp [closedAs]
    refine cons (h.running hterm) (hchk ?_) (cons (h.running hterm) (hchk ?_)
      (cons (h.running hterm) (client.close_of_opened rfl hat hcls) (nil hfol)))
    all_goals
      unfold MessagesOptions.contentOf
      rw [hkind]
      exact if_pos ⟨le_refl 0, rfl⟩
  | toolUse =>
    have hcon : t.contentOf block = .call false block.id block.callId
      (t.originalName block.name).name block.args := by
      unfold MessagesOptions.contentOf
      rw [hkind]
    -- Without deltas, the arguments come with one delta before the call is closed.
    have hcls : (call false block.id block.callId (t.originalName block.name).name
        (t.closedBlock block).args).closedAs (t.itemFor (t.closedBlock block) .completed) =
          true := by
      unfold MessagesOptions.itemFor closedBlock
      rw [hkind]
      simp [closedAs]
    have hchks (text : String) :
        checkArguments text
          (.call false block.id block.callId (t.originalName block.name).name text) =
          some (.call false block.id block.callId (t.originalName block.name).name text) :=
            if_pos rfl
    cases hdeltas : block.argumentDelta with
    | true =>
      have hargs : (t.closedBlock block).args = block.args := by
        unfold MessagesOptions.closedBlock
        rw [if_neg fun hno => by simp [hdeltas] at hno]
      rw [if_neg Bool.noConfusion, List.nil_append]
      rw [hcon] at hat hchk
      rw [hargs] at hcls ⊢
      exact cons (h.running hterm) (hchk (hchks _))
        (cons (h.running hterm) (client.close_of_opened rfl hat hcls) (nil hfol))
    | false =>
      have hins := (List.getElem?_eq_some_iff.mp hat).1
      have hlearns : appendArguments (t.closedBlock block).args (t.contentOf block) =
          some (.call false block.id block.callId (t.originalName block.name).name
            (t.closedBlock block).args) := by
        rw [hcon, hfit.bare hop hdeltas]
        exact congrArg some (congrArg _ String.empty_append)
      have hhd : client.update block.id block.outputIndex _ = _ :=
        client.update_of_opened rfl hat hname hlearns
      have hat' : (client.items.set block.outputIndex (.opened (.call false block.id block.callId
          (t.originalName block.name).name (t.closedBlock block).args)))[block.outputIndex]? = _ :=
        List.getElem?_set_self hins
      rw [if_pos rfl]
      refine cons (h.running hterm) hhd (cons (h.running hterm)
        (Client.update_of_check rfl hat' rfl (hchks _)) (cons (h.running hterm)
          (Client.close_of_opened rfl hat' hcls) (nil ?_)))
      rw [List.set_set]
      exact hfol
  | redactedThinking =>
    have hredacted := hfit.hidden
    rw [hsh, hkind] at hredacted
    cases hredacted

theorem closeAt (hacc : t.closeAt nativeIndex s = .ok r) : Pushes t s client r := by
  unfold MessagesOptions.closeAt at hacc
  split at hacc
  · cases hacc
  next block hkn =>
  obtain ⟨hlive, hacc⟩ := accepts_of_not hacc
  rw [not_or, Bool.not_eq_true, Bool.not_eq_true] at hlive
  rw [← h.keyed nativeIndex block hkn] at hkn
  have hfit := h.fits _ block hkn
  cases hsh : block.suppressed with
  | true =>
    rw [hsh, if_pos rfl] at hacc
    cases hacc
    exact Pushes.silent rfl (h.hide (t.closedBlock block) hkn hlive.1 hsh hsh ⟨hfit.hidden, nofun⟩)
  | false =>
    rw [hsh, if_neg Bool.false_ne_true] at hacc
    cases hacc
    exact h.closeShown hlive.2 hkn hlive.1 hsh

/-! ### Messages -/

theorem start {message : Json} (hacc : t.start message s = .ok r) : Pushes t s client r := by
  unfold MessagesOptions.start at hacc
  obtain ⟨hfr, hacc⟩ := accepts_of_not hacc
  obtain ⟨-, hacc⟩ := accepts_of_not hacc
  cases hacc
  rw [not_or, Bool.not_eq_true, Bool.not_eq_true] at hfr
  have hfol : Translates t (t.startedState message s) client := h.unblocked rfl rfl rfl
  exact Pushes.numbered rfl
    (cons (h.running hfr.2) rfl (cons (h.running hfr.2) rfl (nil hfol)))

end

section

variable (h : Translates t s client)

include h

theorem changeMessage (hterm : s.terminal = false)
    (hacc : changeMessage event s = .ok r) : Pushes t s client r := by
  unfold MessagesOptions.changeMessage at hacc
  obtain ⟨change, -, hacc⟩ := Results.of_bind hacc
  have hfol : Translates t (changedState event change s) client := h.unblocked rfl rfl rfl
  by_cases hreported : (event.get "usage").isSome = true
  · rw [if_pos hreported] at hacc
    obtain ⟨-, hacc⟩ := accepts_of_not hacc
    cases hacc
    exact Pushes.numbered rfl (cons (h.running hterm) rfl (nil hfol))
  · rw [if_neg hreported] at hacc
    cases hacc
    exact Pushes.silent rfl hfol

theorem ends (hblk : s'.blocks = s.blocks) (hout : s'.output = s.output)
    (hterm : s'.terminal = true) : Translates t s' { client with ended := true } where
  toMessagesFollows := by
    have heq : MessagesFollows t { s' with terminal := s.terminal } client :=
      h.toMessagesFollows.congr hblk hout rfl
    exact ⟨hterm.symm, heq.owned, heq.stored, heq.full, heq.keyed, heq.single,
      heq.indexes,
      fun key block hfd hsh =>
        ⟨(heq.shown key block hfd hsh).id_at, (heq.shown key block hfd hsh).done_iff⟩⟩
  fits := by
    rw [hblk]
    exact h.fits

theorem failWith (hterm : s.terminal = false)
    (hacc : failWith event s = .ok r) : Pushes t s client r := by
  unfold MessagesOptions.failWith at hacc
  obtain ⟨error, -, hacc⟩ := Results.of_bind hacc
  obtain ⟨message, -, rfl⟩ := Results.of_map hacc
  have hfol : Translates t { s with terminal := true } { client with ended := true } :=
    h.ends rfl rfl rfl
  exact Pushes.numbered rfl (cons (h.running hterm) rfl (nil hfol))

theorem finish (hacc : t.finish s = .ok r) : Pushes t s client r := by
  unfold MessagesOptions.finish at hacc
  obtain ⟨hlive, hacc⟩ := accepts_of_not hacc
  cases hacc
  rw [not_or, not_or, Bool.not_eq_true s.terminal] at hlive
  obtain ⟨-, hterm, hcl⟩ := hlive
  have hset := h.owned.settled (owns_none_of_closed (closed_of_none hcl))
  have hall : ∀ slot ∈ client.items, slot.done?.isSome = true := by
    intro slot hmem
    obtain ⟨result, rfl⟩ := hset slot hmem
    rfl
  refine Pushes.numbered rfl
    (cons (h.running hterm) (if_pos ⟨hall, h.stored.complete hset⟩) (nil ?_))
  exact h.ends rfl rfl rfl

/-! ### Runs -/

theorem handler (hterm : s.terminal = false)
    (hacc : t.handler event s = .ok r) : Pushes t s client r := by
  unfold MessagesOptions.handler at hacc
  split at hacc
  · exact h.failWith hterm hacc
  · obtain ⟨message, -, hacc⟩ := Results.of_bind hacc
    exact h.start hacc
  · obtain ⟨index, -, hacc⟩ := Results.of_bind hacc
    obtain ⟨content, -, hacc⟩ := Results.of_bind hacc
    exact h.openAt hacc
  · obtain ⟨index, -, hacc⟩ := Results.of_bind hacc
    obtain ⟨value, -, hacc⟩ := Results.of_bind hacc
    exact h.delta hacc
  · obtain ⟨index, -, hacc⟩ := Results.of_bind hacc
    exact h.closeAt hacc
  · exact h.changeMessage hterm hacc
  · exact h.finish hacc
  · cases hacc

theorem push (hacc : t.push event s = .ok r) : Pushes t s client r := by
  unfold MessagesOptions.push at hacc
  obtain ⟨hrng, hacc⟩ := accepts_of_not hacc
  by_cases hping : Json.string? (event.get "type") = some "ping"
  · rw [if_pos hping] at hacc
    cases hacc
    exact Pushes.silent rfl h
  · rw [if_neg hping] at hacc
    obtain ⟨-, hacc⟩ := accepts_of_not hacc
    exact h.handler (by simpa using hrng) hacc

theorem pushAll (hacc : t.pushAll events s = .ok r) : Pushes t s client r := by
  induction events generalizing s client r with
  | nil =>
    cases hacc
    exact Pushes.silent rfl h
  | cons _ _ ih =>
    rw [pushAll] at hacc
    obtain ⟨pushed, his, hacc⟩ := Results.of_bind hacc
    obtain ⟨last, hrest, rfl⟩ := Results.of_map hacc
    exact (h.push his).append fun client' h' => ih h' hrest

end

end Translates

/-! ### The lifecycle -/

/-- A translated stream: the state `s` of the translator, and the events it has emitted. -/
structure MessagesStream (t : MessagesOptions) (s : MessagesState) (events : List NumberedEvent) :
    Prop where
  numbers : events.map Prod.fst = List.range events.length
  accepted : ∃ client, Client.takeAll alone .fresh (events.map Prod.snd) = some client
  single : ∀ key block key' block', s.blocks.lookup key = some block → block.closed = false →
    s.blocks.lookup key' = some block' → block'.closed = false → key = key'
  announced : (events.map Prod.snd).filterMap OutputEvent.announces = (shownIndexes s).map Nat.cast
  positions : shownIndexes s = List.range (shownIndexes s).length
  closed : ∀ key block, s.blocks.lookup key = some block → block.suppressed = false →
    ((events.map Prod.snd).filterMap OutputEvent.closes).count (block.outputIndex : ℤ) =
      block.closed.toNat
  named : ∀ event ∈ events.map Prod.snd, ∀ index id, event.about = some (index, id) →
    ∃ key block, s.blocks.lookup key = some block ∧ block.suppressed = false ∧
      index = block.outputIndex ∧ id = block.id
  running : s.terminal = false → ∀ event ∈ events.map Prod.snd, event.ends = false
  ended : s.terminal = true → ∃ before last, events.map Prod.snd = before ++ [last] ∧
    last.ends = true ∧
    ∀ event ∈ before, event.ends = false
  completed : ∀ envelope output, .terminal envelope output ∈ events.map Prod.snd →
    output.length = (shownIndexes s).length ∧ ∀ key block, s.blocks.lookup key = some block →
      block.suppressed = false → block.closed = true ∧
        ∃ item, output[block.outputIndex]? = some (some item) ∧ item.id = block.id
  rejects : s.terminal = true → ∀ event, ∃ e, t.push event s = .error e

namespace Translates

theorem block_at (h : Translates t s client) (hins : i < client.items.length) :
    ∃ key block, s.blocks.lookup key = some block ∧ block.suppressed = false ∧
      block.outputIndex = i := by
  have hmem : i ∈ shownIndexes s := by
    rw [h.indexes]
    exact List.mem_range.mpr hins
  obtain ⟨key, hfd⟩ := (Record.mem_values_iff _ i).mp hmem
  rw [Record.lookup_filterMap, Option.bind_eq_some_iff] at hfd
  obtain ⟨block, hkn, his⟩ := hfd
  unfold shownIndex at his
  obtain ⟨hsh, heq⟩ := Option.ite_none_left_eq_some.mp his
  exact ⟨key, block, hkn, by simpa using hsh, Option.some.inj heq⟩

theorem completed_at (h : Translates t s client)
    (hset : ∀ slot ∈ client.items, slot.done?.isSome = true)
    (hkn : s.blocks.lookup key = some block) (hvisible : block.suppressed = false) :
    block.closed = true ∧
      ∃ item, (client.items.map Slot.done?)[block.outputIndex]? = some (some item) ∧
      item.id = block.id := by
  have has := h.shown key block hkn hvisible
  have hins := has.lt_length
  have hat := List.getElem?_eq_getElem hins
  obtain ⟨item, his⟩ := Option.isSome_iff_exists.mp (hset _ (List.getElem_mem hins))
  cases hslot : client.items[block.outputIndex] with
  | opened =>
    rw [hslot] at his
    cases his
  | done result =>
    have hid := has.id_at
    have hcl := has.done_iff
    unfold Client.isDone at hcl
    rw [hat, hslot] at hid hcl
    refine ⟨hcl.symm, result, ?_, Option.some.inj hid⟩
    rw [List.getElem?_map, hat, hslot]
    rfl

/-- A stream whose events are accepted and numbered. -/
theorem stream (h : Translates t s client)
    (hnumbers : events.map Prod.fst = List.range events.length)
    (htake : Client.takeAll alone .fresh (events.map Prod.snd) = some client) :
    MessagesStream t s events := by
  obtain ⟨-, hname⟩ := Client.takeAll_names htake
  have hlen : (shownIndexes s).length = client.items.length := by rw [h.indexes, List.length_range]
  refine ⟨hnumbers, ⟨client, htake⟩, h.single, ?_, ?_, ?_, ?_, ?_, ?_, ?_, ?_⟩
  · rw [h.indexes]
    exact Client.takeAll_announces htake
  · rw [hlen]
    exact h.indexes
  · intro key block hkn hsh
    rw [← (h.shown key block hkn hsh).done_iff]
    exact Client.takeAll_closes htake block.outputIndex
  · intro event hmem index id habo
    obtain ⟨i, rfl, hfd⟩ := hname event hmem index id habo
    have hins : i < client.items.length := by
      by_contra houtside
      rw [List.getElem?_eq_none (by omega)] at hfd
      cases hfd
    obtain ⟨key, block, hkn, hsh, rfl⟩ := h.block_at hins
    refine ⟨key, block, hkn, hsh, rfl, ?_⟩
    rw [(h.shown key block hkn hsh).id_at] at hfd
    exact (Option.some.inj hfd).symm
  · intro hrng
    obtain ⟨-, hno⟩ | ⟨hfnd, -⟩ := Client.takeAll_ends htake rfl
    · exact hno
    · rw [h.ended, hrng] at hfnd
      cases hfnd
  · intro hterm
    obtain ⟨hstll, -⟩ | ⟨-, hlast⟩ := Client.takeAll_ends htake rfl
    · rw [h.ended, hterm] at hstll
      cases hstll
    · exact hlast
  · intro envelope output hmem
    obtain ⟨-, hno⟩ | ⟨-, before, last, his, hends, hoths⟩ := Client.takeAll_ends htake rfl
    · exact absurd (hno _ hmem) Bool.true_eq_false.mp
    · rw [his, List.mem_append, List.mem_singleton] at hmem
      obtain herl | rfl := hmem
      · exact absurd (hoths _ herl) Bool.true_eq_false.mp
      · rw [his] at htake
        obtain ⟨hset, rfl⟩ := Client.takeAll_terminal htake
        refine ⟨?_, fun key block hkn hsh => h.completed_at hset hkn hsh⟩
        rw [List.length_map, hlen]
  · intro hterm event
    exact ⟨_, if_pos hterm⟩

end Translates

/-- The lifecycle of every stream that is accepted. -/
theorem MessagesOptions.pushAll_stream (t : MessagesOptions) (events : List Json) (r : Pushed)
    (hacc : t.pushAll events t.initial = .ok r) : MessagesStream t r.1 r.2 := by
  have hpushes := (Translates.initial t).pushAll hacc
  obtain ⟨client, htake, hfol⟩ := hpushes.leads
  refine hfol.stream ?_ htake
  rw [hpushes.numbers, List.range_eq_range']
  rfl

/-- Options without renamed tools or replays, for streams that report no values of their own. -/
def plainOptions : MessagesOptions where
  model := "model"
  requestId := some "request"
  reasoningSummary := some "none"
  reasoningReplayScope := none
  provider := none
  toolNames := .empty
  randomId := "random"
  textOf _ := ""
  stringify _ := ""
  parse _ := none

def eventOf (type : String) (fields : List (String × Json)) :
    Json := .obj (("type", .str type) :: fields)

def messageStart : Json :=
  eventOf "message_start"
    [("message", eventOf "message" [("role", .str "assistant"), ("id", .str "msg")])]

def textStart (index : ℤ) : Json :=
  eventOf "content_block_start" [("index", .int index),
    ("content_block", eventOf "text" [("text", .str "")])]

/-- A message with thinking, which is suppressed, and a text. -/
def thoughtfulEvents : List Json :=
  [messageStart,
    eventOf "content_block_start" [("index", .int 0),
      ("content_block", eventOf "thinking" [("thinking", .str "why")])],
    eventOf "content_block_stop" [("index", .int 0)], textStart 1,
    eventOf "content_block_delta" [("index", .int 1),
      ("delta", eventOf "text_delta" [("text", .str "Hello")])],
    eventOf "content_block_stop" [("index", .int 1)],
    eventOf "message_delta" [("delta", .obj [("stop_reason", .str "end_turn")])],
      eventOf "message_stop" []]

theorem MessagesOptions.pushAll_stream_thoughtful :
    ∃ r, plainOptions.pushAll thoughtfulEvents plainOptions.initial = .ok r ∧ r.1.terminal = true ∧
      MessagesStream plainOptions r.1 r.2 := by
  have hends : ((plainOptions.pushAll thoughtfulEvents plainOptions.initial).toOption.map fun r =>
    r.1.terminal) =
      some true := by decide +kernel
  cases hacc : plainOptions.pushAll thoughtfulEvents plainOptions.initial with
  | error e =>
    rw [hacc] at hends
    cases hends
  | ok r =>
    rw [hacc] at hends
    exact ⟨r, rfl, Option.some.inj hends, plainOptions.pushAll_stream thoughtfulEvents r hacc⟩

/-- A message that fails while a text is open. -/
def failingEvents : List Json :=
  [messageStart, textStart 0, eventOf "error" [("error", .obj [("message", .str "overloaded")])]]

/-- The item of a text that is open when the message fails is not closed. -/
theorem not_closed_when_failed :
    ¬ ∀ (t : MessagesOptions) (events : List Json) (r : Pushed), t.pushAll events t.initial =
      .ok r →
      r.1.terminal = true → ∀ key block, r.1.blocks.lookup key = some block →
        block.suppressed = false →
        ((r.2.map Prod.snd).filterMap OutputEvent.closes).count (block.outputIndex : ℤ) = 1 := by
  intro hcl
  have hrun : ((plainOptions.pushAll failingEvents plainOptions.initial).toOption.map fun r =>
      (r.1.terminal, (r.1.blocks.lookup 0).map ContentBlock.suppressed,
        (r.2.map Prod.snd).filterMap OutputEvent.closes)) = some (true, some false,
          []) := by decide +kernel
  cases hacc : plainOptions.pushAll failingEvents plainOptions.initial with
  | error e =>
    rw [hacc] at hrun
    cases hrun
  | ok r =>
    rw [hacc] at hrun
    obtain ⟨hterm, hrest⟩ := Prod.mk.inj (Option.some.inj hrun)
    obtain ⟨hkn, hno⟩ := Prod.mk.inj hrest
    obtain ⟨block, hfd, hsh⟩ := Option.map_eq_some_iff.mp hkn
    have honce := hcl plainOptions failingEvents r hacc hterm 0 block hfd hsh
    rw [hno] at honce
    cases honce

end UbqGateway.Provider
