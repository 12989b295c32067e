import UbqGateway.Provider.AnthropicReplay

/-!
# What the store of receipts keeps

After any calls the receipts, the index and the size agree and are within their bounds (`Held`), and
every receipt is that of an accepted publication (`Issued`).  What is restored replaces whole runs
of items with the blocks of such receipts (`Restores`).
-/

namespace UbqGateway.Provider

open AnthropicReplay

namespace AnthropicReplay

variable [LinearOrder τ]

/-- What holds of a store: the receipts, the index and the size agree, and are within their
bounds. -/
structure Held (t : AnthropicReplay τ) (s : ReplayStore τ) : Prop
    extends Indexed.Consistent Receipt.keys Receipt.bytes s where
  keyed : ∀ receipt ∈ s.entries, receipt.keys ≠ []
  small : s.total ≤ t.limits.bytes
  few : s.entries.length ≤ t.limits.entries

/-- A receipt of a publication that was accepted. -/
inductive Issued (t : AnthropicReplay τ) (log : List (Call τ × Answer)) :
    AnthropicReplayContext → ReplayTransport → Receipt τ → Prop
  | messages (publication : ReplayPublication) (before : τ) (payload : Json)
    (fingerprints : List Json)
    (hacc : (.remember publication (some before), .remembered true) ∈ log)
    (holds : t.canonicalOf (.arr publication.nativeBlocks) = some payload)
    (hprn : publication.output.mapM t.fingerprint = some fingerprints) :
    Issued t log publication.context .messages
      (t.receiptOf publication.context publication.output fingerprints payload .messages before)
  | chat (publication : ChatReplayPublication) (before : τ) (payload : Json)
    (fingerprints : List Json)
    (hacc : (.rememberChat publication (some before), .remembered true) ∈ log)
    (holds : t.canonicalOf publication.assistant = some payload)
    (hprn : publication.output.mapM t.fingerprint = some fingerprints) :
    Issued t log publication.context .chat
      (t.receiptOf publication.context publication.output fingerprints payload .chat before)

/-- Entries that replace runs of items with what receipts hold.  The items of a run have the ids and
the fingerprints of the items that the receipt is for, in the same context. -/
inductive Restores (t : AnthropicReplay τ) (live : Receipt τ →
    Prop) (context : AnthropicReplayContext) :
    List (Receipt τ) → List Json → List ReplayEntry → Prop
  | nil : Restores t live context [] [] []
  | original {used : List (Receipt τ)} {input : List Json} {entries : List ReplayEntry}
    (item : Json)
    (hrest : Restores t live context used input entries) :
    Restores t live context used (item :: input) (.original item :: entries)
  | native {used : List (Receipt τ)} {input : List Json} {entries : List ReplayEntry}
    (receipt : Receipt τ)
    (run : List Json) (his : live receipt) (hkeys : receipt.keys = run.map fun item =>
      ⟨context, itemIdOf item⟩)
    (hprn : run.mapM t.fingerprint = some receipt.fingerprints) (hnew : receipt ∉ used)
    (hrest : Restores t live context used input entries) :
    Restores t live context (receipt :: used) (run ++ input) (.native receipt.payload :: entries)

/-! ### The bounds -/

namespace Held

variable {t : AnthropicReplay τ}

omit [LinearOrder τ] in
theorem empty (t : AnthropicReplay τ) : Held t .empty where
  toConsistent := .empty
  keyed := List.forall_mem_nil _
  small := Int.natCast_nonneg _
  few := Nat.zero_le _

theorem bounds_remove (s : ReplayStore τ) (receipt : Receipt τ)
    (hbds : s.total ≤ t.limits.bytes ∧
    s.entries.length ≤ t.limits.entries) :
    (s.remove Receipt.keys Receipt.bytes receipt).total ≤ t.limits.bytes ∧
      (s.remove Receipt.keys Receipt.bytes receipt).entries.length ≤ t.limits.entries := by
  have hshr := List.length_erase_le (a := receipt) (l := s.entries)
  constructor
  · show s.total - receipt.bytes ≤ _
    omega
  · show (s.entries.erase receipt).length ≤ _
    omega

section

variable (h : Held t s)

include h

theorem prune (now : τ) : Held t (prune s now) := by
  obtain ⟨hsml, hfew⟩ := Indexed.prune_keeps Receipt.keys Receipt.bytes bounds_remove
    (fun receipt => decide (receipt.expiresAt ≤ now)) ⟨h.small, h.few⟩
  exact ⟨h.toConsistent.prune _, fun receipt hmem =>
    h.keyed receipt ((h.toConsistent.mem_prune _).mp hmem).1,
    hsml, hfew⟩

theorem mem_prune :
    receipt ∈ (AnthropicReplay.prune s now).entries ↔ receipt ∈ s.entries ∧
      ¬ receipt.expiresAt ≤ now := by
  unfold AnthropicReplay.prune
  rw [h.toConsistent.mem_prune, decide_eq_false_iff_not]

theorem evict (bytes : ℕ) : Held t (t.evict s bytes).1 := by
  obtain ⟨hsml, hfew⟩ := Indexed.makeRoom_keeps Receipt.keys Receipt.bytes bounds_remove
    (t.full bytes) s.entries
    ⟨h.small, h.few⟩
  have hroomy := h.toConsistent.makeRoom (t.full bytes)
  exact ⟨hroomy.consistent, fun receipt hmem => h.keyed receipt (hroomy.subset receipt hmem),
    hsml, hfew⟩

/-- A receipt is kept, and the oldest ones leave. -/
theorem keep (hsome : receipt.keys ≠ []) : Held t (t.keep s receipt).1 := by
  unfold AnthropicReplay.keep
  by_cases hkn : (receipt.keys.any fun key => (s.index.lookup key).isSome) = true
  · rw [if_pos hkn]
    exact h
  · rw [if_neg hkn]
    split_ifs with hmade
    · have hevicted := h.evict receipt.bytes
      have hroomy := h.toConsistent.makeRoom (t.full receipt.bytes)
      have hroom : t.full receipt.bytes (t.evict s receipt.bytes).1 = false :=
        (Bool.not_eq_true' _).mp (hroomy.room.symm.trans hmade)
      unfold full at hroom
      rw [decide_eq_false_iff_not, not_or] at hroom
      refine ⟨hevicted.toConsistent.add hsome fun key hof => ?_, fun other hmem => ?_, ?_, ?_⟩
      · -- What is left was there before, and then no key was known.
        by_contra hfd
        obtain ⟨other, his⟩ := Option.ne_none_iff_exists'.mp hfd
        obtain ⟨hmem, hof'⟩ := (hevicted.indexed key other).mp his
        refine hkn (List.any_eq_true.mpr ⟨key, hof, ?_⟩)
        rw [(h.indexed key other).mpr ⟨hroomy.subset other hmem, hof'⟩]
        rfl
      · change other ∈ (t.evict s receipt.bytes).1.entries ++ [receipt] at hmem
        rw [List.mem_append, List.mem_singleton] at hmem
        obtain hold | rfl := hmem
        · exact hevicted.keyed other hold
        · exact hsome
      · show (t.evict s receipt.bytes).1.total + receipt.bytes ≤ _
        omega
      · show ((t.evict s receipt.bytes).1.entries ++ [receipt]).length ≤ _
        rw [List.length_append, List.length_singleton]
        omega
    · exact h.evict receipt.bytes

theorem mem_keep (hmem : other ∈ (t.keep s receipt).1.entries) :
    other ∈ s.entries ∨ (t.keep s receipt).2 = true ∧ other = receipt := by
  have hsubset := (h.toConsistent.makeRoom (t.full receipt.bytes)).subset
  unfold AnthropicReplay.keep at hmem ⊢
  split_ifs at hmem ⊢ with hkn hmade
  · exact .inl hmem
  · change other ∈ (t.evict s receipt.bytes).1.entries ++ [receipt] at hmem
    rw [List.mem_append, List.mem_singleton] at hmem
    obtain hold | rfl := hmem
    · exact .inl (hsubset other hold)
    · exact .inr ⟨rfl, rfl⟩
  · exact .inl (hsubset other hmem)

/-! ### Publications -/

/-- A turn is published. -/
theorem publish (context : AnthropicReplayContext) (output : List Json) (payload : Json)
    (transport : ReplayTransport) (now : Option τ) :
    Held t (t.publish s context output payload transport now).1 ∧
      ∀ receipt ∈ (t.publish s context output payload transport now).1.entries,
        receipt ∈ s.entries ∨
        (t.publish s context output payload transport now).2 = true ∧
          ∃ before fingerprints, now = some before ∧
          output.mapM t.fingerprint = some fingerprints ∧
            receipt = t.receiptOf context output fingerprints payload transport before := by
  unfold AnthropicReplay.publish
  split
  · rename_i key fingerprints his hprn
    have heq : key = context := by
      unfold contextKey at his
      exact (Option.some.inj (Option.ite_none_left_eq_some.mp his).2).symm
    subst heq
    split_ifs with hbad
    · exact ⟨h, fun _ hmem => .inl hmem⟩
    · split
      · exact ⟨h, fun _ hmem => .inl hmem⟩
      · rename_i before
        split_ifs with hlrg
        · exact ⟨h, fun _ hmem => .inl hmem⟩
        · rw [not_or] at hbad
          have hsome : (t.receiptOf key output fingerprints payload transport
            before).keys ≠ [] := by
            show output.map _ ≠ []
            rw [ne_eq, List.map_eq_nil_iff]
            exact hbad.1
          have hpruned := h.prune before
          refine ⟨hpruned.keep hsome, fun receipt hmem => ?_⟩
          obtain hold | ⟨hacc, rfl⟩ := hpruned.mem_keep hmem
          · exact .inl (h.mem_prune.mp hold).1
          · exact .inr ⟨hacc, before, fingerprints, rfl, hprn, rfl⟩
  · exact ⟨h, fun _ hmem => .inl hmem⟩

end

end Held

/-! ### Calls -/

/-- The store holds, and its receipts are issued. -/
structure Kept (t : AnthropicReplay τ) (log : List (Call τ × Answer)) (s : ReplayStore τ) :
    Prop extends Held t s where
  issued : ∀ receipt ∈ s.entries, ∃ context transport, Issued t log context transport receipt

section Kept

variable {s : ReplayStore τ}

omit [LinearOrder τ] in
theorem Issued.mono (h : Issued t log context transport receipt) :
    Issued t (log ++ more) context transport receipt := by
  cases h with
  | messages publication before payload fingerprints hacc holds hprn =>
    exact .messages publication before payload fingerprints
      (List.mem_append_left more hacc) holds hprn
  | chat publication before payload fingerprints hacc holds hprn =>
    exact .chat publication before payload fingerprints
      (List.mem_append_left more hacc) holds hprn

namespace Kept

section

variable (h : Kept t log s)

include h

omit [LinearOrder τ] in
theorem unchanged : Kept t (log ++ more) s where
  toHeld := h.toHeld
  issued receipt hmem := by
    obtain ⟨context, transport, hissued⟩ := h.issued receipt hmem
    exact ⟨context, transport, hissued.mono⟩

theorem remember (publication : ReplayPublication) (now : Option τ) :
    Kept t (log ++ [(.remember publication now, .remembered (t.remember s publication now).2)])
      (t.remember s publication now).1 := by
  unfold AnthropicReplay.remember
  by_cases hbad : publication.nativeBlocks = [] ∨ maxItems < publication.nativeBlocks.length
  · rw [if_pos hbad]
    exact h.unchanged
  · rw [if_neg hbad]
    split
    · exact h.unchanged
    · rename_i payload holds
      split_ifs with hunmatched
      · exact h.unchanged
      · obtain ⟨held, hmbr⟩ :=
          h.toHeld.publish publication.context publication.output payload .messages now
        refine ⟨held, fun receipt hmem => ?_⟩
        obtain hold | ⟨hacc, before, fingerprints, rfl, hprn, rfl⟩ := hmbr receipt hmem
        · exact h.unchanged.issued receipt hold
        · refine ⟨_, _, .messages publication before payload fingerprints ?_ holds hprn⟩
          rw [hacc]
          exact List.mem_append_right _ (List.mem_singleton_self _)

theorem rememberChat (publication : ChatReplayPublication) (now : Option τ) :
    Kept t (log ++ [(.rememberChat publication now,
      .remembered (t.rememberChat s publication now).2)])
      (t.rememberChat s publication now).1 := by
  unfold AnthropicReplay.rememberChat
  split
  · exact h.unchanged
  · rename_i payload holds
    split_ifs with hunmatched
    · exact h.unchanged
    · obtain ⟨held, hmbr⟩ :=
        h.toHeld.publish publication.context publication.output payload .chat now
      refine ⟨held, fun receipt hmem => ?_⟩
      obtain hold | ⟨hacc, before, fingerprints, rfl, hprn, rfl⟩ := hmbr receipt hmem
      · exact h.unchanged.issued receipt hold
      · refine ⟨_, _, .chat publication before payload fingerprints ?_ holds hprn⟩
        rw [hacc]
        exact List.mem_append_right _ (List.mem_singleton_self _)

theorem restoreAs (input : List Json) (context : AnthropicReplayContext)
    (transport : ReplayTransport) (now : Option τ) : Kept t log
      (t.restoreAs s input context transport now).1 := by
  unfold AnthropicReplay.restoreAs
  split
  · exact ⟨h.toHeld.prune _, fun receipt hmem => h.issued receipt (h.toHeld.mem_prune.mp hmem).1⟩
  · exact h

theorem call (c : Call τ) : Kept t (log ++ [(c, (t.call c s).2)]) (t.call c s).1 := by
  cases c with
  | remember publication now => exact h.remember publication now
  | rememberChat publication now => exact h.rememberChat publication now
  | restore input context now => exact (h.restoreAs input context .messages now).unchanged
  | restoreChat input context now => exact (h.restoreAs input context .chat now).unchanged

theorem run (calls : List (Call τ)) : Kept t (log ++ (t.run calls s).2) (t.run calls s).1 := by
  induction calls generalizing log s with
  | nil =>
    rw [run, List.append_nil]
    exact h
  | cons c calls ih =>
    have hnext := ih (h.call c)
    rw [List.append_assoc] at hnext
    exact hnext

end

end Kept

end Kept

/-! ### Restored inputs -/

section Restore

variable {t : AnthropicReplay τ}

omit [LinearOrder τ] in
theorem matches_run (h : t.receiptMatchesInput context keys fingerprints input = true)
    (hlen : fingerprints.length = keys.length) :
    keys.length ≤ input.length ∧
      keys = (input.take keys.length).map (fun item => ⟨context, itemIdOf item⟩) ∧
      (input.take keys.length).mapM t.fingerprint = some fingerprints := by
  induction keys generalizing fingerprints input with
  | nil =>
    rw [List.length_nil, List.length_eq_zero_iff] at hlen
    subst hlen
    exact ⟨Nat.zero_le _, rfl, rfl⟩
  | cons _ _ ih =>
    cases fingerprints with
    | nil => cases hlen
    | cons fingerprint fingerprints =>
      cases input with
      | nil => cases h
      | cons item input =>
        rw [receiptMatchesInput, Bool.and_eq_true, decide_eq_true_eq] at h
        obtain ⟨⟨-, rfl, hprint⟩, hrest⟩ := h
        rw [List.length_cons, List.length_cons, Nat.succ_inj] at hlen
        obtain ⟨hshrt, heq, hprn⟩ := ih hrest hlen
        refine ⟨Nat.succ_le_succ hshrt, ?_, ?_⟩
        · rw [List.length_cons, List.take_succ_cons, List.map_cons, ← heq]
        · rw [List.length_cons, List.take_succ_cons, List.mapM_cons, hprint, hprn]
          rfl

/-- What is restored stands for runs of the input, by distinct receipts. -/
theorem restoreItems_restores (held : Held t s)
    (hprinted : ∀ receipt ∈ s.entries, receipt.fingerprints.length = receipt.keys.length)
    (h : t.restoreItems s context transport skipped used input = some entries) :
    ∃ new : List (Receipt τ), Restores t (fun receipt => receipt ∈ s.entries ∧
      receipt.transport = transport) context
      new (input.drop skipped) entries ∧ ∀ receipt ∈ new, receipt ∉ used := by
  induction input generalizing skipped used entries with
  | nil =>
    rw [restoreItems] at h
    cases h
    rw [List.drop_nil]
    exact ⟨[], .nil, List.forall_mem_nil _⟩
  | cons item input ih =>
    cases skipped with
    | succ skipped =>
      rw [restoreItems] at h
      exact ih h
    | zero =>
      rw [restoreItems] at h
      obtain ⟨-, h⟩ := Option.ite_none_left_eq_some.mp h
      split at h
      · obtain ⟨-, h⟩ := Option.ite_none_left_eq_some.mp h
        rw [Option.map_eq_some_iff] at h
        obtain ⟨rest, his, rfl⟩ := h
        obtain ⟨new, hrestores, hunused⟩ := ih his
        exact ⟨new, .original item hrestores, hunused⟩
      · next receipt hfd =>
          obtain ⟨hfit, h⟩ := Option.ite_none_left_eq_some.mp h
          rw [not_or, not_or, not_or, not_not, not_not, Bool.not_eq_false] at hfit
          obtain ⟨htransported, -, hunused, hmatches⟩ := hfit
          rw [Option.map_eq_some_iff] at h
          obtain ⟨rest, his, rfl⟩ := h
          rw [Option.bind_eq_some_iff] at hfd
          obtain ⟨id, -, hindexed⟩ := hfd
          obtain ⟨hmem, -⟩ := (held.indexed _ _).mp hindexed
          obtain ⟨-, hkeys, hprn⟩ := matches_run hmatches (hprinted receipt hmem)
          obtain ⟨new, hrestores, hfr⟩ := ih his
          have hpos := List.length_pos_iff.mpr (held.keyed receipt hmem)
          have hwhl : (item :: input).take receipt.keys.length ++ input.drop
            (receipt.keys.length - 1) =
              item :: input := by
            conv_rhs => rw [← List.take_append_drop receipt.keys.length (item :: input)]
            rw [← Nat.succ_pred_eq_of_pos hpos]
            rfl
          refine ⟨receipt :: new, ?_, ?_⟩
          · rw [List.drop_zero, ← hwhl]
            exact .native receipt _ ⟨hmem, htransported⟩ hkeys hprn
              (fun hagn => hfr receipt hagn List.mem_cons_self) hrestores
          · rw [List.forall_mem_cons]
            exact ⟨hunused, fun other hlat hagn =>
              hfr other hlat (List.mem_cons_of_mem receipt hagn)⟩

omit [LinearOrder τ] in
theorem Restores.nodup (h : Restores t live context used input entries) : used.Nodup := by
  induction h with
  | nil => exact List.nodup_nil
  | original _ _ ih => exact ih
  | native _ _ _ _ _ hnew _ ih => exact List.nodup_cons.mpr ⟨hnew, ih⟩

omit [LinearOrder τ] in
theorem Restores.mono {live' : Receipt τ → Prop} (h : Restores t live context used input entries)
    (himp : ∀ (receipt : Receipt τ) (run : List Json), live receipt →
      receipt.keys = run.map (fun item => ⟨context, itemIdOf item⟩) → live' receipt) :
    Restores t live' context used input entries := by
  induction h with
  | nil => exact .nil
  | original item _ ih => exact .original item ih
  | native receipt run his hkeys hprn hnew _ ih =>
    exact .native receipt run (himp receipt run his hkeys) hkeys hprn hnew ih

end Restore

section Final

theorem length_of_mapM {as : List α} (h : as.mapM f = some bs) : bs.length = as.length := by
  induction as generalizing bs with
  | nil =>
    cases h
    rfl
  | cons _ _ ih =>
    rw [List.mapM_cons] at h
    obtain ⟨b, -, h⟩ := Option.bind_eq_some_iff.mp h
    obtain ⟨rest, his, h⟩ := Option.bind_eq_some_iff.mp h
    cases h
    rw [List.length_cons, List.length_cons, ih his]

omit [LinearOrder τ] in
theorem Issued.printed (h : Issued t log context transport receipt) :
    receipt.fingerprints.length = receipt.keys.length := by
  cases h with
  | messages _ _ _ _ _ _ hprn | chat _ _ _ _ _ _ hprn =>
    exact (length_of_mapM hprn).trans (List.length_map _).symm

omit [LinearOrder τ] in
theorem Issued.context_of_keys (h : Issued t log context transport receipt) :
    receipt.transport = transport ∧ ∀ key ∈ receipt.keys, key.context = context := by
  cases h with
  | messages | chat =>
    refine ⟨rfl, fun key hmem => ?_⟩
    obtain ⟨item, -, rfl⟩ := List.mem_map.mp hmem
    rfl

omit [LinearOrder τ] in
theorem Issued.of_run {run : List Json} (h : Issued t log context transport receipt)
    (hsome : receipt.keys ≠ []) (hkeys : receipt.keys = run.map fun item =>
      ⟨context', itemIdOf item⟩)
    (htransported : receipt.transport = transport') : Issued t log context' transport' receipt := by
  obtain ⟨heq, hcontexts⟩ := h.context_of_keys
  obtain ⟨key, hmem⟩ := List.exists_mem_of_ne_nil _ hsome
  have here := hcontexts key hmem
  rw [hkeys] at hmem
  obtain ⟨item, -, rfl⟩ := List.mem_map.mp hmem
  change context' = context at here
  rw [here, ← htransported, heq]
  exact h

/-- After any calls the receipts, the index and the size agree, and what is restored replaces runs
of items by what was published for them in the same context. -/
theorem run_held_restores (t : AnthropicReplay τ) (calls : List (Call τ)) :
    Held t (t.run calls .empty).1 ∧
      (∀ receipt ∈ (t.run calls .empty).1.entries, ∀ other ∈ (t.run calls .empty).1.entries,
        receipt ≠ other →
        List.Disjoint receipt.keys other.keys) ∧
      ∀ (input : List Json) (context : AnthropicReplayContext) (transport : ReplayTransport)
        (now : Option τ)
        (entries : List ReplayEntry),
        (t.restoreAs (t.run calls .empty).1 input context transport now).2 = some entries →
          ∃ moment used, now = some moment ∧ used.Nodup ∧
            Restores t (fun receipt => receipt ∈ (t.run calls .empty).1.entries ∧
              ¬ receipt.expiresAt ≤ moment ∧
              Issued t (t.run calls .empty).2 context transport receipt) context used input
                entries := by
  have hkept : Kept t [] .empty := ⟨Held.empty t, List.forall_mem_nil _⟩
  have haft := hkept.run calls
  rw [List.nil_append] at haft
  refine ⟨haft.toHeld, ?_, ?_⟩
  · intro receipt hmem other hmem' hdiff key hof hof'
    exact hdiff (haft.disjoint hmem hof hmem' hof')
  · intro input context transport now entries hrestored
    unfold restoreAs at hrestored
    split at hrestored
    · rename_i key moment his
      have heq : key = context := by
        unfold contextKey at his
        exact (Option.some.inj (Option.ite_none_left_eq_some.mp his).2).symm
      subst heq
      have hpruned := haft.toHeld.prune moment
      have hprinted : ∀ receipt ∈ (prune (t.run calls .empty).1 moment).entries,
          receipt.fingerprints.length = receipt.keys.length := by
        intro receipt hmem
        obtain ⟨_, _, hissued⟩ := haft.issued receipt (haft.toHeld.mem_prune.mp hmem).1
        exact hissued.printed
      obtain ⟨used, hrestores, -⟩ := restoreItems_restores hpruned hprinted hrestored
      refine ⟨moment, used, rfl, hrestores.nodup, hrestores.mono ?_⟩
      rintro receipt run ⟨hmem, htransported⟩ hkeys
      obtain ⟨hold, hlives⟩ := haft.toHeld.mem_prune.mp hmem
      obtain ⟨_, _, hissued⟩ := haft.issued receipt hold
      exact ⟨hold, hlives, hissued.of_run (haft.keyed receipt hold) hkeys htransported⟩
    · cases hrestored

/-- A store with clock values in milliseconds, for calls without arguments. -/
def plainReplay : AnthropicReplay ℤ where
  plus now ttl := now + ttl
  notAfter left right := decide (left ≤ right)
  parse text := if text = "{}" then some (.obj []) else none
  byteLength _ _ _ _ := 100
  limits := ⟨none, none, none, none⟩

def plainContext : AnthropicReplayContext := ⟨"scope", "surplus", "claude"⟩

def helloItem : Json :=
  .obj [("id", .str "msg_resp_1_0"), ("type", .str "message"), ("role", .str "assistant"),
    ("content", .arr [.obj [("type", .str "output_text"), ("text", .str "Hello")]])]

def lookItem : Json :=
  .obj [("id", .str "fc_resp_1_1"), ("type", .str "function_call"), ("call_id", .str "call_1"),
    ("name", .str "look"), ("arguments", .str "{}")]

/-- A turn that says hello and calls a tool. -/
def helloTurn : ReplayPublication where
  context := plainContext
  output := [helloItem, lookItem]
  nativeBlocks := [.obj [("type", .str "text"), ("text", .str "Hello")],
    .obj [("type", .str "tool_use"), ("id", .str "call_1"), ("name", .str "look"),
      ("input", .obj [])]]

def userItem : Json := .obj [("type", .str "message"), ("role", .str "user")]

theorem run_held_restores_hello : ∃ moment used, some (1 : ℤ) = some moment ∧ used.Nodup ∧
      Restores plainReplay (fun receipt =>
          receipt ∈ (plainReplay.run [.remember helloTurn (some 0)] .empty).1.entries ∧
            ¬ receipt.expiresAt ≤ moment ∧
            Issued plainReplay (plainReplay.run [.remember helloTurn (some 0)] .empty).2
              plainContext .messages receipt)
        plainContext used [userItem, helloItem, lookItem, userItem]
        [.original userItem, .native (.arr [.obj [("text", .str "Hello"), ("type", .str "text")],
          .obj [("id", .str "call_1"), ("input", .obj []), ("name", .str "look"),
            ("type", .str "tool_use")]]), .original userItem] :=
  (run_held_restores plainReplay [.remember helloTurn (some 0)]).2.2
    [userItem, helloItem, lookItem, userItem] plainContext .messages (some 1) _ (by decide +kernel)

end Final

end AnthropicReplay

end UbqGateway.Provider
