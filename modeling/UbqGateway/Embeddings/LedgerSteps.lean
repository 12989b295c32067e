import UbqGateway.Embeddings.IdempotencyLedger

/-!
# Steps of the idempotency ledger

Every commit of the ledger is a `LedgerStep`: it says what the record was when the commit was made,
not only when it was read.  From the steps follow the facts that hold in every world of a run
(`LedgerRun.inv`): a chunk holds the text that its generation has there, and a record that has
succeeded has all its chunks.
-/

namespace UbqGateway.Embeddings

abbrev LedgerWorld := World LedgerKey LedgerValue LedgerLabel

section Steps

variable (sha256Hex : Text → String) (requests : String → EmbeddingsRequest)

def Stores (id : String) (body : Text) : Prop := ∃ cut, (requests id).body = some (body, cut)

/-- The record that a request may change: it has its fingerprint. -/
structure Holds (w : LedgerWorld) (id : String) (r : EmbeddingsIdempotencyRecord) : Prop where
  record : w.store.value .record = some (.record r)
  fingerprint : r.fingerprint = (requests id).fingerprint

/-- The record that a request owns and has not finished. -/
structure Owns (w : LedgerWorld) (id : String) (r : EmbeddingsIdempotencyRecord) : Prop
    extends Holds requests w id r where
  owner : r.ownerRequestId = some id
  state : r.state = .reserved ∨ r.state = .dispatched

/-- The chunks of a body are in the store, under the generation of the request. -/
def Complete (kv : LedgerKv) (id : String) (body : Text) : Prop :=
  ∀ i text, (responseChunks body)[i]? = some text → kv.value (.chunk id i) = some (.chunk text)

inductive LedgerStep (w : LedgerWorld) : LedgerLabel → List (Write LedgerKey LedgerValue) → Prop
  | reserve (id : String) (now : ℤ) (habs : w.store.get .record = none) :
      LedgerStep w (.reserve id)
        [.set .record (.record (newRecord (requests id).fingerprint id now))]
  | takeOver (id : String) (now : ℤ) (r : EmbeddingsIdempotencyRecord) (h : Holds requests w id r)
      (hsta : r.state = .reserved)
      (hexp : r.leaseUntilMs.any (fun until_ => decide (now < until_)) = false) :
      LedgerStep w (.reserve id) [.set .record (.record (reservedRecord r id now))]
  | dispatch (id : String) (now : ℤ) (r : EmbeddingsIdempotencyRecord) (h : Owns requests w id r)
      (hsta : r.state = .reserved) :
      LedgerStep w (.dispatch id) [.set .record (.record (dispatchedRecord r now))]
  | release (id : String) (r : EmbeddingsIdempotencyRecord) (h : Owns requests w id r) :
      LedgerStep w (.release id) [.delete .record]
  | succeed (id : String) (now : ℤ) (r : EmbeddingsIdempotencyRecord) (body : Text)
      (hid : id ≠ "") (hbody : Stores requests id body)
      (hcnt : (responseChunks body).length ≤ maxResponseChunks) (h : Owns requests w id r)
      (hchnk : Complete w.store id body) :
      LedgerStep w (.succeed id)
        [.set .record (.record (succeededRecord sha256Hex r id (completeResponse body) now))]
  | retire (id : String) (now : ℤ) (r : EmbeddingsIdempotencyRecord) (h : Holds requests w id r)
      (hsta : r.state = .reserved ∨ r.state = .dispatched) :
      LedgerStep w (.retire id) [.set .record (.record (indeterminateRecord r now))]
  | chunk (id : String) (index : ℕ) (body text : Text) (hbody : Stores requests id body)
      (htext : (responseChunks body)[index]? = some text) :
      LedgerStep w (.chunk id index) [.set (.chunk id index) (.chunk text)]

/-- The ledger before its first request. -/
def LedgerStart (kv : LedgerKv) : Prop := ∀ k, kv.get k = none

abbrev LedgerRun (w : LedgerWorld) : Prop := Run LedgerStart (LedgerStep sha256Hex requests) w

/-! ### What holds in every world -/

/-- The response of a record that has succeeded was stored by a request with the same
fingerprint. -/
structure SucceededBy (w : LedgerWorld) (r : EmbeddingsIdempotencyRecord) (id : String)
    (body : Text) : Prop where
  id_ne : id ≠ ""
  stores : Stores requests id body
  fingerprint : r.fingerprint = (requests id).fingerprint
  parts : r.responseStatus = some 200 ∧ r.responseContentType = some "application/json" ∧
    r.responseGeneration = some id ∧ r.responseChunkCount = some (responseChunks body).length ∧
    r.responseSha256 = some (sha256Hex body)
  chunks : Complete w.store id body
  committed : ∃ kv kv', w.Committed kv (.succeed id) kv'

/-- The facts about the store. -/
structure LedgerInv (w : LedgerWorld) : Prop where
  typed : ∀ v, w.store.value .record = some v → ∃ r, v = .record r ∧
    isChunkCount r.responseChunkCount = true
  succeeded : ∀ r, w.store.value .record = some (.record r) → r.state = .succeeded →
    ∃ id body, SucceededBy sha256Hex requests w r id body
  chunks : ∀ id i v, w.store.value (.chunk id i) = some v →
    ∃ body text, Stores requests id body ∧ (responseChunks body)[i]? = some text ∧ v = .chunk text

end Steps

variable {id : String}

theorem Stores.unique (h : Stores requests id body) (h' : Stores requests id body') :
    body = body' := by
  obtain ⟨cut, hcut⟩ := h
  obtain ⟨cut', hcut'⟩ := h'
  rw [hcut] at hcut'
  exact congrArg Prod.fst (Option.some.inj hcut')

theorem value_apply_set (kv : LedgerKv) (k : LedgerKey) (v : LedgerValue) (j : LedgerKey) :
    (kv.apply [.set k v]).value j = if k = j then some v else kv.value j := by
  rw [Kv.value_apply]
  simp only [Kv.written]
  split <;> rfl

theorem value_apply_delete (kv : LedgerKv) (k j : LedgerKey) :
    (kv.apply [.delete k]).value j = if k = j then none else kv.value j := by
  rw [Kv.value_apply]
  simp only [Kv.written]
  split <;> rfl

theorem LedgerStep.chunk_value (h : LedgerStep sha256Hex requests w l ws) (id : String) (i : ℕ) :
    (w.store.apply ws).value (.chunk id i) = w.store.value (.chunk id i) ∨
      ∃ body text, Stores requests id body ∧ (responseChunks body)[i]? = some text ∧
        (w.store.apply ws).value (.chunk id i) = some (.chunk text) := by
  cases h with
  | chunk id' index body text hbody htext =>
    rw [value_apply_set]
    by_cases hkey : LedgerKey.chunk id' index = .chunk id i
    · obtain ⟨hid, hix⟩ := LedgerKey.chunk.inj hkey
      right
      rw [if_pos hkey]
      rw [hid] at hbody
      rw [hix] at htext
      exact ⟨body, text, hbody, htext, rfl⟩
    · left
      rw [if_neg hkey]
  | release =>
    left
    rw [value_apply_delete]
    exact if_neg (by simp)
  | reserve | takeOver | dispatch | succeed | retire =>
    left
    rw [value_apply_set]
    exact if_neg (by simp)

section

variable (hinv : LedgerInv sha256Hex requests w) (h : LedgerStep sha256Hex requests w l ws)

include hinv h

/-- **A chunk is never changed.** -/
theorem LedgerStep.chunk_kept (hv : w.store.value (.chunk id i) = some v) :
    (w.store.apply ws).value (.chunk id i) = some v := by
  rcases h.chunk_value id i with hsame | hnew
  · rw [hsame]
    exact hv
  · obtain ⟨body, text, hbody, htext, hval⟩ := hnew
    obtain ⟨body', text', hbody', htext', rfl⟩ := hinv.chunks id i v hv
    -- a generation belongs to one request, which stores one body
    have heq : body = body' := hbody.unique hbody'
    rw [heq, htext'] at htext
    rw [hval, Option.some.inj htext]

theorem Complete.step (hcomp : Complete w.store id body) :
    Complete (w.store.apply ws) id body :=
  fun i text htext => h.chunk_kept hinv (hcomp i text htext)

theorem SucceededBy.mono (hsucc : SucceededBy sha256Hex requests w r id body) :
    SucceededBy sha256Hex requests (w.commit l ws) r id body where
  id_ne := hsucc.id_ne
  stores := hsucc.stores
  fingerprint := hsucc.fingerprint
  parts := hsucc.parts
  chunks := hsucc.chunks.step hinv h
  committed := by
    obtain ⟨kv, kv', hcom⟩ := hsucc.committed
    exact ⟨kv, kv', hcom.mono (w.le_commit l ws)⟩

end

theorem responseChunks_length_pos (body : Text) : 1 ≤ (responseChunks body).length := by
  unfold responseChunks
  split
  · exact le_rfl
  · next hbody =>
    have hlen : 0 < body.length := List.length_pos_of_ne_nil hbody
    rw [List.length_map, List.length_range]
    have hdiv : responseChunkChars ≤ body.length + (responseChunkChars - 1) := by
      unfold responseChunkChars
      omega
    exact (Nat.one_le_div_iff (by decide)).mpr hdiv

/-- The record that is stored reads as one. -/
theorem LedgerStep.record_value (h : LedgerStep sha256Hex requests w l ws)
    (hinv : LedgerInv sha256Hex requests w) (hv : (w.store.apply ws).value .record = some v) :
    w.store.value .record = some v ∨ ∃ r, v = .record r ∧ isChunkCount r.responseChunkCount = true ∧
      (r.state = .succeeded → ∃ id body, l = .succeed id ∧ id ≠ "" ∧ Stores requests id body ∧
        r.fingerprint = (requests id).fingerprint ∧ Complete w.store id body ∧
        r.responseStatus = some 200 ∧ r.responseContentType = some "application/json" ∧
        r.responseGeneration = some id ∧ r.responseChunkCount = some (responseChunks body).length ∧
        r.responseSha256 = some (sha256Hex body)) := by
  cases h with
  | chunk =>
    left
    rwa [value_apply_set, if_neg (by simp)] at hv
  | release =>
    rw [value_apply_delete, if_pos rfl] at hv
    cases hv
  | succeed id _ _ body hid hbody hcnt h hchnk =>
    right
    rw [value_apply_set, if_pos rfl] at hv
    refine ⟨_, (Option.some.inj hv).symm, ?_, fun _ => ?_⟩
    · have hpos := responseChunks_length_pos body
      show decide (1 ≤ (responseChunks body).length ∧
        (responseChunks body).length ≤ maxResponseChunks) = true
      exact decide_eq_true ⟨hpos, hcnt⟩
    · exact ⟨id, body, rfl, hid, hbody, h.fingerprint, hchnk, rfl, rfl, rfl, rfl, rfl⟩
  | dispatch _ _ _ h =>
    right
    rw [value_apply_set, if_pos rfl] at hv
    refine ⟨_, (Option.some.inj hv).symm, ?_, nofun⟩
    obtain ⟨r', hr', hcnt⟩ := hinv.typed _ h.record
    cases hr'
    exact hcnt
  | reserve | takeOver | retire =>
    right
    rw [value_apply_set, if_pos rfl] at hv
    exact ⟨_, (Option.some.inj hv).symm, rfl, nofun⟩

/-- One commit keeps the invariant of the ledger. -/
theorem LedgerInv.step (hinv : LedgerInv sha256Hex requests w)
    (h : LedgerStep sha256Hex requests w l ws) : LedgerInv sha256Hex requests (w.commit l ws) := by
  constructor
  · intro v hv
    rcases h.record_value hinv hv with hold | hnew
    · exact hinv.typed v hold
    · obtain ⟨r, hr, hcnt, -⟩ := hnew
      exact ⟨r, hr, hcnt⟩
  · intro r hr hsta
    rcases h.record_value hinv hr with hold | hnew
    · obtain ⟨id, body, hsucc⟩ := hinv.succeeded r hold hsta
      exact ⟨id, body, hsucc.mono hinv h⟩
    · obtain ⟨r', hr', -, hsucc⟩ := hnew
      cases hr'
      obtain ⟨id, body, rfl, hid, hbody, hfp, hchnk, hpts⟩ := hsucc hsta
      refine ⟨id, body, hid, hbody, hfp, hpts, hchnk.step hinv h, ?_⟩
      exact ⟨_, _, (w.committed_commit_iff _ ws _ _ _).mpr (Or.inl ⟨rfl, rfl, rfl⟩)⟩
  · intro id i v hv
    rcases h.chunk_value id i with heq | hnew
    · exact hinv.chunks id i v (heq ▸ hv)
    · obtain ⟨body, text, hbody, htext, hvalue⟩ := hnew
      have hval : v = .chunk text := Option.some.inj (hv.symm.trans hvalue)
      exact ⟨body, text, hbody, htext, hval⟩

/-- It holds along every history. -/
theorem LedgerRun.inv (hw : LedgerRun sha256Hex requests w) : LedgerInv sha256Hex requests w := by
  refine hw.invariant ?_ ?_ ?_
  · intro kv t hstr
    have hval : ∀ k, kv.value k = none := by
      intro k
      unfold Kv.value
      rw [hstr k]
      rfl
    constructor
    · intro v hv
      exact absurd ((hval .record).symm.trans hv) (by simp)
    · intro r hr
      exact absurd ((hval .record).symm.trans hr) (by simp)
    · intro id i v hv
      exact absurd ((hval (.chunk id i)).symm.trans hv) (by simp)
  · intro w t hinv _
    exact ⟨hinv.typed, fun r hr hsta => by
      obtain ⟨id, body, h⟩ := hinv.succeeded r hr hsta
      exact ⟨id, body, h.id_ne, h.stores, h.fingerprint, h.parts, h.chunks, h.committed⟩,
        hinv.chunks⟩
  · intro w l ws _ hinv hstep
    exact hinv.step hstep

theorem LedgerRun.chunk_kept (hw : LedgerRun sha256Hex requests w) (hnm : n ≤ m) (hm : m ≤ w.length)
    (hv : (w.storeAt n).value (.chunk id i) = some v) :
    (w.storeAt m).value (.chunk id i) = some v := by
  have hrel : ∀ v, (w.storeAt n).value (.chunk id i) = some v →
      (w.storeAt m).value (.chunk id i) = some v := by
    refine hw.storeAt_rel_storeAt
      (R := fun kv kv' : LedgerKv => ∀ v, kv.value (LedgerKey.chunk id i) = some v →
        kv'.value (LedgerKey.chunk id i) = some v) ?_ ?_ ?_ hnm hm
    · exact fun _ _ h => h
    · exact fun _ _ _ hab hbc v h => hbc v (hab v h)
    · exact fun u l ws hu hstep v h => hstep.chunk_kept (LedgerRun.inv hu) h
  exact hrel v hv

end UbqGateway.Embeddings
