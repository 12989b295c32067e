import UbqGateway.Embeddings.LedgerSteps
import UbqGateway.Library.Schedule

/-!
# Embeddings are idempotent

Any number of requests with one principal and one `Idempotency-Key`, each of which may be
interrupted in the middle of every operation: the record moves along its states (`LedgerMove`), a
second dispatch is preceded by a release, and a replay is the response that was stored.
-/

namespace UbqGateway.Embeddings

variable {sha256Hex : Text → String} {requests : String → EmbeddingsRequest}

/-! ### Chunks -/

theorem flatten_windows (n : ℕ) (body : Text) : ∀ k,
    ((List.range k).map fun i => (body.drop (i * n)).take n).flatten = body.take (k * n) := by
  intro k
  induction k with
  | zero => simp
  | succ _ ih =>
    rw [List.range_succ, List.map_append, List.flatten_append, ih]
    simp only [List.map_cons, List.map_nil, List.flatten_cons, List.flatten_nil, List.append_nil]
    rw [Nat.succ_mul, List.take_add]

/-- **The chunks of a body make up the body**, wherever it is cut. -/
theorem responseChunks_flatten (body : Text) : (responseChunks body).flatten = body := by
  unfold responseChunks
  split
  · next hbody => simp [hbody]
  · rw [flatten_windows]
    apply List.take_of_length_le
    have hceil := Nat.div_add_mod (body.length + (responseChunkChars - 1)) responseChunkChars
    have hmod := Nat.mod_lt (body.length + (responseChunkChars - 1))
      (show 0 < responseChunkChars by decide)
    have hcomm := Nat.mul_comm ((body.length + (responseChunkChars - 1)) / responseChunkChars)
      responseChunkChars
    unfold responseChunkChars at *
    omega

theorem mapM_id_map_some (xs : List α) : (xs.map some).mapM id = some xs := by
  induction xs with
  | nil => rfl
  | cons _ _ ih =>
    rw [List.map_cons, List.mapM_cons, ih]
    rfl

/-! ### Records that were read -/

theorem normalizeRecord_eq_some (h : normalizeRecord entry = some r) :
    entry.map Entry.value = some (.record r) := by
  unfold normalizeRecord at h
  split at h
  · next record stamp =>
    split at h
    · cases h
      rfl
    · cases h
  · cases h

variable {u v : LedgerWorld}

theorem value_of_check (hread : ReadIn u v .record entry) (hle : v.Le v')
    (hv' : LedgerRun sha256Hex requests v') (hpass : v'.store.PassesAll [⟨.record, entry⟩]) :
    v'.store.get .record = entry ∧ v'.store.value .record = entry.map Entry.value := by
  have hget := hread.get_eq hle hv' (hpass _ (List.mem_singleton_self _))
  exact ⟨hget, congrArg (Option.map Entry.value) hget⟩

variable {id : String}

theorem chunk_value_le (hle : u.Le v) (hv : LedgerRun sha256Hex requests v)
    (h : u.store.value (.chunk id i) = some value) : v.store.value (.chunk id i) = some value := by
  have hold : (v.storeAt u.length).value (.chunk id i) = some value := by
    rw [hle.storeAt_length_eq]
    exact h
  have hnow := LedgerRun.chunk_kept hv hle.length_le le_rfl hold
  rwa [World.storeAt_length] at hnow

theorem Complete.le (hle : u.Le v) (hv : LedgerRun sha256Hex requests v)
    (h : Complete u.store id body) : Complete v.store id body :=
  fun i text htext => chunk_value_le hle hv (h i text htext)

theorem SucceededBy.le (hle : u.Le v) (hv : LedgerRun sha256Hex requests v)
    (h : SucceededBy sha256Hex requests u r id body) :
    SucceededBy sha256Hex requests v r id body where
  id_ne := h.id_ne
  stores := h.stores
  fingerprint := h.fingerprint
  parts := h.parts
  chunks := h.chunks.le hle hv
  committed := by
    obtain ⟨kv, kv', hcom⟩ := h.committed
    exact ⟨kv, kv', hcom.mono hle⟩

theorem succeeded_of_read (hread : ReadIn u v .record entry) (hv : LedgerRun sha256Hex requests v)
    (hent : entry.map Entry.value = some (.record r)) (hsta : r.state = .succeeded) :
    ∃ id body, SucceededBy sha256Hex requests v r id body := by
  obtain ⟨n, -, hn, heq⟩ := hread
  obtain ⟨t, ht, hle, hlen⟩ := hv.exists_storeAt hn
  have hstore : t.store = v.storeAt n := by
    rw [← hlen, hle.storeAt_length_eq]
  have hval : t.store.value .record = some (.record r) := by
    rw [hstore, Kv.value, ← heq]
    exact hent
  obtain ⟨id, body, hsucc⟩ := (LedgerRun.inv ht).succeeded r hval hsta
  exact ⟨id, body, hsucc.le hle hv⟩

/-! ### Loading a response -/

section

variable (hsha : ∀ text, sha256Hex text ≠ "") (hsta : r.state = .succeeded)
  (h : SucceededBy sha256Hex requests w r id body)

include hsha hsta h

theorem responseParts_eq : responseParts r =
      some ("application/json", id, (responseChunks body).length, sha256Hex body) := by
  obtain ⟨hsts, htype, hgen, hcnt, hhash⟩ := h.parts
  unfold responseParts
  rw [if_pos ⟨hsta, hsts⟩, htype, hgen, hcnt, hhash]
  have hid : decide (id ≠ "") = true := decide_eq_true h.id_ne
  have hne : decide (sha256Hex body ≠ "") = true := decide_eq_true (hsha body)
  rw [Option.filter_some, Option.filter_some, Option.filter_some, hid, hne]
  rfl

/-- **The response of a record that has succeeded can be loaded**, and it is the one that was
stored. -/
theorem loadResponse_wp : Wp clockOk LedgerStart (LedgerStep sha256Hex requests)
      (fun v response => SucceededBy sha256Hex requests v r id body ∧
        response = some (completeResponse body)) (loadResponse sha256Hex r) w := by
  unfold loadResponse
  rw [responseParts_eq hsha hsta h]
  apply Wp.gets_bind
  intro v hle hv got hgot
  refine ⟨h.le hle hv, ?_⟩
  have hchnk : (chunkKeys id (responseChunks body).length).map (fun key => chunkText (got key)) =
      (responseChunks body).map some := by
    unfold chunkKeys
    rw [List.map_map]
    apply List.ext_getElem
    · simp
    · intro i hi hi'
      rw [List.getElem_map, List.getElem_map, List.getElem_range]
      rw [List.length_map] at hi'
      have htext : (responseChunks body)[i]? = some (responseChunks body)[i] :=
        List.getElem?_eq_getElem hi'
      have hkey : LedgerKey.chunk id i ∈ chunkKeys id (responseChunks body).length :=
        List.mem_map_of_mem (List.mem_range.mpr hi')
      obtain ⟨n, hn, hn', heq⟩ := hgot _ hkey
      -- the chunk was in the store when the record was read, so it is there now
      have hbef : (v.storeAt w.length).value (.chunk id i) =
        some (.chunk (responseChunks body)[i]) := by
        rw [hle.storeAt_length_eq]
        exact h.chunks i _ htext
      have hnow := LedgerRun.chunk_kept hv hn hn' hbef
      rw [Kv.value, ← heq] at hnow
      obtain ⟨e, he, hval⟩ := Option.map_eq_some_iff.mp hnow
      show chunkText (got (.chunk id i)) = _
      obtain ⟨value, stamp⟩ := e
      rw [he]
      obtain rfl := hval
      rfl
  rw [hchnk]
  unfold assembleResponse
  rw [mapM_id_map_some]
  show (if sha256Hex (responseChunks body).flatten = sha256Hex body then _ else _) = _
  rw [responseChunks_flatten, if_pos rfl]
  rfl

end

/-! ### Acquiring the record -/

section Operations

variable (requests) in
/-- What an acquisition ends with. -/
def AcquirePost (id : String) (v : LedgerWorld) : AcquireResult → Prop
  | .acquired => ∃ kv kv', v.Committed kv (.reserve id) kv'
  | .replay response => ∃ id' body, Stores requests id' body ∧
      (requests id').fingerprint = (requests id).fingerprint ∧
      (∃ kv kv', v.Committed kv (.succeed id') kv') ∧ response = completeResponse body
  | .error _ => True

/-- What one attempt ends with. -/
def AttemptPost (requests : String → EmbeddingsRequest) (id : String) (v : LedgerWorld)
    (result : Option AcquireResult) : Prop :=
  ∀ r, result = some r → AcquirePost requests id v r

theorem AcquirePost.mono (h : AcquirePost requests id u result) (hle : u.Le v) :
    AcquirePost requests id v result := by
  cases result with
  | acquired =>
    obtain ⟨kv, kv', hcom⟩ := h
    exact ⟨kv, kv', hcom.mono hle⟩
  | replay =>
    obtain ⟨id', body, hstrs, hfp, ⟨kv, kv', hcom⟩, hrsp⟩ := h
    exact ⟨id', body, hstrs, hfp, ⟨kv, kv', hcom.mono hle⟩, hrsp⟩
  | error error => trivial

variable (requests) in
def leaseOf (id : String) : EmbeddingsIdempotencyLease := ⟨(requests id).fingerprint, id⟩

/-- A replacement of the record is a step, if it is one whenever the record has not changed since it
was read. -/
theorem commitReplacement_bind {Q : LedgerWorld → α → Prop} {label : LedgerLabel}
    {f : Bool → LedgerM α} (hread : ReadIn u w .record entry)
    (hstep : ∀ v : LedgerWorld, LedgerRun sha256Hex requests v → v.store.get .record = entry →
      v.store.value .record = entry.map Entry.value →
      LedgerStep sha256Hex requests v label [.set .record (.record record)])
    (hok : ∀ v : LedgerWorld, w.Le v → (∃ kv kv', v.Committed kv label kv') →
      Wp clockOk LedgerStart (LedgerStep sha256Hex requests) Q (f true) v)
    (hconf : ∀ v : LedgerWorld, w.Le v → LedgerRun sha256Hex requests v →
      Wp clockOk LedgerStart (LedgerStep sha256Hex requests) Q (f false) v) :
    Wp clockOk LedgerStart (LedgerStep sha256Hex requests) Q
      (commitReplacement label entry record >>= f) w := by
  apply Wp.transaction_bind
  · intro v hle hv hpass
    obtain ⟨hget, hval⟩ := value_of_check hread hle hv hpass
    refine ⟨hstep v hv hget hval, ?_⟩
    apply hok _ (hle.trans (v.le_commit _ _))
    exact ⟨_, _, (v.committed_commit_iff _ _ _ _ _).mpr (.inl ⟨rfl, rfl, rfl⟩)⟩
  · exact hconf

theorem reserveRecord_wp (hread : ReadIn u w .record entry)
    (hstep : ∀ v : LedgerWorld, LedgerRun sha256Hex requests v → v.store.get .record = entry →
      v.store.value .record = entry.map Entry.value →
      LedgerStep sha256Hex requests v (.reserve id) [.set .record (.record record)]) :
    Wp clockOk LedgerStart (LedgerStep sha256Hex requests) (AttemptPost requests id)
      (reserveRecord (leaseOf requests id) entry record) w := by
  apply commitReplacement_bind hread hstep
  · intro v _ hcom r hr
    cases hr
    exact hcom
  · intro v _ _ r hr
    cases hr

theorem retireRecord_wp (hread : ReadIn u w .record entry)
    (hent : entry.map Entry.value = some (.record r))
    (hfp : r.fingerprint = (requests id).fingerprint) (hsta : r.state = .dispatched) :
    Wp clockOk LedgerStart (LedgerStep sha256Hex requests) (AttemptPost requests id)
      (retireRecord (leaseOf requests id) entry r now) w := by
  apply commitReplacement_bind hread
  · intro v _ _ hval
    exact .retire id now r ⟨hval.trans hent, hfp⟩ (.inr hsta)
  · intro v _ _ result hres
    cases hres
    trivial
  · intro v _ _ result hres
    cases hres

section

variable (hsha : ∀ text, sha256Hex text ≠ "")

include hsha

/-- An attempt that found a record. -/
theorem attemptWith_wp (hread : ReadIn u w .record entry) (hw : LedgerRun sha256Hex requests w)
    (hent : entry.map Entry.value = some (.record r)) :
    Wp clockOk LedgerStart (LedgerStep sha256Hex requests) (AttemptPost requests id)
      (attemptWith sha256Hex (leaseOf requests id) entry r now) w := by
  have herr : ∀ (v : LedgerWorld) (e : LedgerError), AttemptPost requests id v
    (some (.error e)) := by
    intro v e result hres
    cases hres
    trivial
  unfold attemptWith
  by_cases hfp : r.fingerprint = (requests id).fingerprint
  · rw [if_neg (by simpa [leaseOf] using hfp)]
    cases hsta : r.state with
    | succeeded =>
      obtain ⟨id', body, hsucc⟩ := succeeded_of_read hread hw hent hsta
      apply Wp.bind
      refine Wp.mono ?_ (loadResponse_wp hsha hsta hsucc)
      rintro v response ⟨hsucc', hrsp⟩
      rw [hrsp]
      intro result hres
      cases hres
      refine ⟨id', body, hsucc'.stores, ?_, hsucc'.committed, rfl⟩
      exact hsucc'.fingerprint.symm.trans hfp
    | indeterminate => exact herr w _
    | dispatched =>
      dsimp only
      split
      · exact herr w _
      · exact retireRecord_wp hread hent hfp hsta
    | reserved =>
      dsimp only
      split
      · exact herr w _
      · next hls =>
        apply reserveRecord_wp hread
        intro v _ _ hval
        have hexp : r.leaseUntilMs.any (fun until_ => decide (now < until_)) = false :=
          Bool.eq_false_iff.mpr hls
        exact .takeOver id now r ⟨hval.trans hent, hfp⟩ hsta hexp
  · rw [if_pos (by simpa [leaseOf] using hfp)]
    exact herr w _

theorem attemptAcquire_wp (id : String) :
    Wp clockOk LedgerStart (LedgerStep sha256Hex requests) (AttemptPost requests id)
      (attemptAcquire sha256Hex (leaseOf requests id)) w := by
  apply Wp.get_bind
  intro u _ hu entry hread
  apply Wp.clock_bind
  intro v huv hv now _
  have hread' := hread.mono huv
  cases hent : entry with
  | none =>
    rw [hent] at hread'
    apply reserveRecord_wp hread'
    intro t _ hget _
    exact .reserve id now hget
  | some e =>
    rw [hent] at hread'
    cases hnrm : normalizeRecord (some e) with
    | none =>
      intro result hres
      cases hres
      trivial
    | some r => exact attemptWith_wp hsha hread' hv (normalizeRecord_eq_some hnrm)

theorem acquire_wp (id : String) :
    Wp clockOk LedgerStart (LedgerStep sha256Hex requests) (AcquirePost requests id)
      (acquire sha256Hex (leaseOf requests id)) w := by
  have hloop : ∀ (n : ℕ) (w : LedgerWorld),
      Wp clockOk LedgerStart (LedgerStep sha256Hex requests) (AcquirePost requests id)
        (acquireLoop sha256Hex (leaseOf requests id) n) w := by
    intro n
    induction n with
    | zero => exact fun _ => trivial
    | succ _ ih =>
      intro w
      apply Wp.bind
      refine Wp.mono ?_ (attemptAcquire_wp hsha id)
      intro v result hres
      cases result with
      | none => exact ih v
      | some result => exact hres result rfl
  exact hloop 8 w

end

/-! ### The other operations -/

/-- The operations of a request that has its lease guarantee nothing about their results. -/
abbrev LedgerKeeps (clockOk : ℤ → ℤ → Prop) (sha256Hex : Text → String)
    (requests : String → EmbeddingsRequest) {α : Type} (p : LedgerM α) (w : LedgerWorld) : Prop :=
  Wp clockOk LedgerStart (LedgerStep sha256Hex requests) (fun _ _ => True) p w

theorem markIndeterminate_wp (id : String) (w : LedgerWorld) :
    LedgerKeeps clockOk sha256Hex requests (markIndeterminate (leaseOf requests id)) w := by
  have hloop : ∀ (n : ℕ) (w : LedgerWorld),
      LedgerKeeps clockOk sha256Hex requests (markIndeterminateLoop (leaseOf requests id) n) w := by
    intro n
    induction n with
    | zero => exact fun _ => trivial
    | succ n ih =>
      intro w
      apply Wp.get_bind
      intro u _ _ entry hread
      cases hnrm : normalizeRecord entry with
      | none => trivial
      | some r =>
        dsimp only
        split
        · trivial
        · next hgd =>
          simp only [not_or, not_not] at hgd
          obtain ⟨hfp, hindeterminate, hsucc⟩ := hgd
          apply Wp.clock_bind
          intro v huv _ now _
          apply commitReplacement_bind (hread.mono huv)
          · intro t _ _ hval
            have hsta : r.state = .reserved ∨ r.state = .dispatched := by
              cases hr : r.state with
              | reserved => exact .inl rfl
              | dispatched => exact .inr rfl
              | succeeded => exact absurd hr hsucc
              | indeterminate => exact absurd hr hindeterminate
            exact .retire id now r
              ⟨hval.trans (normalizeRecord_eq_some hnrm), hfp⟩ hsta
          · exact fun _ _ _ => trivial
          · exact fun t _ _ => ih t
  exact hloop 4 w

theorem markDispatched_wp (id : String) (w : LedgerWorld) :
    LedgerKeeps clockOk sha256Hex requests (markDispatched (leaseOf requests id)) w := by
  have hloop : ∀ (n : ℕ) (w : LedgerWorld),
      LedgerKeeps clockOk sha256Hex requests (markDispatchedLoop (leaseOf requests id) n) w := by
    intro n
    induction n with
    | zero => exact fun _ => trivial
    | succ n ih =>
      intro w
      apply Wp.get_bind
      intro u _ _ entry hread
      cases hnrm : normalizeRecord entry with
      | none => trivial
      | some r =>
        dsimp only
        split
        · trivial
        · next hgd =>
          simp only [not_or, not_not] at hgd
          obtain ⟨hfp, hsta, hownr⟩ := hgd
          apply Wp.clock_bind
          intro v huv _ now _
          apply commitReplacement_bind (hread.mono huv)
          · intro t _ _ hval
            have hholds : Holds requests t id r :=
              ⟨hval.trans (normalizeRecord_eq_some hnrm), hfp⟩
            exact .dispatch id now r ⟨hholds, hownr, .inl hsta⟩ hsta
          · exact fun _ _ _ => trivial
          · exact fun t _ _ => ih t
  exact hloop 4 w

theorem releaseReservation_wp (id : String) (allowDispatched : Bool) (w : LedgerWorld) :
    LedgerKeeps clockOk sha256Hex requests
      (releaseReservation (leaseOf requests id) allowDispatched) w := by
  have hloop : ∀ (n : ℕ) (w : LedgerWorld), LedgerKeeps clockOk sha256Hex requests
      (releaseLoop (leaseOf requests id) allowDispatched n) w := by
    intro n
    induction n with
    | zero => exact fun _ => trivial
    | succ n ih =>
      intro w
      apply Wp.get_bind
      intro u _ _ entry hread
      cases hnrm : normalizeRecord entry with
      | none => trivial
      | some r =>
        dsimp only
        split
        · trivial
        · next hgd =>
          rw [not_or, not_or] at hgd
          obtain ⟨hfp, hownr, hsta⟩ := hgd
          have hopen : r.state = .reserved ∨ r.state = .dispatched :=
            (not_not.mp hsta).imp_right And.right
          apply Wp.transaction_bind
          · intro v huv hv hpass
            obtain ⟨-, hval⟩ := value_of_check hread huv hv hpass
            have hholds : Holds requests v id r :=
              ⟨hval.trans (normalizeRecord_eq_some hnrm), not_not.mp hfp⟩
            exact ⟨.release id r ⟨hholds, not_not.mp hownr, hopen⟩, trivial⟩
          · exact fun t _ _ => ih t
  exact hloop 4 w

/-- The chunks are written one after the other. -/
theorem writeChunks_wp (hstrs : Stores requests id body) :
    ∀ (texts : List Text) (index : ℕ) (w : LedgerWorld),
      (∀ i, texts[i]? = (responseChunks body)[index + i]?) →
      (∀ i text, i < index → (responseChunks body)[i]? = some text →
        w.store.value (.chunk id i) = some (.chunk text)) →
      Wp clockOk LedgerStart (LedgerStep sha256Hex requests)
        (fun v _ => Complete v.store id body) (writeChunks id index texts) w := by
  intro texts
  induction texts with
  | nil =>
    intro index w htxs hwr i text htext
    have hlt : i < index := by
      by_contra hge
      obtain ⟨j, rfl⟩ := Nat.exists_eq_add_of_le (not_lt.mp hge)
      rw [← htxs j] at htext
      cases htext
    exact hwr i text hlt htext
  | cons first texts ih =>
    intro index w htxs hwr
    have hfst : (responseChunks body)[index]? = some first := by
      have hzero := htxs 0
      rw [Nat.add_zero] at hzero
      exact hzero.symm
    have hstep : ∀ v, LedgerStep sha256Hex requests v (.chunk id index)
        [.set (.chunk id index) (.chunk first)] :=
      fun v => .chunk id index body first hstrs hfst
    apply Wp.write_bind
    intro v hle hv
    refine ⟨hstep v, ?_⟩
    apply ih
    · intro i
      have hnext := htxs (i + 1)
      rw [List.getElem?_cons_succ] at hnext
      rw [hnext, Nat.add_right_comm, Nat.add_assoc]
    · intro i text hi htext
      show (v.store.apply _).value _ = _
      by_cases hlast : i = index
      · rw [hlast, value_apply_set, if_pos rfl]
        rw [hlast, hfst] at htext
        rw [Option.some.inj htext]
      · have hlt : i < index := by omega
        have hnow := chunk_value_le hle hv (hwr i text hlt htext)
        exact (hstep v).chunk_kept (LedgerRun.inv hv) hnow

/-- The success is stored after all of its chunks. -/
theorem storeSuccess_wp (hid : id ≠ "") (hstrs : Stores requests id body) (w : LedgerWorld) :
    LedgerKeeps clockOk sha256Hex requests
      (storeSuccess sha256Hex (leaseOf requests id) (completeResponse body)) w := by
  have hloop : ∀ (n : ℕ) (w : LedgerWorld),
      (responseChunks body).length ≤ maxResponseChunks → Complete w.store id body →
      LedgerKeeps clockOk sha256Hex requests
        (storeLoop sha256Hex (leaseOf requests id) (completeResponse body) n) w := by
    intro n
    induction n with
    | zero => exact fun _ _ _ => trivial
    | succ n ih =>
      intro w hcnt hcomp
      apply Wp.get_bind
      intro u hwu _ entry hread
      cases hnrm : normalizeRecord entry with
      | none => trivial
      | some r =>
        dsimp only
        split
        · trivial
        · next hgd =>
          rw [not_or, not_or] at hgd
          obtain ⟨hfp, hsta, hownr⟩ := hgd
          apply Wp.clock_bind
          intro v huv _ now _
          apply Wp.transaction_bind
          · intro t hvt ht hpass
            obtain ⟨-, hval⟩ := value_of_check (hread.mono huv) hvt ht hpass
            have hholds : Holds requests t id r :=
              ⟨hval.trans (normalizeRecord_eq_some hnrm), not_not.mp hfp⟩
            -- the chunks are still there
            have hchnk := hcomp.le ((hwu.trans huv).trans hvt) ht
            refine ⟨.succeed id now r body hid hstrs hcnt ?_ hchnk, trivial⟩
            exact ⟨hholds, not_not.mp hownr, not_not.mp hsta⟩
          · intro t hvt ht
            exact ih t hcnt (hcomp.le ((hwu.trans huv).trans hvt) ht)
  unfold storeSuccess
  split
  · trivial
  · next hcnt =>
    apply Wp.bind
    refine Wp.mono ?_ (writeChunks_wp hstrs (responseChunks body) 0 w ?_ ?_)
    · exact fun v _ hcomp => hloop 4 v (not_lt.mp hcnt) hcomp
    · intro i
      rw [Nat.zero_add]
    · intro i text hi
      exact absurd hi (Nat.not_lt_zero i)

/-! ### Requests -/

theorem LeaseStep.perform_wp (step : LeaseStep) (id : String) (w : LedgerWorld) :
    LedgerKeeps clockOk sha256Hex requests (step.perform (leaseOf requests id)) w := by
  cases step with
  | markDispatched => exact Wp.bind (Wp.mono (fun _ _ _ => trivial) (markDispatched_wp id w))
  | release allowDispatched =>
    exact Wp.bind (Wp.mono (fun _ _ _ => trivial) (releaseReservation_wp id allowDispatched w))
  | markIndeterminate => exact markIndeterminate_wp id w

theorem performSteps_wp (id : String) (steps : List (LeaseStep × ℕ)) : ∀ w : LedgerWorld,
    LedgerKeeps clockOk sha256Hex requests (performSteps (leaseOf requests id) steps) w := by
  induction steps with
  | nil => exact fun _ => trivial
  | cons step _ ih =>
    intro w
    apply Wp.bind
    exact Wp.mono (fun v _ _ => ih v) ((step.1.perform_wp id w).cut step.2)

theorem storeBody_wp (hid : id ≠ "") (w : LedgerWorld) : LedgerKeeps clockOk sha256Hex requests
      (storeBody sha256Hex (leaseOf requests id) (requests id).body) w := by
  cases hbody : (requests id).body with
  | none => trivial
  | some stored =>
    apply Wp.bind
    have hstrs : Stores requests id stored.1 := ⟨stored.2, hbody⟩
    exact Wp.mono (fun _ _ _ => trivial) ((storeSuccess_wp hid hstrs w).cut stored.2)

theorem performRequest_wp (hsha : ∀ text, sha256Hex text ≠ "") (hid : id ≠ "") (w : LedgerWorld) :
    Wp clockOk LedgerStart (LedgerStep sha256Hex requests) (AcquirePost requests id)
      (performRequest sha256Hex (requests id) id) w := by
  apply Wp.bind
  refine Wp.mono ?_ ((acquire_wp hsha id).cut (requests id).acquireCut)
  intro v acquired hacquired
  cases acquired with
  | none => trivial
  | some result =>
    have hpost := hacquired result rfl
    cases result with
    | replay => exact hpost
    | error error => trivial
    | acquired =>
      apply Wp.bind
      refine Wp.mono ?_ (performSteps_wp id (requests id).before v).le
      rintro v₁ _ ⟨hle₁, -⟩
      apply Wp.bind
      refine Wp.mono ?_ (storeBody_wp hid v₁).le
      rintro v₂ _ ⟨hle₂, -⟩
      apply Wp.bind
      refine Wp.mono ?_ (performSteps_wp id (requests id).after v₂).le
      rintro v₃ _ ⟨hle₃, -⟩
      exact hpost.mono ((hle₁.trans hle₂).trans hle₃)

end Operations

/-! ### The states of the record -/

def recordOf (kv : LedgerKv) : Option EmbeddingsIdempotencyRecord :=
  match kv.value .record with
  | some (.record r) => some r
  | _ => none

/-- The moves of the record, each by a request: with an absent record it reserves it, and otherwise
the record has the fingerprint of the request.  What a request did to a record that it does not own
is to take a reservation over whose lease has expired, or to retire it. -/
inductive LedgerMove (requests : String → EmbeddingsRequest) : LedgerLabel →
    Option EmbeddingsIdempotencyRecord → Option EmbeddingsIdempotencyRecord → Prop
  | reserve (id : String) (r : EmbeddingsIdempotencyRecord)
      (hfp : r.fingerprint = (requests id).fingerprint) (hsta : r.state = .reserved)
      (hownr : r.ownerRequestId = some id) : LedgerMove requests (.reserve id) none (some r)
  | takeOver (id : String) (r r' : EmbeddingsIdempotencyRecord)
      (hfp : r.fingerprint = (requests id).fingerprint) (hsta : r.state = .reserved)
      (hexp : ∀ until_, r.leaseUntilMs = some until_ → until_ ≤ r'.updatedAtMs)
      (heq : r'.fingerprint = r.fingerprint) (hsta' : r'.state = .reserved)
      (hownr : r'.ownerRequestId = some id) : LedgerMove requests (.reserve id) (some r) (some r')
  | dispatch (id : String) (r r' : EmbeddingsIdempotencyRecord)
      (hfp : r.fingerprint = (requests id).fingerprint) (hsta : r.state = .reserved)
      (hownr : r.ownerRequestId = some id) (heq : r'.fingerprint = r.fingerprint)
      (hsta' : r'.state = .dispatched) (hownr' : r'.ownerRequestId = some id) :
      LedgerMove requests (.dispatch id) (some r) (some r')
  | release (id : String) (r : EmbeddingsIdempotencyRecord)
      (hfp : r.fingerprint = (requests id).fingerprint)
      (hsta : r.state = .reserved ∨ r.state = .dispatched) (hownr : r.ownerRequestId = some id) :
      LedgerMove requests (.release id) (some r) none
  | succeed (id : String) (r r' : EmbeddingsIdempotencyRecord)
      (hfp : r.fingerprint = (requests id).fingerprint)
      (hsta : r.state = .reserved ∨ r.state = .dispatched) (hownr : r.ownerRequestId = some id)
      (heq : r'.fingerprint = r.fingerprint) (hsta' : r'.state = .succeeded) :
      LedgerMove requests (.succeed id) (some r) (some r')
  | retire (id : String) (r r' : EmbeddingsIdempotencyRecord)
      (hfp : r.fingerprint = (requests id).fingerprint)
      (hsta : r.state = .reserved ∨ r.state = .dispatched)
      (heq : r'.fingerprint = r.fingerprint) (hsta' : r'.state = .indeterminate) :
      LedgerMove requests (.retire id) (some r) (some r')
  | chunk (id : String) (index : ℕ) (r : Option EmbeddingsIdempotencyRecord) :
      LedgerMove requests (.chunk id index) r r

theorem recordOf_of_value (h : kv.value .record = some (.record r)) : recordOf kv = some r := by
  unfold recordOf
  rw [h]

theorem recordOf_apply_set (kv : LedgerKv) (r : EmbeddingsIdempotencyRecord) :
    recordOf (kv.apply [.set .record (.record r)]) = some r := by
  apply recordOf_of_value
  rw [value_apply_set, if_pos rfl]

/-- **One commit moves the record.** -/
theorem LedgerStep.move (h : LedgerStep sha256Hex requests w l ws) :
    LedgerMove requests l (recordOf w.store) (recordOf (w.store.apply ws)) := by
  cases h with
  | reserve id _ habs =>
    have hno : recordOf w.store = none := by
      unfold recordOf Kv.value
      rw [habs]
      rfl
    rw [hno, recordOf_apply_set]
    exact .reserve id _ rfl rfl rfl
  | takeOver id _ r h hsta hexp =>
    rw [recordOf_of_value h.record, recordOf_apply_set]
    refine .takeOver id r _ h.fingerprint hsta ?_ rfl rfl rfl
    intro until_ hutl
    rw [hutl] at hexp
    exact not_lt.mp (of_decide_eq_false hexp)
  | dispatch id _ r h hsta =>
    rw [recordOf_of_value h.record, recordOf_apply_set]
    exact .dispatch id r _ h.fingerprint hsta h.owner rfl rfl h.owner
  | release id r h =>
    have hno : recordOf (w.store.apply [.delete .record]) = none := by
      unfold recordOf
      rw [value_apply_delete, if_pos rfl]
    rw [recordOf_of_value h.record, hno]
    exact .release id r h.fingerprint h.state h.owner
  | succeed id _ r _ _ _ _ h =>
    rw [recordOf_of_value h.record, recordOf_apply_set]
    exact .succeed id r _ h.fingerprint h.state h.owner rfl rfl
  | retire id _ r h hsta =>
    rw [recordOf_of_value h.record, recordOf_apply_set]
    exact .retire id r _ h.fingerprint hsta rfl rfl
  | chunk id index _ text =>
    have heq : recordOf (w.store.apply [.set (.chunk id index) (.chunk text)]) =
        recordOf w.store := by
      unfold recordOf
      rw [value_apply_set, if_neg (by simp)]
    rw [heq]
    exact .chunk id index _

/-! ### Dispatches -/

/-- Whether there was a dispatch since the last release; the newest commit comes first. -/
def dispatchedSince : List LedgerLabel → Bool
  | [] => false
  | .dispatch _ :: _ => true
  | .release _ :: _ => false
  | _ :: labels => dispatchedSince labels

theorem dispatchedSince_append (hmid : ∀ l ∈ mid, ∀ id, l ≠ .release id) (labels : List LedgerLabel)
    (id : String) : dispatchedSince (mid ++ .dispatch id :: labels) = true := by
  induction mid with
  | nil => rfl
  | cons l _ ih =>
    have hrest := ih fun l' hl' => hmid l' (List.mem_cons_of_mem l hl')
    cases l with
    | release id' => exact absurd rfl (hmid _ List.mem_cons_self id')
    | dispatch => rfl
    | reserve | succeed | retire | chunk => exact hrest

/-- The labels of the commits, newest first. -/
def labelsOf (w : LedgerWorld) : List LedgerLabel := w.events.map Event.label

/-- After a dispatch and without a release the record is not reserved, and no dispatch came after
another without a release. -/
structure DispatchInv (w : LedgerWorld) : Prop where
  state : dispatchedSince (labelsOf w) = true →
    ∃ r, recordOf w.store = some r ∧ r.state ≠ .reserved
  once : ∀ id labels, .dispatch id :: labels <:+ labelsOf w → dispatchedSince labels = false

/-- **The step**: an id is dispatched only with its reservation. -/
theorem DispatchInv.step (hinv : DispatchInv w)
    (hmove : LedgerMove requests l (recordOf w.store) (recordOf (w.store.apply ws))) :
    DispatchInv (w.commit l ws) := by
  have hlabs : labelsOf (w.commit l ws) = l :: labelsOf w := rfl
  constructor
  · intro hsnc
    rw [hlabs] at hsnc
    show ∃ r, recordOf (w.store.apply ws) = some r ∧ r.state ≠ .reserved
    -- a move that does not end in a reservation; before it there was a dispatch or it is one
    generalize hbef : recordOf w.store = before at hmove
    generalize recordOf (w.store.apply ws) = after at hmove ⊢
    cases hmove with
    | reserve =>
      obtain ⟨r', hr', -⟩ := hinv.state hsnc
      rw [hbef] at hr'
      cases hr'
    | takeOver _ _ _ _ hsta =>
      obtain ⟨r₀, hr₀, hne⟩ := hinv.state hsnc
      rw [hbef] at hr₀
      cases hr₀
      exact absurd hsta hne
    | dispatch _ _ r' _ _ _ _ hsta' | succeed _ _ r' _ _ _ _ hsta' | retire _ _ r' _ _ _ hsta' =>
      exact ⟨r', rfl, by simp [hsta']⟩
    | release => cases hsnc
    | chunk =>
      obtain ⟨r', hr', hne⟩ := hinv.state hsnc
      exact ⟨r', hbef ▸ hr', hne⟩
  · intro id labels hsfx
    rw [hlabs] at hsfx
    rcases List.suffix_cons_iff.mp hsfx with heq | hold
    · obtain ⟨hl, hlabs'⟩ := List.cons.inj heq
      rw [hlabs']
      -- the record was reserved when this dispatch was made
      by_contra hne
      obtain ⟨r, hr, hsta⟩ := hinv.state (Bool.not_eq_false _ ▸ hne)
      rw [← hl, hr] at hmove
      generalize recordOf (w.store.apply ws) = after at hmove
      cases hmove with
      | dispatch _ _ _ _ hres => exact absurd hres hsta
    · exact hinv.once id labels hold

theorem LedgerRun.dispatchInv (hw : LedgerRun sha256Hex requests w) : DispatchInv w := by
  refine hw.invariant ?_ ?_ ?_
  · intro kv t _
    constructor
    · exact nofun
    · intro id labels hsfx
      exact absurd (List.suffix_nil.mp hsfx) (List.cons_ne_nil _ _)
  · intro w t hinv _
    exact ⟨hinv.state, hinv.once⟩
  · intro w l ws _ hinv hstep
    exact hinv.step hstep.move

/-! ### The service -/

/-- The program of a request, which answers under its id. -/
def requestProgram (sha256Hex : Text → String) (requests : String →
    EmbeddingsRequest) (id : String) :
    LedgerM (String × AcquireResult) := do
  let result ← performRequest sha256Hex (requests id) id
  return (id, result)

/-- The programs of all requests.  The ids of requests are distinct, so an id stands for its
request. -/
def ledgerPrograms (sha256Hex : Text → String) (requests : String → EmbeddingsRequest) :
    Set (LedgerM (String × AcquireResult)) :=
  { p | ∃ id, id ≠ "" ∧ p = requestProgram sha256Hex requests id }

theorem requestProgram_wp (hsha : ∀ text, sha256Hex text ≠ "") :
    ∀ p ∈ ledgerPrograms sha256Hex requests, ∀ w, LedgerRun sha256Hex requests w →
      Wp clockOk LedgerStart (LedgerStep sha256Hex requests)
        (fun v answer => AcquirePost requests answer.1 v answer.2) p w := by
  rintro _ ⟨id, hid, rfl⟩ w -
  apply Wp.bind
  exact Wp.mono (fun _ _ hpost => hpost) (performRequest_wp hsha hid w)

/-- What holds of the events and of the answers in every interleaving of the requests. -/
theorem ledgerPrograms_reachable (hsha : ∀ text, sha256Hex text ≠ "") {kv : LedgerKv}
    (hstr : LedgerStart kv) {s : System LedgerKey LedgerValue LedgerLabel (String × AcquireResult)}
    (hs : Reachable clockOk (ledgerPrograms sha256Hex requests) kv s) :
    LedgerRun sha256Hex requests s.world ∧ ∀ v answer, ⟨v, .pure answer⟩ ∈ s.clients →
      AcquirePost requests answer.1 s.world answer.2 := by
  have hprogram := @requestProgram_wp _ requests clockOk hsha
  refine ⟨(Reachable.clients (Q := fun _ _ v answer => AcquirePost requests answer.1 v answer.2)
    hstr hprogram hs).1, fun v answer hclt => ?_⟩
  obtain ⟨hle, -, -, -, -, -, hpost⟩ :=
    Reachable.ended (Q := fun _ _ v answer => AcquirePost requests answer.1 v answer.2)
      hstr hprogram hs hclt
  exact hpost.mono hle

/-- **The idempotency ledger.**  In every interleaving, every commit is a move of the record by a
request with its fingerprint, between two dispatches there is a release, a request that was given
the record has reserved it, and a replay is what a request with the same fingerprint has stored. -/
theorem idempotency_ledger (hsha : ∀ text, sha256Hex text ≠ "") {kv : LedgerKv}
    (hstr : LedgerStart kv) {s : System LedgerKey LedgerValue LedgerLabel
      (String × AcquireResult)}
    (hs : Reachable clockOk (ledgerPrograms sha256Hex requests) kv s) :
    (∀ kv₁ l kv₂, s.world.Committed kv₁ l kv₂ →
      LedgerMove requests l (recordOf kv₁) (recordOf kv₂)) ∧
    (∀ post mid pre id id', labelsOf s.world = post ++
      .dispatch id' :: (mid ++ .dispatch id :: pre) →
      ∃ owner, .release owner ∈ mid) ∧
    (∀ v id, ⟨v, .pure (id, .acquired)⟩ ∈ s.clients →
      ∃ kv₁ kv₂, s.world.Committed kv₁ (.reserve id) kv₂) ∧
    (∀ v id response, ⟨v, .pure (id, .replay response)⟩ ∈ s.clients →
      ∃ id' body, Stores requests id' body ∧
        (requests id').fingerprint = (requests id).fingerprint ∧
        (∃ kv₁ kv₂, s.world.Committed kv₁ (.succeed id') kv₂) ∧
          response = completeResponse body) := by
  obtain ⟨hrun, hend⟩ := ledgerPrograms_reachable hsha hstr hs
  refine ⟨?_, ?_, ?_, ?_⟩
  · intro kv₁ l kv₂ hcom
    obtain ⟨u, ws, -, -, hstore, hstep, hkv₂⟩ := hrun.committed hcom
    rw [hkv₂, ← hstore]
    exact hstep.move
  · intro post mid pre id id' hlabs
    have honce := (LedgerRun.dispatchInv hrun).once id' (mid ++ .dispatch id :: pre)
      ⟨post, hlabs.symm⟩
    by_contra hno
    have hmid : ∀ l ∈ mid, ∀ owner, l ≠ .release owner := by
      intro l hl owner heq
      rw [heq] at hl
      exact hno ⟨owner, hl⟩
    rw [dispatchedSince_append hmid pre id] at honce
    cases honce
  · exact fun v id hclt => hend v (id, .acquired) hclt
  · exact fun v id response hclt => hend v (id, .replay response) hclt

/-! ### A schedule -/

/-- Three requests: the first stores a response, the second repeats it, and the third has the same
key and another fingerprint. -/
def sampleRequests : String → EmbeddingsRequest
  | "first" => ⟨"text", 9, [(.markDispatched, 9)], some ([104, 105], 9), []⟩
  | "second" => ⟨"text", 9, [(.markDispatched, 9)], none, []⟩
  | _ => ⟨"other", 9, [], none, []⟩

/-- The names of the requests. -/
def sampleId : ℕ → String
  | 0 => "first"
  | 1 => "second"
  | _ => "third"

/-- The hash of the texts of the schedule. -/
def sampleSha256Hex (text : Text) : String :=
  if text = [104, 105] then "8f434346648f6b96df89dda901c5176b10a6d83961dd3c1ac88b59b2dc327aa4"
  else "e3b0c44298fc1c149afbf4c8996fb92427ae41e4649b934ca495991b7852b855"

/-- The second request comes while the first is at work, and twice when the first has ended. -/
def sampleActions : List (Action ℕ) :=
  [.spawn 0, .act 0 4, .spawn 1, .act 0 9, .act 1 30, .spawn 1, .act 0 9, .spawn 2, .act 0 9,
    .spawn 1, .act 0 9]

/-- What the schedule leads to. -/
def sampleSystem : System LedgerKey LedgerValue LedgerLabel (String × AcquireResult) :=
  System.runAll (fun n => requestProgram sampleSha256Hex sampleRequests (sampleId n))
    ⟨⟨Kv.empty, [], 0⟩, []⟩ sampleActions

theorem sampleSha256Hex_ne (text : Text) : sampleSha256Hex text ≠ "" := by
  unfold sampleSha256Hex
  split <;> decide

theorem sampleSystem_reachable :
    Reachable Eq (ledgerPrograms sampleSha256Hex sampleRequests) Kv.empty sampleSystem := by
  refine System.runAll_reachable (P := fun _ => True) (fun t _ => rfl) (fun n => ?_) sampleActions
    (by decide) ⟨⟨Kv.empty, [], 0⟩, []⟩ trivial (.start 0)
  refine ⟨sampleId n, ?_, rfl⟩
  unfold sampleId
  split <;> decide

/-- The answers of the schedule, the latest first. -/
theorem idempotency_ledger_replay : sampleSystem.clients.map Client.ended
      = [some ("second", .replay (completeResponse [104, 105])), some ("third", .error .conflict),
        some ("second", .replay (completeResponse [104, 105])),
        some ("second", .error .inProgress), some ("first", .acquired)] ∧
    ∀ v id response, ⟨v, .pure (id, .replay response)⟩ ∈ sampleSystem.clients →
      ∃ id' body, Stores sampleRequests id' body ∧
        (sampleRequests id').fingerprint = (sampleRequests id).fingerprint ∧
        (∃ kv₁ kv₂, sampleSystem.world.Committed kv₁ (.succeed id') kv₂) ∧
        response = completeResponse body := by
  exact ⟨by decide +kernel, (idempotency_ledger sampleSha256Hex_ne (fun k => rfl)
    sampleSystem_reachable).2.2.2⟩

/-! ### A response is stored once -/

theorem LedgerMove.of_succeeded (h : LedgerMove requests l (some r) after)
    (hsta : r.state = .succeeded) : after = some r ∧ ∀ id, l ≠ .succeed id := by
  cases h with
  | chunk => exact ⟨rfl, nofun⟩
  | takeOver _ _ _ _ hres | dispatch _ _ _ _ hres => cases hsta.symm.trans hres
  | release _ _ _ hopen | succeed _ _ _ _ hopen | retire _ _ _ _ hopen =>
    rcases hopen with hopen | hopen <;> cases hsta.symm.trans hopen

/-- **The run**: one id succeeds at most. -/
theorem LedgerRun.succeeds_once (hw : LedgerRun sha256Hex requests w) :
    ∀ kv id kv', w.Committed kv (.succeed id) kv' →
      (∃ r, recordOf w.store = some r ∧ r.state = .succeeded) ∧
      ∀ kv₁ id' kv₁', w.Committed kv₁ (.succeed id') kv₁' → id' = id := by
  induction hw with
  | start kv₀ t => exact fun kv id kv' h => absurd h (World.not_committed_start kv₀ t _ _ _)
  | advance _ _ _ _ ih => exact ih
  | commit w l ws _ hstep ih =>
  intro kv id kv' h
  have hmove := hstep.move
  rcases (w.committed_commit_iff _ _ _ _ _).mp h with ⟨rfl, -, -⟩ | h
  · -- the first success
    refine ⟨?_, fun kv₁ id' kv₁' h' => ?_⟩
    · change ∃ r, recordOf (w.store.apply ws) = some r ∧ r.state = .succeeded
      generalize recordOf w.store = before, recordOf (w.store.apply ws) = after at hmove ⊢
      cases hmove with
      | succeed _ _ r' _ _ _ _ hsucc => exact ⟨r', rfl, hsucc⟩
    · rcases (w.committed_commit_iff _ _ _ _ _).mp h' with ⟨heq, -, -⟩ | h'
      · cases heq
        rfl
      · obtain ⟨⟨r, hr, hsta⟩, -⟩ := ih _ _ _ h'
        rw [hr] at hmove
        exact absurd rfl ((hmove.of_succeeded hsta).2 id)
  · obtain ⟨⟨r, hr, hsta⟩, honce⟩ := ih _ _ _ h
    rw [hr] at hmove
    obtain ⟨haft, hne⟩ := hmove.of_succeeded hsta
    refine ⟨⟨r, haft, hsta⟩, fun kv₁ id' kv₁' h' => ?_⟩
    rcases (w.committed_commit_iff _ _ _ _ _).mp h' with ⟨heq, -, -⟩ | h'
    · exact absurd heq.symm (hne id')
    · exact honce _ _ _ h'

/-- **All replays agree**: a record that has succeeded is never written again, and whatever requests
were given a replay, they were given the same response. -/
theorem replays_agree (hsha : ∀ text, sha256Hex text ≠ "") {kv : LedgerKv} (hstr : LedgerStart kv)
    {s : System LedgerKey LedgerValue LedgerLabel (String × AcquireResult)}
    (hs : Reachable clockOk (ledgerPrograms sha256Hex requests) kv s) :
    (∀ n m r, n ≤ m → m ≤ s.world.length → recordOf (s.world.storeAt n) = some r →
      r.state = .succeeded → recordOf (s.world.storeAt m) = some r) ∧
    ∀ v v' id id' response response', ⟨v, .pure (id, .replay response)⟩ ∈ s.clients →
      ⟨v', .pure (id', .replay response')⟩ ∈ s.clients → response = response' := by
  obtain ⟨hrun, hend⟩ := ledgerPrograms_reachable hsha hstr hs
  constructor
  · intro n m r hnm hm hr hsta
    refine hrun.storeAt_rel_storeAt (R := fun a b => recordOf a = some r → recordOf b = some r)
      (fun _ h => h) (fun _ _ _ h h' hr => h' (h hr)) (fun w l ws _ hstep hr => ?_) hnm hm hr
    have hmove := hstep.move
    rw [hr] at hmove
    exact (hmove.of_succeeded hsta).1
  · intro v v' id id' response response' hclt hclt'
    obtain ⟨by_, body, hbody, -, ⟨_, _, hcmt⟩, rfl⟩ := hend _ _ hclt
    obtain ⟨by', body', hbody', -, ⟨_, _, hcmt'⟩, rfl⟩ := hend _ _ hclt'
    obtain rfl := (hrun.succeeds_once _ _ _ hcmt).2 _ _ _ hcmt'
    rw [hbody.unique hbody']

/-- Two requests were given a replay. -/
theorem replays_agree_sample : (∃ r ∈ recordOf sampleSystem.world.store, r.state = .succeeded) ∧
    (sampleSystem.clients.map Client.ended).count
      (some ("second", .replay (completeResponse [104, 105]))) = 2 ∧
    ∀ v v' id id' response response', ⟨v, .pure (id, .replay response)⟩ ∈ sampleSystem.clients →
      ⟨v', .pure (id', .replay response')⟩ ∈ sampleSystem.clients → response = response' :=
  ⟨by decide +kernel, by decide +kernel,
    (replays_agree sampleSha256Hex_ne (fun _ => rfl) sampleSystem_reachable).2⟩

end UbqGateway.Embeddings
