import UbqGateway.Paid.Guarantee

/-!
# The program that deletes

A deletion stores the guard, then looks for outstanding requests, and then lists and deletes the
rows of its key.  The transactions that delete check nothing.  Under the guard nothing of the key is
created, a row that was found closed stays closed, and a row that was not found stays absent, so
what each listing has found still holds when the rows are deleted.
-/

namespace UbqGateway.Paid

open ClientM

def Guarded (keyId : String) (kv : PaidKv) : Prop := (guardOf kv keyId).isSome = true

variable {v : PaidWorld}

theorem Guarded.le (h : Guarded keyId v.store) (hvw : v.Le w) (hw : PaidRun clockOk w) :
    Guarded keyId w.store :=
  hw.stable_le (P := Guarded keyId) (fun _ _ _ hstep hset => hstep.guard hset) hvw h

theorem KeyClosed.le (h : KeyClosed v.store keyId) (hvw : v.Le w) (hw : PaidRun clockOk w) :
    KeyClosed w.store keyId :=
  hw.stable_le (P := fun kv => KeyClosed kv keyId) (fun _ _ _ hstep hc => hc.step hstep) hvw h

theorem absent_of_absent (hw : PaidRun clockOk w) (hn₀ : n₀ ≤ n) (hn : n ≤ w.length)
    (hgd : Guarded keyId (w.storeAt n₀)) (hkey : key.rowOf keyId = true)
    (hno : (w.storeAt n).get key = none) : w.store.get key = none := by
  have hset := hw.stable (P := Guarded keyId) (fun _ _ _ hstep hset => hstep.guard hset) hn₀ hn
    hgd
  refine (hw.stable_store (P := fun kv => Guarded keyId kv ∧ kv.get key = none) ?_ hn
    ⟨hset, hno⟩).2
  exact fun v label writes hstep h => ⟨hstep.guard h.1, hstep.creates_nothing h.1 hkey h.2⟩

/-- What the guard's program ends with. -/
def GuardPost (keyId : String) (w : PaidWorld) : Except String Unit → Prop
  | .ok _ => Guarded keyId w.store
  | .error _ => True

theorem attemptDeletionGuard_wp :
    PaidWp clockOk (AttemptPost (fun _ => True) (GuardPost keyId)) (attemptDeletionGuard keyId) w :=
      by
  refine kvGet_bind fun u _ hu guardEntry hread => dateNow_bind fun v huv hv now _ => ?_
  split
  · next hplan =>
    unfold planPaidFallbackDeletionGuardV3 at hplan
    split_ifs at hplan with hset
    obtain ⟨n, -, hn, rfl⟩ := hread
    exact Guarded.le (PaidRun.stable_store (P := Guarded keyId)
      (fun _ _ _ hstep hset => hstep.guard hset) hu hn hset) huv hv
  · next guard hplan =>
    unfold planPaidFallbackDeletionGuardV3 at hplan
    split_ifs at hplan with hset
    refine kvCommit_bind (fun t hvt ht hpass => ⟨?_, ?_⟩) fun t _ _ => trivial
    · refine .deletionGuard keyId guard ?_
      rw [readIn_guardOf hread (huv.trans hvt) ht (hpass _ (by simp))]
      simpa using hset
    · show Guarded keyId _
      unfold Guarded guardOf
      rw [World.store_commit, get_apply_set, if_pos rfl]
      rfl

theorem countOutstanding_eq_zero (h : countOutstanding counts listed = (0, 0)) :
    counts = (0, 0) ∧ ∀ row, asRequest (some listed.2) = some row →
      isBillableRequestV3 row = false := by
  unfold countOutstanding at h
  split at h
  · next row hrow =>
    obtain ⟨hpend, hunr⟩ := Prod.mk.inj h
    refine ⟨Prod.ext (by omega) (by omega), fun row' hrow' => ?_⟩
    rw [hrow] at hrow'
    cases hrow'
    cases hbil : row.billingState <;> simp_all [isBillableRequestV3]
  · next hno =>
    refine ⟨h, fun row hrow => ?_⟩
    rw [hno] at hrow
    cases hrow

/-- What was counted of a guarded key, up to the request key `a`. -/
def CountedTo (keyId : String) (w : PaidWorld) (a : Option PaidKey) (counts : ℕ × ℕ) : Prop :=
  Guarded keyId w.store ∧ (counts = (0, 0) → ∀ requestId,
    (∃ b, a = some b ∧ PaidKey.request keyId requestId ≤ b) → NotBillable w.store keyId requestId)

theorem notBillable_of_absent (h : kv.get (.request keyId requestId) = none) :
    NotBillable kv keyId requestId := by
  intro row hrow
  unfold requestOf at hrow
  rw [h] at hrow
  cases hrow

/-- A count that finds nothing outstanding behind the guard finds the key closed. -/
theorem countRequests_wp (hgd : Guarded keyId w.store) :
    PaidWp clockOk (fun v result => result = .ok (0, 0) → KeyClosed v.store keyId)
      (kvFold (isRequestOf keyId) countOutstanding fuel .start (0, 0)) w := by
  refine kvFold_wp (fun v a counts => w.Le v ∧ CountedTo keyId v a counts) w.length
    ?_ ?_ ?_ ?_ fuel .start (0, 0) w le_rfl le_rfl ⟨World.Le.refl w, hgd, ?_⟩
  · rintro v v' a counts ⟨hle, hset, hctd⟩ hvv' hv'
    refine ⟨hle.trans hvv', hset.le hvv' hv', fun hzero requestId hup => ?_⟩
    exact (Closed.le (k := keyId) ⟨fun _ => hset, hctd hzero requestId hup⟩ hvv' hv').2
  · rintro v n a counts key entry hv hwn hn ⟨hle, hset, hctd⟩ ⟨hent, hkey, -, hlst⟩
    refine ⟨hle, hset, fun hzero requestId hup => ?_⟩
    obtain ⟨hcnts, hlisted⟩ := countOutstanding_eq_zero hzero
    obtain ⟨_, hb, hleKey⟩ := hup
    cases hb
    by_cases hbef : ∃ b, a = some b ∧ PaidKey.request keyId requestId ≤ b
    · exact hctd hcnts requestId hbef
    · have haft : ∀ b, a = some b → b < PaidKey.request keyId requestId := by
        intro b hb
        exact not_le.mp fun hle => hbef ⟨b, hb, hle⟩
      rw [← hle.storeAt_length_eq] at hgd
      cases hget : (v.storeAt n).get (.request keyId requestId) with
      | none =>
        refine notBillable_of_absent (absent_of_absent hv hwn hn hgd ?_ hget)
        simp [PaidKey.rowOf]
      | some found =>
        -- the row that was listed is closed, and stays so
        obtain rfl := le_antisymm hleKey (hlst _ _ hget (by simp [isRequestOf]) haft)
        rw [hent] at hget
        cases hget
        have hset' := PaidRun.stable (P := Guarded keyId)
          (fun _ _ _ hstep hset => hstep.guard hset) hv hwn hn hgd
        refine (PaidRun.stable_store (P := fun kv => Closed kv keyId requestId)
          (fun _ _ _ hstep hc => hc.step hstep) hv hn ⟨fun _ => hset', fun row hrow => ?_⟩).2
        unfold requestOf at hrow
        rw [hent] at hrow
        exact hlisted row hrow
  · rintro v n a counts hv hwn hn ⟨hle, hset, hctd⟩ hfst hzero
    refine ⟨hset, fun requestId => ?_⟩
    rw [← hle.storeAt_length_eq] at hgd
    cases hget : (v.storeAt n).get (.request keyId requestId) with
    | none =>
      refine notBillable_of_absent (absent_of_absent hv hwn hn hgd ?_ hget)
      simp [PaidKey.rowOf]
    | some found =>
      exact hctd (Except.ok.inj hzero) requestId (hfst _ _ hget (by simp [isRequestOf]))
  · rintro v e ⟨⟩
  · rintro - requestId ⟨b, hb, -⟩
    cases hb

/-- What a count of what is outstanding ends with. -/
def OutstandingPost (keyId : String) (w : PaidWorld) :
    Except String PaidFallbackOutstandingV3 → Prop
  | .ok outstanding => outstanding.hasOutstanding = false → KeyClosed w.store keyId
  | .error _ => True

theorem getPaidFallbackOutstandingV3_wp (hgd : Guarded keyId w.store) :
    PaidWp clockOk (OutstandingPost keyId) (getPaidFallbackOutstandingV3 fuel keyId) w := by
  refine Wp.seq (countRequests_wp hgd) (fun u counts _ hcnts => ?_) fun _ _ _ _ => trivial
  have hcl : ∀ v v' : PaidWorld, (counts = (0, 0) → KeyClosed v.store keyId) → v.Le v' →
      PaidRun clockOk v' → counts = (0, 0) → KeyClosed v'.store keyId :=
    fun v v' hv hle hv' hzero => (hv hzero).le hle hv'
  refine Wp.seq (Wp.frame hcl (fun hzero => hcnts (by rw [hzero]))
    (Guarantees.kvFold _ _ _ _ _)) (fun v markers _ hv hno => hv.1 ?_) fun _ _ _ _ => trivial
  simp only [PaidFallbackOutstandingV3.hasOutstanding, Bool.or_eq_false_iff,
    decide_eq_false_iff_not, not_lt, Nat.le_zero] at hno
  exact Prod.ext hno.1.1 hno.1.2

/-- The keys of a listing of rows of a guarded key: those that satisfy `p`, and all that are
stored. -/
def ListedKeys (keyId : String) (p : PaidKey → Bool) (w : PaidWorld) (keys : List PaidKey) : Prop :=
  (∀ key ∈ keys, p key = true) ∧ ∀ key, key.rowOf keyId = true → p key = true →
    key ∈ keys ∨ w.store.get key = none

/-- The listing finds every row that is stored behind the guard. -/
theorem kvListKeys_wp (hgd : Guarded keyId w.store) :
    PaidWp clockOk (fun v result => ∀ keys, result = .ok keys → ListedKeys keyId p v keys)
      (kvListKeys p fuel) w := by
  refine kvFold_wp (fun v a keys => w.Le v ∧ (∀ key ∈ keys, p key = true) ∧
    ∀ key, key.rowOf keyId = true → p key = true → (∃ b, a = some b ∧ key ≤ b) →
      key ∈ keys ∨ v.store.get key = none) w.length ?_ ?_ ?_ ?_ fuel .start [] w le_rfl le_rfl
    ⟨World.Le.refl w, by simp, ?_⟩
  · rintro v v' a keys ⟨hle, hkeys, hup⟩ hvv' hv'
    refine ⟨hle.trans hvv', hkeys, fun key hrow hkey hbef => ?_⟩
    refine (hup key hrow hkey hbef).imp id fun hno => ?_
    rw [← hvv'.storeAt_length_eq] at hno
    rw [← (hle.trans hvv').storeAt_length_eq] at hgd
    exact absent_of_absent hv' hle.length_le hvv'.length_le hgd hrow hno
  · rintro v n a keys key entry hv hwn hn ⟨hle, hkeys, hup⟩ ⟨hent, hp, -, hlst⟩
    refine ⟨hle, fun j hj => ?_, fun j hrow hj hbef => ?_⟩
    · rcases List.mem_append.mp hj with hj | hj
      · exact hkeys j hj
      · obtain rfl := List.mem_singleton.mp hj
        exact hp
    · obtain ⟨_, hb, hleKey⟩ := hbef
      cases hb
      by_cases hlisted : ∃ b, a = some b ∧ j ≤ b
      · exact (hup j hrow hj hlisted).imp (List.mem_append_left _) id
      · have haft : ∀ b, a = some b → b < j := by
          intro b hb
          exact not_le.mp fun hle => hlisted ⟨b, hb, hle⟩
        rw [← hle.storeAt_length_eq] at hgd
        cases hget : (v.storeAt n).get j with
        | none => exact .inr (absent_of_absent hv hwn hn hgd hrow hget)
        | some found =>
          obtain rfl := le_antisymm hleKey (hlst _ _ hget hj haft)
          exact .inl (List.mem_append_right _ List.mem_cons_self)
  · rintro v n a keys hv hwn hn ⟨hle, hkeys, hup⟩ hfst _ hok
    cases hok
    refine ⟨hkeys, fun key hrow hkey => ?_⟩
    rw [← hle.storeAt_length_eq] at hgd
    cases hget : (v.storeAt n).get key with
    | none => exact .inr (absent_of_absent hv hwn hn hgd hrow hget)
    | some found => exact hup key hrow hkey (hfst _ _ hget hkey)
  · rintro v e keys ⟨⟩
  · rintro key - - ⟨b, hb, -⟩
    cases hb

/-- The rows of the key that are stored are among `keys`. -/
def StoredAmong (keyId : String) (keys : List PaidKey) (w : PaidWorld) : Prop :=
  KeyClosed w.store keyId ∧ ∀ key, key.rowOf keyId = true → key ∈ keys ∨ w.store.get key = none

theorem StoredAmong.le (h : StoredAmong keyId keys v) (hvw : v.Le w) (hw : PaidRun clockOk w) :
    StoredAmong keyId keys w := by
  refine ⟨h.1.le hvw hw, fun key hrow => (h.2 key hrow).imp id fun hno => ?_⟩
  have hset : Guarded keyId v.store := h.1.1
  rw [← hvw.storeAt_length_eq] at hno hset
  exact absent_of_absent hw le_rfl hvw.length_le hset hrow hno

/-- What a deletion that succeeds ends with: the key is guarded, and none of its rows is stored. -/
def Erased (keyId : String) (kv : PaidKv) : Prop :=
  Guarded keyId kv ∧ ∀ key : PaidKey, key.rowOf keyId = true → kv.get key = none

/-- Deleting what is listed erases the key. -/
theorem deleteLoop_wp : ∀ {keys : List PaidKey} {w : PaidWorld}, keys.length ≤ n →
    (∀ key ∈ keys, key.belongsTo keyId) → StoredAmong keyId keys w →
    PaidWp clockOk (fun v result => result = .ok () → Erased keyId v.store)
      (deleteLoop keyId n keys) w := by
  induction n with
  | zero =>
    intro keys w hlen hkeys hw _
    obtain rfl := List.length_eq_zero_iff.mp (Nat.le_zero.mp hlen)
    exact ⟨hw.1.1, fun key hrow => (hw.2 key hrow).resolve_left List.not_mem_nil⟩
  | succ n ih =>
    intro keys w hlen hkeys hw
    unfold deleteLoop
    split_ifs with hnil
    · intro _
      subst hnil
      exact ⟨hw.1.1, fun key hrow => (hw.2 key hrow).resolve_left List.not_mem_nil⟩
    · refine kvCommit_bind (fun v hwv hv _ => ⟨?_, ?_⟩) fun v _ _ h => by cases h
      · have hcl := hw.1.le hwv hv
        exact .delete keyId (keys.take 100) hcl.1 hcl.2
          fun key hmem => hkeys key (List.mem_of_mem_take hmem)
      · have hstep : PaidStep clockOk v (.delete keyId) ((keys.take 100).map .delete) :=
          .delete keyId (keys.take 100) (hw.1.le hwv hv).1 (hw.1.le hwv hv).2
            fun key hmem => hkeys key (List.mem_of_mem_take hmem)
        have hlen' : (keys.drop 100).length ≤ n := by
          rw [List.length_drop]
          have hpos := List.length_pos_iff.mpr hnil
          omega
        refine ih hlen' (fun key hmem => hkeys key (List.mem_of_mem_drop hmem)) ?_
        refine ⟨(hw.1.le hwv hv).step hstep, fun key hrow => ?_⟩
        rw [World.store_commit, get_apply_delete]
        rcases (hw.le hwv hv).2 key hrow with hmem | hno
        · rw [← List.take_append_drop 100 keys, List.mem_append] at hmem
          rcases hmem with hmem | hmem
          · exact .inr (if_pos hmem)
          · exact .inl hmem
        · refine .inr ?_
          rw [hno]
          split_ifs <;> rfl

def DeletionPost (keyId : String) (w : PaidWorld) : Except String PaidFallbackDeletionV3 → Prop
  | .ok (.deleted _ _ _ _) => Erased keyId w.store
  | _ => True

/-- The listings that a deletion has made of a closed key. -/
def Listings (keyId : String) (lists : List ((PaidKey → Bool) × List PaidKey)) (w : PaidWorld) :
    Prop :=
  KeyClosed w.store keyId ∧ ∀ list ∈ lists, ListedKeys keyId list.1 w list.2

theorem Listings.le (h : Listings keyId lists v) (hvw : v.Le w) (hw : PaidRun clockOk w) :
    Listings keyId lists w := by
  refine ⟨h.1.le hvw hw, fun list hmem => ⟨(h.2 list hmem).1, fun key hrow hkey => ?_⟩⟩
  refine ((h.2 list hmem).2 key hrow hkey).imp id fun hno => ?_
  have hset : Guarded keyId v.store := h.1.1
  rw [← hvw.storeAt_length_eq] at hno hset
  exact absent_of_absent hw le_rfl hvw.length_le hset hrow hno

theorem kvListKeys_bind {f : List PaidKey → PaidM PaidFallbackDeletionV3}
    (h : Listings keyId lists w) (hf : ∀ v keys, Listings keyId ((p, keys) :: lists) v →
      PaidWp clockOk (DeletionPost keyId) (f keys) v) :
    PaidWp clockOk (DeletionPost keyId) (kvListKeys p fuel >>= f) w := by
  refine Wp.seq (Wp.frame (fun _ _ hv hle hrun => Listings.le hv hle hrun) h
    (kvListKeys_wp h.1.1)) (fun v keys _ hv => hf v keys ⟨hv.1.1, fun list hmem => ?_⟩)
    fun _ _ _ _ => trivial
  rcases List.mem_cons.mp hmem with rfl | hmem
  · exact hv.2 keys rfl
  · exact hv.1.2 list hmem

/-- A closed key is erased by the deletion of its rows. -/
theorem deletePaidFallbackRows_wp (hcl : KeyClosed w.store keyId) :
    PaidWp clockOk (DeletionPost keyId) (deletePaidFallbackRows fuel keyId) w := by
  have hstr : Listings keyId [] w := ⟨hcl, by simp⟩
  refine kvListKeys_bind hstr fun u requestKeys hu => ?_
  refine kvListKeys_bind hu fun u windowKeys hu => kvListKeys_bind hu fun u pendingKeys hu => ?_
  refine kvGet_bind fun v huv hv lease _ => ?_
  obtain ⟨hcl', hlists⟩ := hu.le huv hv
  have hpend := hlists (isPendingOf keyId, pendingKeys) (by simp)
  have hwins := hlists (isWindowOf keyId, windowKeys) (by simp)
  have hreqs := hlists (isRequestOf keyId, requestKeys) (by simp)
  dsimp only
  refine Wp.seq (deleteLoop_wp le_rfl (fun key hmem => ?_) ⟨hcl', fun key hrow => ?_⟩)
    (fun t _ _ ht => ht rfl) fun _ _ _ _ => trivial
  · simp only [List.mem_append] at hmem
    rcases hmem with ((hmem | hmem) | hmem) | hmem
    · have hkey := hreqs.1 key hmem
      cases key <;> simp_all [isRequestOf, PaidKey.belongsTo]
    · have hkey := hwins.1 key hmem
      cases key <;> simp_all [isWindowOf, PaidKey.belongsTo]
    · have hkey := hpend.1 key hmem
      cases key <;> simp_all [isPendingOf, PaidKey.belongsTo]
    · split_ifs at hmem
      · obtain rfl := List.mem_singleton.mp hmem
        rfl
      · cases hmem
  · simp only [List.mem_append]
    cases key with
    | request => exact (hreqs.2 _ hrow hrow).imp (fun h => .inl (.inl (.inl h))) id
    | window => exact (hwins.2 _ hrow hrow).imp (fun h => .inl (.inl (.inr h))) id
    | pending => exact (hpend.2 _ hrow hrow).imp (fun h => .inl (.inr h)) id
    | _ => cases hrow

/-- **A deletion that succeeds leaves nothing of the key.** -/
theorem deletePaidFallbackStateV3_wp :
    PaidWp clockOk (DeletionPost keyId) (deletePaidFallbackStateV3 fuel keyId) w := by
  refine Wp.seq (retrying_wp (R := fun _ => True) (Q := GuardPost keyId)
    (fun _ _ => attemptDeletionGuard_wp) (fun _ _ => by trivial) maxCasAttempts w trivial)
    (fun u _ _ hu => ?_) fun _ _ _ _ => trivial
  refine Wp.seq (getPaidFallbackOutstandingV3_wp hu) (fun v outstanding _ hv => ?_)
    fun _ _ _ _ => trivial
  split_ifs with houtstanding
  · trivial
  · exact deletePaidFallbackRows_wp (hv (Bool.eq_false_iff.mpr houtstanding))

end UbqGateway.Paid
