import UbqGateway.Kernel.Drivers

/-!
# The transactions of the SQL driver

What the functions of `NativeAuthorityKernel` do to the tables.  The owner's operations write what
the programs against the key-value store write (`sqlAct_transaction`).  `_reclaimWindow` leaves no
expired reservation in the scope (`reclaimPages_run`), and `reserve` looks at a full window once
more after it (`reserve_transaction`).
-/

namespace UbqGateway.Kernel

open NativeAuthorityKernel

/-! ### Pages -/

/-- A page has the first entries after a key: an entry that is not on it comes after all of a full
page. -/
theorem pageFrom_spec (kv : KernelKv) (p : KvKey → Bool) (limit : ℕ) : ∀ after : Option KvKey,
      (∀ e ∈ pageFrom kv p limit after, kv.value e.1 = some e.2 ∧ p e.1 = true ∧
        ∀ a, after = some a → a < e.1) ∧
      ((pageFrom kv p limit after).map Prod.fst).Pairwise (· < ·) ∧
      ∀ key value, kv.value key = some value → p key = true → (∀ a, after = some a → a < key) →
        key ∈ (pageFrom kv p limit after).map Prod.fst ∨
          (pageFrom kv p limit after).length = limit ∧
            ∀ found ∈ (pageFrom kv p limit after).map Prod.fst, found < key := by
  induction limit with
  | zero =>
    intro after
    refine ⟨fun e he => (by cases he), List.Pairwise.nil, ?_⟩
    exact fun key value _ _ _ => .inr ⟨rfl, fun found hfd => by cases hfd⟩
  | succ _ ih =>
    intro after
    have hspec := kv.firstAfter_spec p after
    rw [pageFrom]
    cases hfst : kv.firstAfter p after with
    | none =>
      rw [hfst] at hspec
      refine ⟨fun e he => (by cases he), List.Pairwise.nil, fun key value hval hp haft => ?_⟩
      obtain ⟨e, he, -⟩ := Option.map_eq_some_iff.mp hval
      obtain ⟨a, ha, hle⟩ := hspec key e he hp
      exact absurd (haft a ha) (not_lt.mpr hle)
    | some first =>
      obtain ⟨head, entry⟩ := first
      rw [hfst] at hspec
      obtain ⟨hget, hp, haft, hlst⟩ := hspec
      obtain ⟨hmem, hsrt, hcover⟩ := ih (some head)
      dsimp only
      refine ⟨?_, ?_, ?_⟩
      · intro e he
        rcases List.mem_cons.mp he with rfl | htail
        · exact ⟨by rw [Kv.value, hget]; rfl, hp, haft⟩
        · obtain ⟨hval, hpe, hlt⟩ := hmem e htail
          exact ⟨hval, hpe, fun a ha => (haft a ha).trans (hlt head rfl)⟩
      · rw [List.map_cons, List.pairwise_cons]
        refine ⟨fun key hkey => ?_, hsrt⟩
        obtain ⟨e, he, rfl⟩ := List.mem_map.mp hkey
        exact (hmem e he).2.2 head rfl
      · intro key value hval hpk hlt
        obtain ⟨e, he, -⟩ := Option.map_eq_some_iff.mp hval
        rcases (hlst key e he hpk hlt).eq_or_lt with rfl | hhead
        · exact .inl List.mem_cons_self
        · rcases hcover key value hval hpk (by rintro _ ⟨⟩; exact hhead) with hin | ⟨hfull, hall⟩
          · exact .inl (List.mem_cons_of_mem _ hin)
          · refine .inr ⟨by rw [List.length_cons, hfull], fun found hfd => ?_⟩
            rcases List.mem_cons.mp hfd with rfl | htail
            · exact hhead
            · exact hall found htail

/-! ### Statements -/

section Statements

theorem run_bind_ok {f : α → SqlM β} (h : x.run state = .ok (a, state')) :
    (x >>= f).run state = (f a).run state' := by
  rw [StateT.run_bind, h]
  rfl

@[simp]
theorem run_sqlRead_bind (key : KvKey) (f : Option KernelValue → SqlM β) :
    (sqlRead key >>= f).run state = (f (state.rows.value key)).run state := rfl

@[simp]
theorem run_sqlWrite_bind (key : KvKey) (value : KernelValue) (f : Unit → SqlM β) :
    (sqlWrite key value >>= f).run state
      = (f ()).run { state with rows := state.rows.apply [.set key value] } := rfl

theorem run_readWindow_bind (h : Consistent state.rows) (identity : KernelQuotaIdentity)
    (f : Option KernelQuotaWindowV2 × Bool → SqlM β) : (readWindow identity >>= f).run state
      = (f (windowOf state.rows identity, (windowOf state.rows identity).isSome)).run state := by
  refine run_bind_ok ?_
  unfold readWindow
  rw [run_sqlRead_bind, h.normalizeWindow, h.value_window, Option.isSome_map]
  cases windowOf state.rows identity <;> rfl

end Statements

/-! ### The owner of a reservation, in a transaction -/

section Owner

variable (request : KernelQuotaReservationIdentity) (nowMs : ℤ)

/-- The transaction settles as the owner's writes do. -/
theorem settleRow_run (h : Consistent state.rows) (terminalState : TerminalState)
    (reason : String) : ∃ reply rows, (settleRow request terminalState reason nowMs).run state
        = .ok (reply, { state with rows := rows }) ∧
      rows.SameValues (applyIf state.rows (ownerWrites state.rows request nowMs
        (.settle terminalState reason))) := by
  unfold settleRow ownerWrites
  rw [run_sqlRead_bind, h.normalizeRow request]
  cases hrow : rowOf state.rows request.key with
  | none => exact ⟨_, state.rows, rfl, fun _ => rfl⟩
  | some row =>
    dsimp only
    cases hpre : kernelReservationPrecondition row request.requestId request.route
        request.windowCreatedAtMs terminalState with
    | some outcome =>
      rw [if_neg (by simp [Settles, hpre])]
      exact ⟨_, state.rows, rfl, fun _ => rfl⟩
    | none =>
      obtain ⟨-, hsta, -⟩ := kernelReservationPrecondition_eq_none.mp hpre
      obtain ⟨window, hplan, hwrs⟩ := decideKernelQuotaSettlement_spec request nowMs h
        terminalState reason hrow hsta
      rw [h.value_window, Option.isSome_map] at hplan
      have hsts : Settles request terminalState row := hpre
      rw [if_pos hsts, applyIf, ← hwrs]
      dsimp only
      rw [run_readWindow_bind h, hplan]
      have hkey : KvKey.reservation request.identity
          (settledKernelReservationRow row terminalState reason nowMs).windowCreatedAtMs
          (settledKernelReservationRow row terminalState reason nowMs).requestId = request.key := by
        have hset := settledKernelReservationRow_key row terminalState reason nowMs
        rw [(h.row_spec hrow).1] at hset
        obtain ⟨-, hcr, hid⟩ := KvKey.reservation.inj hset
        rw [hcr, hid]
        rfl
      unfold writeReservation
      dsimp only
      rw [hkey, run_sqlWrite_bind]
      cases window with
      | none => exact ⟨_, _, rfl, fun _ => rfl⟩
      | some window =>
        refine ⟨_, _, rfl, Kv.apply_apply_sameValues _ fun k => ?_⟩
        -- the row and the window have different keys
        by_cases hk : k = request.key
        · refine .inr (Kv.written_eq_none fun a ha => ?_)
          rw [List.mem_singleton.mp ha, hk]
          simp [Write.key, KernelQuotaReservationIdentity.key]
        · refine .inl (Kv.written_eq_none fun a ha => ?_)
          rw [List.mem_singleton.mp ha]
          exact Ne.symm hk

end Owner

/-! ### Reclaiming a scope -/

section Reclaim

theorem Expired.not_settled :
    ¬ Expired nowMs (settledKernelReservationRow row target reason clock) other := by
  intro hexp
  have hsta := (decideKernelQuotaReclaim_eq_some hexp).1
  rw [settledKernelReservationRow_state] at hsta
  cases target <;> cases hsta

theorem Reclaimed.eq_of_not_expired (h : Reclaimed clock key old new)
    (hlive : ∀ target, ¬ Expired clock old target) : new = old := by
  rcases h with rfl | ⟨target, reason, hexp, -⟩
  · rfl
  · exact absurd hexp (hlive target)

theorem Reclaimed.trans (h : Reclaimed clock key old mid) (h' : Reclaimed clock key mid new) :
    Reclaimed clock key old new := by
  rcases h with rfl | ⟨target, reason, hexp, rfl⟩
  · exact h'
  · rw [h'.eq_of_not_expired fun other => Expired.not_settled]
    exact .inr ⟨target, reason, hexp, rfl⟩

theorem Becomes.reclaimed_refl (h : Sound clock a) : Becomes (Reclaimed clock) clock a a := by
  refine ⟨h, .refl _, fun identity createdAtMs requestId => ?_⟩
  cases rowOf a (.reservation identity createdAtMs requestId) with
  | none => exact .none
  | some row => exact .some (.inl rfl)

theorem Becomes.reclaimed_trans (h : Becomes (Reclaimed clock) clock a b)
    (h' : Becomes (Reclaimed clock) clock b c) : Becomes (Reclaimed clock) clock a c := by
  refine ⟨h'.sound, h.frames.trans h'.frames, fun identity createdAtMs requestId => ?_⟩
  have hab := h.rows identity createdAtMs requestId
  have hbc := h'.rows identity createdAtMs requestId
  generalize rowOf a _ = ra at hab ⊢
  generalize rowOf b _ = rb at hab hbc
  generalize rowOf c _ = rc at hbc ⊢
  cases hab with
  | none => cases hbc; exact .none
  | some hab =>
    cases hbc with
    | some hbc => exact .some (hab.trans hbc)

theorem Becomes.congr (h : Becomes f clock a b) (heq : b.SameValues c) : Becomes f clock a c :=
  ⟨h.sound.congr heq, h.frames.trans (.of_sameValues heq), fun identity createdAtMs requestId =>
    by rw [← rowOf_congr heq]; exact h.rows identity createdAtMs requestId⟩

/-- The reservations of these keys have not expired. -/
def LiveAt (kv : KernelKv) (nowMs : ℤ) (p : KvKey → Prop) : Prop :=
  ∀ key row target, p key → rowOf kv key = some row → ¬ Expired nowMs row target

theorem LiveAt.reclaimed {p : KvKey → Prop} (h : LiveAt a nowMs p)
    (hp : ∀ key, p key → ∃ identity createdAtMs requestId,
      key = .reservation identity createdAtMs requestId)
    (hbec : Becomes (Reclaimed nowMs) nowMs a b) : LiveAt b nowMs p := by
  intro key row target hkey hrow
  obtain ⟨identity, createdAtMs, requestId, rfl⟩ := hp key hkey
  have hrel := hbec.rows identity createdAtMs requestId
  rw [hrow] at hrel
  generalize hold : rowOf a (.reservation identity createdAtMs requestId) = old at hrel
  cases hrel with
  | some hreclaimed =>
    have hlive := fun other => h _ _ other hkey hold
    rw [hreclaimed.eq_of_not_expired hlive]
    exact hlive target

theorem isReservationIn_eq_true (h : isReservationIn identity key = true) :
    ∃ createdAtMs requestId, key = .reservation identity createdAtMs requestId := by
  unfold isReservationIn at h
  split at h
  · exact ⟨_, _, by rw [of_decide_eq_true h]⟩
  · cases h

/-- The transaction reclaims an expired row. -/
theorem settleRow_reclaims (h : Sound nowMs state.rows) (hclk : ClockOk nowMs)
    (hrow : rowOf state.rows row.key = some row) (hexp : Expired nowMs row target) :
    ∃ reply rows, (settleRow ⟨row.identity, row.windowCreatedAtMs, row.requestId, row.route⟩ target
        "reservation_lease_expired" nowMs).run state = .ok (reply, { state with rows := rows }) ∧
      Becomes (Reclaimed nowMs) nowMs state.rows rows ∧
      LiveAt rows nowMs (· = row.key) ∧
      ∀ identity createdAtMs requestId, .reservation identity createdAtMs requestId ≠ row.key →
        rowOf rows (.reservation identity createdAtMs requestId)
          = rowOf state.rows (.reservation identity createdAtMs requestId) := by
  obtain ⟨reply, rows, hrun, heq⟩ := settleRow_run
    ⟨row.identity, row.windowCreatedAtMs, row.requestId, row.route⟩ nowMs h.consistent target
    "reservation_lease_expired"
  have hsts := hexp.settles row.identity
  have hwrs : ownerWrites state.rows
      ⟨row.identity, row.windowCreatedAtMs, row.requestId, row.route⟩ nowMs
      (.settle target "reservation_lease_expired")
      = some (settleWrites state.rows row target "reservation_lease_expired" nowMs) := by
    have hfd : rowOf state.rows (KernelQuotaReservationIdentity.key
        ⟨row.identity, row.windowCreatedAtMs, row.requestId, row.route⟩) = some row := hrow
    simp only [ownerWrites, hfd]
    exact if_pos hsts
  rw [hwrs] at heq
  have hkept : KeptReason "reservation_lease_expired" := .inr (by decide)
  have hbec := (Becomes.reclaim h hclk hrow hexp hkept).congr heq.symm
  refine ⟨reply, rows, hrun, hbec, ?_, ?_⟩
  · rintro _ found other rfl hfd
    rw [rowOf_congr heq] at hfd
    have hnew := (rowOf_settle state.rows row target "reservation_lease_expired" nowMs row.identity
      row.windowCreatedAtMs row.requestId).trans (if_pos rfl)
    cases hnew.symm.trans hfd
    exact Expired.not_settled
  · intro identity createdAtMs requestId hkey
    rw [rowOf_congr heq, applyIf, rowOf_settle, if_neg hkey]

/-- Reclaiming a page settles each of its expired rows, one after the other. -/
theorem reclaimPage_run (hclk : ClockOk nowMs) {page : List (KvKey × KernelValue)} :
    ∀ (state : SqlState) (count : ℕ), Sound nowMs state.rows →
      (∀ e ∈ page, state.rows.value e.1 = some e.2 ∧ isReservationIn identity e.1 = true) →
      (page.map Prod.fst).Pairwise (· < ·) →
      ∃ reclaimed rows, (reclaimPage identity nowMs page count).run state
          = .ok (reclaimed, { state with rows := rows }) ∧
        Becomes (Reclaimed nowMs) nowMs state.rows rows ∧
        LiveAt rows nowMs (· ∈ page.map Prod.fst) ∧ count ≤ reclaimed ∧
        (reclaimed = count → rows = state.rows) := by
  induction page with
  | nil =>
    intro state count h _ _
    exact ⟨count, state.rows, rfl, .reclaimed_refl h, fun key row target hkey => (by cases hkey),
      le_rfl, fun _ => rfl⟩
  | cons e page ih =>
    intro state count h hpage hsrt
    obtain ⟨key, value⟩ := e
    obtain ⟨hval, hin⟩ := hpage _ List.mem_cons_self
    obtain ⟨createdAtMs, requestId, rfl⟩ := isReservationIn_eq_true hin
    obtain ⟨row, rfl, hnrm, -⟩ := h.consistent.row _ _ _ _ hval
    have hrow := rowOf_eq_some.mpr hval
    have hkey := (h.consistent.row_spec hrow).1
    rw [List.map_cons, List.pairwise_cons] at hsrt
    have htail : ∀ e ∈ page, KvKey.reservation identity createdAtMs requestId < e.1 :=
      fun e he => hsrt.1 e.1 (List.mem_map_of_mem he)
    have hhead : ∀ key, key = KvKey.reservation identity createdAtMs requestId →
        ∃ identity createdAtMs requestId, key = .reservation identity createdAtMs requestId :=
      fun key hk => ⟨_, _, _, hk⟩
    simp only [reclaimPage, hnrm]
    cases htgt : decideKernelQuotaReclaim row nowMs with
    | none =>
      obtain ⟨reclaimed, rows, hrun, hbec, hlive, hle, hidle⟩ := ih state count h
        (fun e he => hpage e (List.mem_cons_of_mem _ he)) hsrt.2
      refine ⟨reclaimed, rows, hrun, hbec, ?_, hle, hidle⟩
      have hnot : LiveAt state.rows nowMs (· = .reservation identity createdAtMs requestId) := by
        rintro _ found target rfl hfd hexp
        cases hrow.symm.trans hfd
        rw [Expired, htgt] at hexp
        cases hexp
      intro found other target hmem
      rcases List.mem_cons.mp hmem with rfl | hmem
      · exact hnot.reclaimed hhead hbec _ _ _ rfl
      · exact hlive _ _ _ hmem
    | some target =>
      obtain ⟨hidt, _, _⟩ := KvKey.reservation.inj hkey
      obtain ⟨reply, rows, hrun, hbec, hlive, hfrm⟩ := settleRow_reclaims h hclk
        (by rw [hkey]; exact hrow) htgt
      rw [hidt] at hrun
      have hnext : ∀ e ∈ page, rows.value e.1 = some e.2 ∧ isReservationIn identity e.1 = true := by
        intro e he
        obtain ⟨hold, hine⟩ := hpage e (List.mem_cons_of_mem _ he)
        refine ⟨?_, hine⟩
        obtain ⟨otherAtMs, otherId, hoth⟩ := isReservationIn_eq_true hine
        have hne := (htail e he).ne'
        rw [hoth] at hold hne ⊢
        rw [hbec.sound.consistent.value_row, hfrm _ _ _ (by rw [hkey]; exact hne),
          ← h.consistent.value_row]
        exact hold
      obtain ⟨reclaimed, final, hruns, hthen, hlives, hle, -⟩ := ih { state with rows := rows }
        (count + 1) hbec.sound hnext hsrt.2
      refine ⟨reclaimed, final, ?_, hbec.reclaimed_trans hthen, ?_, by omega, by omega⟩
      · dsimp only
        rw [run_bind_ok hrun]
        exact hruns
      · intro found other otherTarget hmem
        rcases List.mem_cons.mp hmem with rfl | hmem
        · refine LiveAt.reclaimed (p := (· = row.key)) hlive ?_ hthen _ _ _ hkey.symm
          intro key hk
          exact ⟨_, _, _, hk⟩
        · exact hlives _ _ _ hmem

theorem Becomes.remaining_eq (h : Becomes f clock a b) (ha : Consistent a)
    (identity : KernelQuotaIdentity) (after : Option KvKey) :
    b.remaining (isReservationIn identity) after
      = a.remaining (isReservationIn identity) after := by
  unfold Kv.remaining
  rw [Kv.count_eq_card, Kv.count_eq_card]
  congr 1
  ext key
  rw [Kv.mem_matching, Kv.mem_matching, exists_and_right, exists_and_right]
  refine and_congr_left fun hp => ?_
  obtain ⟨createdAtMs, requestId, rfl⟩ := isReservationIn_eq_true (Bool.and_eq_true _ _ ▸ hp).1
  have hno := h.rowOf_eq_none_iff identity createdAtMs requestId
  rw [h.sound.consistent.value_row, ha.value_row]
  simp only [← Option.isSome_iff_exists, Option.isSome_map]
  rw [Bool.eq_iff_iff.symm, ← Bool.not_inj_iff, Option.not_isSome, Option.not_isSome,
    Bool.eq_iff_iff, Option.isNone_iff_eq_none, Option.isNone_iff_eq_none]
  exact hno

/-- **`_reclaimWindow`**, from a page on whose predecessors have no expired row. -/
theorem reclaimPages_run (hclk : ClockOk nowMs) {n : ℕ} :
    ∀ (state : SqlState) (after : Option KvKey) (count : ℕ), Sound nowMs state.rows →
      state.rows.remaining (isReservationIn identity) after < n →
      LiveAt state.rows nowMs (fun key =>
        isReservationIn identity key = true ∧ ∃ a, after = some a ∧ key ≤ a) →
      ∃ reclaimed rows, (reclaimPages identity nowMs n after count).run state
          = .ok (reclaimed, { state with rows := rows }) ∧
        Becomes (Reclaimed nowMs) nowMs state.rows rows ∧
        LiveAt rows nowMs (isReservationIn identity · = true) ∧
        count ≤ reclaimed ∧ (reclaimed = count → rows = state.rows) := by
  induction n with
  | zero => exact fun state after count _ hfuel => absurd hfuel (Nat.not_lt_zero _)
  | succ _ ih =>
    intro state after count h hfuel hpsd
    obtain ⟨hmem, hsrt, hcover⟩ := pageFrom_spec state.rows (isReservationIn identity) 100 after
    obtain ⟨reclaimed, rows, hrun, hbec, hlive, hle, hidle⟩ := reclaimPage_run hclk
      state count h
      (fun e he => ⟨(hmem e he).1, (hmem e he).2.1⟩) hsrt
    have hisrow : ∀ key, isReservationIn identity key = true →
        ∃ identity createdAtMs requestId, key = .reservation identity createdAtMs requestId :=
      fun key hin => ⟨identity, isReservationIn_eq_true hin⟩
    -- what has been passed before stays without an expired row
    have hbef := hpsd.reclaimed (fun key hkey => hisrow key hkey.1) hbec
    generalize hpage : pageFrom state.rows (isReservationIn identity) 100 after = page at *
    have hread : (sqlPage (isReservationIn identity) after 100).run state = .ok (page, state) := by
      rw [← hpage]
      rfl
    rw [reclaimPages, run_bind_ok hread, run_bind_ok hrun]
    -- a row of the scope has been passed, is on the page, or comes after a full page
    have hcs : ∀ key row, isReservationIn identity key = true →
        rowOf rows key = some row → (∃ a, after = some a ∧ key ≤ a) ∨ key ∈ page.map Prod.fst ∨
          page.length = 100 ∧ ∀ found ∈ page.map Prod.fst, found < key := by
      intro key row hin hrow
      by_cases hbehind : ∃ a, after = some a ∧ key ≤ a
      · exact .inl hbehind
      · refine .inr ?_
        obtain ⟨createdAtMs, requestId, rfl⟩ := isReservationIn_eq_true hin
        have hold : rowOf state.rows (.reservation identity createdAtMs requestId) ≠ none := by
          rw [Ne, ← hbec.rowOf_eq_none_iff, hrow]
          simp
        obtain ⟨old, hold⟩ := Option.ne_none_iff_exists'.mp hold
        exact hcover _ _ (rowOf_eq_some.mp hold) hin
          fun a ha => not_le.mp fun hkey => hbehind ⟨a, ha, hkey⟩
    split_ifs with hshrt
    · refine ⟨reclaimed, rows, rfl, hbec, ?_, hle, hidle⟩
      intro key row target hin hrow
      rcases hcs key row hin hrow with hbehind | honpage | ⟨hfull, -⟩
      · exact hbef _ _ _ ⟨hin, hbehind⟩ hrow
      · exact hlive _ _ _ honpage hrow
      · omega
    · have hne : page ≠ [] := by
        rintro rfl
        exact hshrt (by decide)
      obtain ⟨last, hlast⟩ : ∃ last, page.getLast? = some last :=
        ⟨_, List.getLast?_eq_some_getLast hne⟩
      have hlastmem := List.mem_of_getLast? hlast
      have hrem := hbec.remaining_eq h.consistent identity (some last.1)
      obtain ⟨hval, hin, haft⟩ := hmem last hlastmem
      obtain ⟨total, final, hruns, hthen, hlives, hletotal, hidles⟩ := ih
        { state with rows := rows } (some last.1) reclaimed hbec.sound (by
          dsimp only
          rw [hrem]
          exact Nat.lt_of_lt_of_le (Kv.remaining_lt hval hin haft) (Nat.le_of_lt_succ hfuel))
        (by
          rintro key row target ⟨hin, a, ⟨⟩, hkey⟩ hrow
          rcases hcs key row hin hrow with hbehind | honpage | ⟨-, hall⟩
          · exact hbef _ _ _ ⟨hin, hbehind⟩ hrow
          · exact hlive _ _ _ honpage hrow
          · exact absurd (hall last.1 (List.mem_map_of_mem hlastmem)) (not_lt.mpr hkey))
      rw [hlast]
      refine ⟨total, final, hruns, hbec.reclaimed_trans hthen, hlives, hle.trans hletotal, ?_⟩
      intro htot
      have heq : reclaimed = count := by omega
      rw [hidles (by omega), hidle heq]

end Reclaim

/-! ### Reserving -/

/-- A request as both drivers know it: the SQL driver by its handle, the key-value driver by what it
is for. -/
structure KernelClient where
  cap : NativeCapability
  handle : String
  owner : String
  repo : String
  requestId : String
  route : String
deriving DecidableEq

/-- The request is stored, with what the key-value driver is given. -/
structure Registered (client : KernelClient) (row : NativeRequest) : Prop where
  principal : row.principalId = client.cap.principalId
  key : row.keyId = client.cap.keyId
  binding : row.runtimeBindingId = client.cap.id
  applicable : row.kernelApplicable = true
  admitted : row.apiApplicable = true → row.api = true
  scope : client.cap.kernel = some (client.owner, client.repo)
  requestId : row.requestId = client.requestId
  route : row.route = client.route
  id_ne : client.requestId ≠ ""
  route_ne : client.route ≠ ""

/-- The SQL driver reclaims all expired rows of the scope. -/
def ReclaimAll (kv : KernelKv) (identity : KernelQuotaIdentity) (_createdAtMs nowMs : ℤ)
    (after : KernelKv) : Prop :=
  Becomes (Reclaimed nowMs) nowMs kv after ∧
    LiveAt after nowMs (isReservationIn identity · = true)

namespace NativeAuthorityKernel

/-- The reservation that an answer of `reserve` stands for. -/
def NativeReply.reservation : NativeReply → Option KernelQuotaReservationIdentity
  | .reserved row => some ⟨row.identity, row.windowCreatedAtMs, row.requestId, row.route⟩
  | _ => none

end NativeAuthorityKernel

section Reserve

theorem run_request_bind (hrow : state.requests.lookup client.handle = some row)
    (h : Registered client row) (f : NativeRequest → SqlM β) :
    (request client.cap client.handle >>= f).run state = (f row).run state := by
  refine run_bind_ok ?_
  have hget : (get : SqlM SqlState).run state = .ok (state, state) := rfl
  unfold request
  rw [run_bind_ok hget, hrow]
  dsimp only
  rw [if_neg (by simp [h.principal, h.key, h.binding])]
  rfl

theorem run_decideReserve_bind (h : Consistent state.rows) (request : NativeRequest)
    (f : KernelQuotaReservePlan → SqlM β) :
    (decideReserve identity effective request nowMs >>= f).run state
      = (f (decideKernelQuotaReserve identity effective
          (currentWindow state.rows identity effective.windowMs nowMs)
          (state.rows.value (.reservation identity
            (currentWindow state.rows identity effective.windowMs nowMs).createdAtMs
            request.requestId)) request.requestId request.route nowMs)).run state := by
  refine run_bind_ok ?_
  unfold decideReserve
  rw [run_readWindow_bind h]
  rfl

theorem reserveFrom_run (state : SqlState) (handle : String) (request : NativeRequest)
    (identity : KernelQuotaIdentity) (window : KernelQuotaWindowV2) (nowMs : ℤ) :
    ∃ rows, (reserveFrom handle request identity
        (.reserve (reservedRow identity window request.requestId request.route nowMs)
          (reservedWindow window nowMs))).run state
        = .ok (.reserved (reservedRow identity window request.requestId request.route nowMs),
          ⟨rows, state.requests.insert handle { request with
            kernel := some ⟨identity, window.createdAtMs, request.requestId, request.route⟩ }⟩) ∧
      rows.SameValues (state.rows.apply (reserveWrites identity window request.requestId
        request.route nowMs)) :=
  ⟨_, rfl, Kv.apply_append_sameValues _ _ _⟩

/-- The owner's action by its handle. -/
def sqlAct (client : KernelClient) (nowMs : ℤ) : OwnerAction →
    SqlM NativeAuthorityKernel.NativeReply
  | .intent terminalState =>
    intent client.cap client.handle terminalState nowMs
  | .settle terminalState reason =>
    settle client.cap client.handle terminalState reason nowMs
  | .renew => renew client.cap client.handle nowMs

theorem run_identityOf_bind (hrow : state.requests.lookup client.handle = some row)
    (h : Registered client row) {request : KernelQuotaReservationIdentity}
    (hker : row.kernel = some request) (f : KernelQuotaReservationIdentity → SqlM β) :
    (identityOf client.cap client.handle >>= f).run state = (f request).run state := by
  refine run_bind_ok ?_
  unfold identityOf
  rw [run_request_bind hrow h, hker]
  rfl

theorem run_identityOf_bind_error
    (hrow : state.requests.lookup client.handle = some row) (h : Registered client row)
    (hker : row.kernel = none) (f : KernelQuotaReservationIdentity → SqlM β) :
    (identityOf client.cap client.handle >>= f).run state
      = .error "kernel_reservation_missing" := by
  unfold identityOf
  rw [bind_assoc, run_request_bind hrow h, hker]
  rfl

theorem sqlAct_transaction_none (nowMs : ℤ) (hrow : state.requests.lookup client.handle = some row)
    (h : Registered client row) (hker : row.kernel = none) (action : OwnerAction) :
    ((sqlAct client nowMs action).transaction state).2 = state := by
  unfold SqlM.transaction sqlAct
  cases action with
  | intent =>
    dsimp only [intent]
    rw [run_identityOf_bind_error hrow h hker]
  | settle =>
    dsimp only [settle]
    rw [run_identityOf_bind_error hrow h hker]
  | renew =>
    dsimp only [renew]
    rw [run_identityOf_bind_error hrow h hker]

/-- **The SQL driver**: the owner's action does what it does against the key-value store. -/
theorem sqlAct_transaction (nowMs : ℤ) (hc : Consistent state.rows)
    (hrow : state.requests.lookup client.handle = some row) (h : Registered client row)
    {request : KernelQuotaReservationIdentity} (hker : row.kernel = some request)
    (action : OwnerAction) :
    ∃ rows, ((sqlAct client nowMs action).transaction state).2 = { state with rows := rows } ∧
      rows.SameValues (applyIf state.rows (ownerWrites state.rows request nowMs action)) := by
  have heq : ∀ found : KernelQuotaReservationRowV2, rowOf state.rows request.key = some found →
      ∀ intent, KvKey.reservation request.identity (leasedRow found intent nowMs).windowCreatedAtMs
        (leasedRow found intent nowMs).requestId = request.key := by
    intro found hfd intent
    obtain ⟨-, hcr, hid⟩ := KvKey.reservation.inj (hc.row_spec hfd).1
    simp only [leasedRow, hcr, hid, KernelQuotaReservationIdentity.key]
  unfold SqlM.transaction sqlAct
  cases action with
  | intent terminalState =>
    dsimp only [intent]
    rw [run_identityOf_bind hrow h hker, run_sqlRead_bind]
    rcases decideKernelQuotaTerminalIntent_spec request nowMs hc terminalState with
      ⟨found, hfd, hsts, hplan⟩ | ⟨outcome, -, hno, hplan⟩
    · rw [hplan]
      refine ⟨_, rfl, ?_⟩
      have hwrs : ownerWrites state.rows request nowMs (.intent terminalState)
          = some [.set request.key
            (.reservation (leasedRow found (some terminalState) nowMs))] := by
        simp [ownerWrites, hfd, hsts]
      rw [hwrs, heq found hfd]
      exact fun _ => rfl
    · rw [hplan, hno]
      exact ⟨_, rfl, fun _ => rfl⟩
  | settle terminalState reason =>
    dsimp only [settle]
    rw [run_identityOf_bind hrow h hker]
    obtain ⟨reply, rows, hrun, hvals⟩ := settleRow_run request nowMs hc terminalState reason
    rw [hrun]
    exact ⟨rows, rfl, hvals⟩
  | renew =>
    dsimp only [renew]
    rw [run_identityOf_bind hrow h hker, run_sqlRead_bind]
    rcases decideKernelQuotaRenewal_spec request nowMs hc with
      ⟨found, hfd, hrt, hsta, hplan⟩ | ⟨e, hno, hplan⟩
    · rw [hplan]
      refine ⟨_, rfl, ?_⟩
      have hwrs : ownerWrites state.rows request nowMs .renew
          = some [.set request.key
            (.reservation (leasedRow found found.terminalIntent nowMs))] := by
        simp [ownerWrites, hfd, hrt, hsta]
      rw [hwrs, heq found hfd]
      exact fun _ => rfl
    · rw [hplan, hno]
      exact ⟨_, rfl, fun _ => rfl⟩

def requestsAfter (requests : Record String NativeRequest) (handle : String)
    (request : NativeRequest) : Option KernelQuotaReservationIdentity → Record String NativeRequest
  | none => requests
  | some reservation => requests.insert handle { request with kernel := some reservation }

/-- The reservation of an eligible scope, with the reclaim before it. -/
theorem reserveEligible_run (h : Sound nowMs state.rows) (hclk : ClockOk nowMs)
    (heff : effectivePolicy state.rows identity = .ok effective) (handle : String)
    (request : NativeRequest) : ∃ reply rows after,
      (reserveEligible handle request identity effective nowMs).run state
        = .ok (reply, ⟨rows, requestsAfter state.requests handle request reply.reservation⟩) ∧
      ReserveIn ReclaimAll state.rows identity effective request.requestId request.route nowMs
        reply.reservation after ∧ rows.SameValues after := by
  unfold reserveEligible
  rw [run_decideReserve_bind h.consistent]
  rcases decideKernelQuotaReserve_cases identity effective h.consistent
      (currentWindow state.rows identity effective.windowMs nowMs) request.requestId request.route
      nowMs with ⟨hconf, refusal, hplan⟩ | ⟨hrow, hno, ⟨hroom, hplan⟩ | ⟨hfull, hplan⟩⟩
  · rw [hplan]
    exact ⟨.refused refusal, state.rows, state.rows, rfl, .conflict hconf, fun _ => rfl⟩
  · rw [hno, hplan]
    obtain ⟨rows, hrun, heq⟩ := reserveFrom_run state handle request identity
      (currentWindow state.rows identity effective.windowMs nowMs) nowMs
    exact ⟨_, rows, _, hrun, .reserve hrow hroom, heq⟩
  · rw [hno, hplan]
    dsimp only
    have hrem : state.rows.remaining (isReservationIn identity) none
        < state.rows.rows.entries.length + 1 := Nat.lt_succ_of_le (state.rows.count_le_length _)
    obtain ⟨reclaimed, rows, hrun, hbec, hlive, -, hidle⟩ := reclaimPages_run hclk
      state none 0 h hrem
      (by rintro key found target ⟨-, a, ⟨⟩, -⟩)
    have hrcl : (reclaimWindow identity nowMs).run state
        = .ok (reclaimed, { state with rows := rows }) := hrun
    rw [run_bind_ok hrcl]
    have hall : ReclaimAll state.rows identity
        (currentWindow state.rows identity effective.windowMs nowMs).createdAtMs nowMs rows :=
      ⟨hbec, hlive⟩
    split_ifs with hsome
    · rw [run_decideReserve_bind hbec.sound.consistent]
      have hcr := hbec.frames.currentWindow_createdAtMs h hbec.sound heff
      have hrowAfter : rowOf rows (.reservation identity
          (currentWindow rows identity effective.windowMs nowMs).createdAtMs request.requestId)
          = none := by
        rw [hcr, hbec.rowOf_eq_none_iff]
        exact hrow
      rcases decideKernelQuotaReserve_cases identity effective hbec.sound.consistent
          (currentWindow rows identity effective.windowMs nowMs) request.requestId request.route
          nowMs with ⟨hconf, -⟩ | ⟨-, hnoneAfter, ⟨hroom, hagn⟩ | ⟨hstll, hagn⟩⟩
      · exact absurd hrowAfter hconf
      · dsimp only
        rw [hnoneAfter, hagn]
        obtain ⟨final, hfin, heq⟩ := reserveFrom_run { state with rows := rows } handle
          request identity (currentWindow rows identity effective.windowMs nowMs) nowMs
        exact ⟨_, final, _, hfin, .reclaimed hrow hfull hall hroom, heq⟩
      · dsimp only
        rw [hnoneAfter, hagn]
        exact ⟨.full (currentWindow rows identity effective.windowMs nowMs) effective.limit, rows,
          rows, rfl, .full hrow hfull hall hstll, fun _ => rfl⟩
    · have heq := hidle (by omega)
      refine ⟨.full (currentWindow state.rows identity effective.windowMs nowMs) effective.limit,
        rows, rows, rfl, .full hrow hfull hall (by rw [heq]; exact hfull), fun _ => rfl⟩

/-- The reservation that a transaction of `reserve` made. -/
def sqlAdmitted : Except String NativeAuthorityKernel.NativeReply →
    Option KernelQuotaReservationIdentity
  | .ok reply => reply.reservation
  | .error _ => none

theorem scopeOf_eligibility {kv : KernelKv} {owner repo : String} {scope : KernelQuotaScope}
    {found : Bool} (h : decideKernelQuotaScope (kv.value (.policy (.repo owner repo)))
      (kv.value (.policy (.org owner))) owner repo = .ok (scope, found))
    (cutover : Option KernelValue) (defaults : KernelQuotaDefaults) (nowMs : ℤ) :
    ∃ snapshot, scopeOf owner repo (kv.value (.policy (.repo owner repo)))
        (kv.value (.policy (.org owner))) scope = (scope.identity owner repo, snapshot) ∧
      decideKernelQuotaEligibility (scope.identity owner repo)
          { snapshot with defaultCutover := cutover } defaults nowMs
        = decideKernelQuotaEligibility (scope.identity owner repo)
          ⟨kv.value (.policy (scope.identity owner repo)), none, cutover, none⟩ defaults nowMs := by
  rcases decideKernelQuotaScope_eq_ok h with ⟨rfl, hsome⟩ | ⟨rfl, hno⟩
  · refine ⟨_, rfl, decideKernelQuotaEligibility_of_expected _ ⟨fun _ => hsome, ?_⟩ _ _⟩
    rintro ⟨⟩
  · refine ⟨_, rfl, decideKernelQuotaEligibility_of_expected _ ⟨?_, fun _ => ?_⟩ _ _⟩
    · rintro ⟨⟩
    · simp [hno]

/-- **The SQL driver**: a reservation for a request that has none. -/
theorem reserve_transaction (h : Sound nowMs state.rows) (hclk : ClockOk nowMs)
    (hrow : state.requests.lookup client.handle = some row) (hreg : Registered client row)
    (hnew : row.kernel = none) : ∃ reply rows after,
      (reserve client.cap client.handle nowMs).transaction state = (reply,
        ⟨rows, requestsAfter state.requests client.handle row (sqlAdmitted reply)⟩) ∧
      Reserves ReclaimAll state.rows client.owner client.repo client.requestId client.route nowMs
        (sqlAdmitted reply) after ∧ rows.SameValues after := by
  unfold SqlM.transaction reserve
  rw [run_request_bind hrow hreg, if_neg (by simp [hreg.applicable]),
    if_neg (by rintro ⟨happlicable, hapi⟩; simp [hreg.admitted happlicable] at hapi), hreg.scope]
  dsimp only
  rw [if_neg (by simp [hnew]), run_sqlRead_bind, run_sqlRead_bind]
  unfold Reserves eligible
  cases hscp : decideKernelQuotaScope
      (state.rows.value (.policy (.repo client.owner client.repo)))
      (state.rows.value (.policy (.org client.owner))) client.owner client.repo with
  | error e => exact ⟨.error e, state.rows, state.rows, rfl, ⟨rfl, rfl⟩, fun _ => rfl⟩
  | ok plan =>
    obtain ⟨scope, found⟩ := plan
    obtain ⟨snapshot, hscopeOf, heligibility⟩ := scopeOf_eligibility hscp
      (state.rows.value .defaultWindowCutover) (defaultsOf state.rows) nowMs
    dsimp only
    rw [hscopeOf]
    dsimp only
    rw [run_sqlRead_bind]
    have hdef : defaults.run state = .ok (defaultsOf state.rows, state) := rfl
    rw [run_bind_ok hdef, heligibility]
    cases hplan : decideKernelQuotaEligibility (scope.identity client.owner client.repo)
        ⟨state.rows.value (.policy (scope.identity client.owner client.repo)), none,
          state.rows.value .defaultWindowCutover, none⟩ (defaultsOf state.rows) nowMs with
    | error e => exact ⟨.error e, state.rows, state.rows, rfl, ⟨rfl, rfl⟩, fun _ => rfl⟩
    | ok plan =>
      cases plan with
      | refused refusal =>
        exact ⟨.ok (.refused refusal), state.rows, state.rows, rfl, ⟨rfl, rfl⟩, fun _ => rfl⟩
      | eligible =>
        obtain ⟨reply, rows, after, hrun, hrsv, heq⟩ := reserveEligible_run h hclk
          (decideKernelQuotaEligibility_eq_eligible hplan).1 client.handle row
        rw [hreg.requestId, hreg.route] at hrsv
        refine ⟨.ok reply, rows, after, ?_, hrsv, heq⟩
        dsimp only
        rw [hrun]
        rfl

end Reserve

end UbqGateway.Kernel
