import UbqGateway.ApiKey.Runs

/-!
# The accounts of the usage ledger over a run

`Accounted now s log` is the invariant of the runs on a clock that does not go back.  Next to the
ledger of the present it says what the log has left behind: a window has not spent more than its
last admission allowed (`Allowance`), a request that was committed is not reserved again before its
row has expired (`Consumed`), and a request goes by one handle.
-/

namespace UbqGateway.ApiKey

open NativeAuthorityApi

/-! ### What charges leave behind -/

/-- The requests that a window counts. -/
def ApiKeyUsageWindowV3.spent (window : ApiKeyUsageWindowV3) : ℤ :=
  window.committedRequests + window.reservedRequests

/-- The row of a request is past its reservation, and is kept until `bound`. -/
def Consumed (now : ℤ) (requests : Table ApiRequestKey ApiKeyUsageRequestV3) (key : ApiRequestKey)
    (bound : ℤ) : Prop :=
  bound ≤ now ∨ ∃ stored, requests.lookup key = some stored ∧ stored.value.state ≠ .reserved ∧
    bound ≤ stored.expiresAtMs

section Charges

variable {charge : Charge}

theorem Charged.last (h : Charged now s (charge :: charges) s') :
    ∃ s₁ plan, Charged now s charges s₁ ∧ charge.Allowed now s₁ plan ∧
      s'.windows = (s₁.charged charge.policy plan now).windows ∧
      s'.requests = (s₁.charged charge.policy plan now).requests := by
  generalize hall : charge :: charges = all at h
  induction h with
  | refl => cases hall
  | charge _ plan h halw =>
    cases hall
    exact ⟨_, plan, h, halw, rfl, rfl⟩
  | other _ hwins hreqs ih =>
    obtain ⟨s₁, plan, hchd, halw, hw, hr⟩ := ih hall
    exact ⟨s₁, plan, hchd, halw, hwins.trans hw, hreqs.trans hr⟩

theorem charged_lookup (halw : charge.Allowed now s plan) (key : ApiRequestKey) :
    (s.charged charge.policy plan now).requests.lookup key
      = if key = charge.key then some ⟨plan.request, now + plan.expireIn⟩
        else s.requests.lookup key := by
  unfold SqlState.charged Table.write
  rw [charge_key halw]
  exact Record.lookup_insert _ _ _ _

theorem charged_window (halw : charge.Allowed now s plan) (w : ApiWindowKey) :
    (s.charged charge.policy plan now).windows.read w now
      = if w = windowKey charge.policy then some plan.window else s.windows.read w now := by
  have hlive : now < now + plan.expireIn := by
    rw [charge_expiry halw]
    omega
  unfold SqlState.charged
  rw [Table.read_write, if_pos hlive]

/-- A request that was consumed is charged again only by a cancellation, or after its row has
expired. -/
theorem Consumed.charged (hled : Ledger now s) (halw : charge.Allowed now s plan)
    (h : Consumed now s.requests key bound) :
    Consumed now (s.charged charge.policy plan now).requests key bound := by
  rcases h with hpast | ⟨stored, hlk, hsta, hbd⟩
  · exact .inl hpast
  by_cases hkey : key = charge.key
  · subst hkey
    by_cases hlive : now < stored.expiresAtMs
    · have hread : s.requests.read charge.key now = some stored.value :=
        Table.read_eq_some.mpr ⟨stored.expiresAtMs, hlk, hlive⟩
      have hsrc : some stored.value.state = charge.kind.source := by
        rw [← halw.row, hread]
        rfl
      have htgt : charge.kind.target ≠ .reserved := by
        cases hkind : charge.kind with
        | reserve =>
          rw [hkind] at hsrc
          cases hsrc
        | _ => exact UsageState.noConfusion
      -- the row that is seen expires when the charge does
      obtain ⟨base, hbase, -⟩ := halw.base
      have hexpiry : stored.expiresAtMs = now + plan.expireIn :=
        ((hled.base halw hbase).2.2 charge.key stored hlk rfl).resolve_left
          (not_le.mpr hlive)
      refine .inr ⟨⟨plan.request, now + plan.expireIn⟩, ?_, ?_, ?_⟩
      · rw [charged_lookup halw, if_pos rfl]
      · show plan.request.state ≠ .reserved
        rw [halw.state]
        exact htgt
      · show bound ≤ now + plan.expireIn
        rw [← hexpiry]
        exact hbd
    · exact .inl (hbd.trans (not_lt.mp hlive))
  · refine .inr ⟨stored, ?_, hsta, hbd⟩
    rw [charged_lookup halw, if_neg hkey]
    exact hlk

theorem Consumed.after_charges (hled : Ledger now s) (hchd : Charged now s charges s')
    (h : Consumed now s.requests key bound) : Consumed now s'.requests key bound := by
  induction hchd with
  | refl => exact h
  | charge _ _ hchd halw ih => exact ih.charged (hled.charges hchd) halw
  | other _ _ hreqs ih =>
    rw [hreqs]
    exact ih

theorem consumed_of_dispatch (halw : charge.Allowed now s plan) (hkind : charge.kind = .dispatch) :
    Consumed now (s.charged charge.policy plan now).requests charge.key
      (charge.policy.usageResetAtMs + retentionMs) := by
  refine .inr ⟨⟨plan.request, now + plan.expireIn⟩, ?_, ?_, ?_⟩
  · rw [charged_lookup halw, if_pos rfl]
  · show plan.request.state ≠ .reserved
    rw [halw.state, hkind]
    exact UsageState.noConfusion
  · show charge.policy.usageResetAtMs + retentionMs ≤ now + plan.expireIn
    rw [charge_expiry halw]
    exact le_max_right _ _

theorem Consumed.bound_le_of_dispatch (h : Consumed now s.requests charge.key bound)
    (halw : charge.Allowed now s plan) (hkind : charge.kind = .dispatch) : bound ≤ now := by
  rcases h with hpast | ⟨stored, hlk, hsta, -⟩
  · exact hpast
  · have hrow := halw.row
    unfold Table.read at hrow
    rw [hlk, Option.bind_some, hkind] at hrow
    unfold Table.seen at hrow
    split_ifs at hrow
    · exact absurd (Option.some.inj hrow) hsta
    · cases hrow

theorem Charge.Allowed.spent_le (halw : charge.Allowed now s plan)
    (hkind : charge.kind ≠ .reserve)
    (h : (s.charged charge.policy plan now).windows.read w now = some window') :
    ∃ window, s.windows.read w now = some window ∧ window'.spent ≤ window.spent := by
  rw [charged_window halw] at h
  split_ifs at h with hw
  · cases h
    obtain ⟨base, hbase, hmvd⟩ := halw.base
    have hread : s.windows.read w now = some base := by
      rcases hbase.seen with hread | ⟨-, hrsv, -⟩
      · rw [hw, hread]
      · exact absurd hrsv hkind
    refine ⟨base, hread, ?_⟩
    rw [hmvd]
    unfold ApiKeyUsageWindowV3.spent moved
    cases hcase : charge.kind with
    | reserve => exact absurd hcase hkind
    | _ =>
      simp [weight, ChargeKind.source, ChargeKind.target]
  · exact ⟨window', h, le_rfl⟩

theorem Charged.spent_le (h : Charged now s charges s')
    (hkinds : ∀ charge ∈ charges, charge.kind ≠ .reserve) :
    ∀ {w : ApiWindowKey} {window' : ApiKeyUsageWindowV3}, s'.windows.read w now = some window' →
      ∃ window, s.windows.read w now = some window ∧ window'.spent ≤ window.spent := by
  induction h with
  | refl => exact fun hread => ⟨_, hread, le_rfl⟩
  | charge charge _ _ halw ih =>
    intro w window' hread
    obtain ⟨window₁, hread₁, hle₁⟩ := halw.spent_le (hkinds charge List.mem_cons_self) hread
    obtain ⟨window, hread, hle⟩ := ih (fun c hmem => hkinds c (List.mem_cons_of_mem _ hmem)) hread₁
    exact ⟨window, hread, hle₁.trans hle⟩
  | other _ hwins _ ih =>
    intro w window' hread
    rw [hwins] at hread
    exact ih hkinds hread

theorem Charge.Allowed.spent_le_limit (halw : charge.Allowed now s plan)
    (hkind : charge.kind = .reserve) : charge.policy.usageLimitRequests = -1 ∨
      plan.window.spent ≤ charge.policy.usageLimitRequests := by
  obtain ⟨base, hbase, hmvd⟩ := halw.base
  refine (hbase.limit hkind).imp_right fun hlt => ?_
  have hspt : plan.window.spent = base.committedRequests + base.reservedRequests + 1 := by
    rw [hmvd, hkind]
    simp only [ApiKeyUsageWindowV3.spent, moved, weight, ChargeKind.source, ChargeKind.target]
    simp [add_assoc]
  rw [hspt]
  omega

end Charges

/-! ### The invariant of the runs -/

/-- The limit of a key was higher before than `limit`. -/
def LoweredTo (before : List Announcement) (keyId : String) (limit : ℤ) : Prop :=
  ∃ b ∈ before, ∃ earlier, b.inForce = some earlier ∧ earlier.keyId = keyId ∧
    (earlier.usageLimitRequests = -1 ∨ limit < earlier.usageLimitRequests)

def Announcement.Admits (a : Announcement) (w : ApiWindowKey) : Prop :=
  a.charge.kind = .reserve ∧ windowKey a.charge.policy = w

/-- What the window `w` may have spent: the limit that was in force at its last admission, unless
there was none or the limit had been lowered before. -/
def Allowance (log : List Announcement) (w : ApiWindowKey) (spent : ℤ) : Prop :=
  ∃ later a before source, log = later ++ a :: before ∧ (∀ b ∈ later, ¬ b.Admits w) ∧ a.Admits w ∧
    a.inForce = some source ∧ source.keyId = w.keyId ∧
    (source.usageLimitRequests = -1 ∨ spent ≤ source.usageLimitRequests ∨
      LoweredTo before w.keyId source.usageLimitRequests)

theorem Allowance.mono (h : Allowance log w spent) (hle : spent' ≤ spent) :
    Allowance log w spent' := by
  obtain ⟨later, a, before, source, hlog, hlat, hadm, hsrc, hkey, hlmt⟩ := h
  exact ⟨later, a, before, source, hlog, hlat, hadm, hsrc, hkey,
    hlmt.imp_right (Or.imp_left hle.trans)⟩

theorem Allowance.cons (h : Allowance log w spent) (hb : ¬ b.Admits w) :
    Allowance (b :: log) w spent := by
  obtain ⟨later, a, before, source, hlog, hlat, hrest⟩ := h
  refine ⟨b :: later, a, before, source, by rw [hlog]; rfl, fun c hmem => ?_, hrest⟩
  rcases List.mem_cons.mp hmem with rfl | hmem
  · exact hb
  · exact hlat c hmem

/-- Of two dispatches of one request the later one comes after the row of the earlier has
expired. -/
def Announcement.Again (later earlier : Announcement) : Prop :=
  later.charge.kind = .dispatch → earlier.charge.kind = .dispatch →
    later.handle = earlier.handle ∨ later.charge.key = earlier.charge.key →
      earlier.charge.policy.usageResetAtMs + retentionMs ≤ later.nowMs

/-- What is known of the requests. -/
structure Registered (s : SqlState) : Prop where
  handled : Handled s
  opened : ∀ handle row, s.lifetimes.lookup handle = some row →
    ∃ prior, s.opened.lookup (row.principalId, row.requestId) = some prior ∧ prior.handle = handle
  keyed : ∀ handle row policy, s.lifetimes.lookup handle = some row → row.api = some policy →
    row.keyId = some policy.keyId

structure Accounted (now : ℤ) (s : SqlState) (log : List Announcement) : Prop where
  ledger : Ledger now s
  registered : Registered s
  /-- The request of an announcement is stored with the policy that it was charged under. -/
  stored : ∀ a ∈ log, ∃ row, s.lifetimes.lookup a.handle = some row ∧
    row.api = some a.charge.policy ∧ row.requestId = a.charge.requestId
  /-- A policy that is stored was once in force, up to its window. -/
  inForce : ∀ handle row policy, s.lifetimes.lookup handle = some row → row.api = some policy →
    ∃ a ∈ log, ∃ source, a.inForce = some source ∧ source.keyId = policy.keyId ∧
      source.usageLimitRequests = policy.usageLimitRequests
  allowance : ∀ w window, s.windows.read w now = some window → Allowance log w window.spent
  consumed : ∀ a ∈ log, a.charge.kind = .dispatch →
    Consumed now s.requests a.charge.key (a.charge.policy.usageResetAtMs + retentionMs)
  once : log.Pairwise Announcement.Again

section Steps

theorem accounted_initial (now : ℤ) (policies : String → String → Option NativeKeyPolicy) :
    Accounted now (.initial policies) [] where
  ledger := ⟨fun _ _ _ h => (by cases h), fun _ _ _ _ h => (by cases h), fun _ _ h => (by cases h)⟩
  registered := ⟨fun _ _ h => (by cases h), fun _ _ h => (by cases h), fun _ _ _ h => (by cases h)⟩
  stored := fun _ h => by cases h
  inForce := fun _ _ _ h => by cases h
  allowance := fun _ _ h => by cases h
  consumed := fun _ h => by cases h
  once := List.Pairwise.nil

theorem Accounted.advance (h : Accounted now s log) (hle : now ≤ now') : Accounted now' s log where
  ledger := h.ledger.advance hle
  registered := h.registered
  stored := h.stored
  inForce := h.inForce
  allowance w window hread := by
    obtain ⟨expiresAtMs, hlk, hlive⟩ := Table.read_eq_some.mp hread
    exact h.allowance w window (Table.read_eq_some.mpr ⟨expiresAtMs, hlk, hle.trans_lt hlive⟩)
  consumed a hmem hkind := (h.consumed a hmem hkind).imp_left fun hpast => hpast.trans hle
  once := h.once

theorem Kept.back {charge : Option Charge} (hkept : Kept handle charge s s')
    (hrow' : s'.lifetimes.lookup other = some row') :
    ∃ row, s.lifetimes.lookup other = some row ∧ Continues charge row row' := by
  obtain ⟨row, hrow⟩ := hkept.known other row' hrow'
  obtain ⟨row'', hrow'', hcont⟩ := hkept.continues other row hrow
  cases hrow'.symm.trans hrow''
  exact ⟨row, hrow, hcont⟩

/-- A row's policy was there before or comes with a charge. -/
theorem Done.api (h : Done now s operation reply s') (hrow' : s'.lifetimes.lookup other = some row')
    (hpol : row'.api = some policy) :
    (∃ row, s.lifetimes.lookup other = some row ∧ row.api = some policy ∧ row'.keyId = row.keyId) ∨
      ∃ charge ∈ announced s operation (.ok reply), ∃ source,
        policyInForce s now operation = some source ∧ source.keyId = policy.keyId ∧
        source.usageLimitRequests = policy.usageLimitRequests ∧ row'.keyId = some policy.keyId := by
  obtain ⟨row, hrow, hcont⟩ := h.kept.back hrow'
  rcases hcont.api with hsame | ⟨hno, admission, hmem, hkind, hadm⟩
  · exact .inl ⟨row, hrow, hsame.symm.trans hpol, hcont.keyId⟩
  · right
    cases hpol.symm.trans hadm
    obtain ⟨row₀, source, hrow₀, hkey, hsrc, hfor⟩ := h.admits admission hmem hkind
    -- the other requests are as they were, so it is this one that is admitted
    have hself : other = operation.handle := by
      by_contra hne
      have heq := h.kept.others other hne
      rw [hrow, hrow'] at heq
      cases heq
      rw [hno] at hpol
      cases hpol
    rw [hself, hrow₀] at hrow
    obtain rfl := Option.some.inj hrow
    have hpolicyFor : policyFor row₀ source now = { source with
        windowStartMs := (currentApiKeyUsageWindow source.usageResetAtMs source.windowMs now).1
        usageResetAtMs := (currentApiKeyUsageWindow source.usageResetAtMs source.windowMs now).2
          } := by
      unfold policyFor
      rw [hno]
      rfl
    rw [hpolicyFor] at hfor
    refine ⟨admission, hmem, source, hsrc, ?_, ?_, ?_⟩
    · rw [hfor]
    · rw [hfor]
    · rw [hcont.keyId, hkey, hfor]

theorem Registered.done (h : Registered s)
    (hdone : Done now s operation reply s') : Registered s' := by
  refine ⟨fun other row' hrow' => ?_, fun other row' hrow' => ?_,
    fun other row' policy hrow' hpol => ?_⟩
  · obtain ⟨row, hrow, hcont⟩ := hdone.kept.back hrow'
    rw [hcont.handle, h.handled other row hrow]
  · obtain ⟨row, hrow, hcont⟩ := hdone.kept.back hrow'
    rw [hcont.principalId, hcont.requestId, hdone.opened]
    exact h.opened other row hrow
  · rcases hdone.api hrow' hpol with ⟨row, hrow, hapi, hkey⟩ | ⟨_, _, _, _, _, _, hkey⟩
    · rw [hkey]
      exact h.keyed other row policy hrow hapi
    · exact hkey

theorem lookup_insert_cases {lifetimes : Record String NativeRequest}
    (h : (lifetimes.insert handle row).lookup other = some row') :
    other = handle ∧ row' = row ∨ lifetimes.lookup other = some row' := by
  rw [Record.lookup_insert] at h
  split_ifs at h with heq
  · exact .inl ⟨heq, (Option.some.inj h).symm⟩
  · exact .inr h

theorem Registered.opening (h : Registered s) (hfr : s.lifetimes.lookup handle = none)
    (hopening : Opening cap requestId handle s s') : Registered s' := by
  cases hopening with
  | found => exact h
  | @new _ prior hno hhandle hprc hreq hapi hpri =>
    refine ⟨fun other row' hrow' => ?_, fun other row' hrow' => ?_,
      fun other row' policy hrow' hpol => ?_⟩
    · rcases lookup_insert_cases hrow' with ⟨rfl, rfl⟩ | hold
      · exact hhandle
      · exact h.handled other row' hold
    · show ∃ found, (s.opened.insert (cap.principalId, requestId) prior).lookup _ = some found ∧ _
      rw [Record.lookup_insert]
      rcases lookup_insert_cases hrow' with ⟨rfl, rfl⟩ | hold
      · rw [if_pos (by rw [hprc, hreq])]
        exact ⟨prior, rfl, hpri⟩
      · obtain ⟨found, hfd, hsame⟩ := h.opened other row' hold
        rw [if_neg]
        · exact ⟨found, hfd, hsame⟩
        · intro heq
          rw [heq, hno] at hfd
          cases hfd
    · rcases lookup_insert_cases hrow' with ⟨rfl, rfl⟩ | hold
      · rw [hapi] at hpol
        cases hpol
      · exact h.keyed other row' policy hold hpol

theorem Accounted.opening (h : Accounted now s log) (hfr : s.lifetimes.lookup handle = none)
    (hopening : Opening cap requestId handle s s') : Accounted now s' log := by
  have hreg := h.registered.opening hfr hopening
  cases hopening with
  | found => exact h
  | @new row _ _ _ _ _ hapi =>
    refine ⟨h.ledger.other rfl rfl, hreg, fun a hmem => ?_,
      fun other row' policy hrow' hpol => ?_, h.allowance, h.consumed, h.once⟩
    · obtain ⟨old, hold, hrest⟩ := h.stored a hmem
      refine ⟨old, ?_, hrest⟩
      show (s.lifetimes.insert handle row).lookup a.handle = some old
      rw [Record.lookup_insert_of_ne, hold]
      rintro heq
      rw [heq, hfr] at hold
      cases hold
    · rcases lookup_insert_cases hrow' with ⟨rfl, rfl⟩ | hold
      · rw [hapi] at hpol
        cases hpol
      · exact h.inForce other row' policy hold hpol

section Announced

theorem mem_announcements (hmem : charge ∈ announced s operation (.ok reply)) :
    ⟨now, operation.handle, charge, policyInForce s now operation⟩ ∈
      announcements now s operation (.ok reply) :=
  List.mem_map.mpr ⟨charge, Option.mem_toList.mpr hmem, rfl⟩

section

variable (h : Accounted now s log) (hdone : Done now s operation reply s')

include h hdone

/-- What an admission allows is the limit in force, unless it was lowered since the request was
admitted first. -/
theorem Accounted.admission (hmem : charge ∈ announced s operation (.ok reply))
    (hkind : charge.kind = .reserve)
    (hspt : charge.policy.usageLimitRequests = -1 ∨ spent ≤ charge.policy.usageLimitRequests) :
    Allowance (⟨now, operation.handle, charge, policyInForce s now operation⟩ :: log)
      (windowKey charge.policy) spent := by
  obtain ⟨row, source, hrow, hkey, hsrc, hfor⟩ := hdone.admits charge hmem hkind
  refine ⟨[], _, log, source, rfl, fun _ h => (by cases h), ⟨hkind, rfl⟩, hsrc, ?_⟩
  show source.keyId = charge.policy.keyId ∧ (_ ∨ _ ∨ LoweredTo log charge.policy.keyId _)
  unfold policyFor at hfor
  cases hapi : row.api with
  | none =>
    rw [hapi] at hfor
    rw [hfor] at hspt
    exact ⟨by rw [hfor]; rfl, hspt.imp_right .inl⟩
  | some policy =>
    obtain rfl : charge.policy = policy := by
      rw [hfor, hapi]
      rfl
    have hkyd := h.registered.keyed _ row charge.policy hrow hapi
    rw [hkey] at hkyd
    refine ⟨Option.some.inj hkyd, ?_⟩
    obtain ⟨b, hb, earlier, herl, hearlierKey, hlmt⟩ :=
      h.inForce _ row charge.policy hrow hapi
    rw [← hlmt] at hspt
    rcases hspt with hunl | hle
    · exact .inr (.inr ⟨b, hb, earlier, herl, hearlierKey, .inl hunl⟩)
    · by_cases hlowered : source.usageLimitRequests < earlier.usageLimitRequests
      · exact .inr (.inr ⟨b, hb, earlier, herl, hearlierKey, .inr hlowered⟩)
      · exact .inr (.inl (hle.trans (not_lt.mp hlowered)))

/-- An operation keeps the allowance of every window. -/
theorem Accounted.allowance_done (hread : s'.windows.read w now = some window) :
    Allowance (announcements now s operation (.ok reply) ++ log) w window.spent := by
  obtain ⟨releases, hchd, hkinds⟩ := hdone.effect
  have hrelease : ∀ release ∈ releases, release.kind ≠ .reserve := by
    intro release hmem hrsv
    rw [hkinds release hmem] at hrsv
    cases hrsv
  unfold announcements
  cases hann : announced s operation (.ok reply) with
  | none =>
    rw [hann] at hchd
    obtain ⟨window₀, hread₀, hle⟩ := hchd.spent_le hrelease hread
    exact (h.allowance w window₀ hread₀).mono hle
  | some charge =>
    rw [hann] at hchd
    obtain ⟨s₁, plan, hbef, halw, hwins, -⟩ := hchd.last
    rw [hwins] at hread
    show Allowance (⟨now, operation.handle, charge, policyInForce s now operation⟩ :: log) w _
    by_cases hadm : charge.kind = .reserve ∧ windowKey charge.policy = w
    · obtain ⟨hkind, rfl⟩ := hadm
      rw [charged_window halw, if_pos rfl] at hread
      cases hread
      exact h.admission hdone hann hkind (halw.spent_le_limit hkind)
    · refine Allowance.cons ?_ hadm
      obtain ⟨window₁, hread₁, hle₁⟩ : ∃ window₁, s₁.windows.read w now = some window₁ ∧
          window.spent ≤ window₁.spent := by
        by_cases hkind : charge.kind = .reserve
        · rw [charged_window halw, if_neg (fun hw => hadm ⟨hkind, hw.symm⟩)] at hread
          exact ⟨window, hread, le_rfl⟩
        · exact halw.spent_le hkind hread
      obtain ⟨window₀, hread₀, hle₀⟩ := hbef.spent_le hrelease hread₁
      exact (h.allowance w window₀ hread₀).mono (hle₁.trans hle₀)

theorem Accounted.again (hmem : charge ∈ announced s operation (.ok reply))
    (herl : earlier ∈ log) :
    Announcement.Again ⟨now, operation.handle, charge, policyInForce s now operation⟩ earlier := by
  intro hkind hkind' heq
  have hkey : charge.key = earlier.charge.key := by
    rcases heq with hhandle | hkey
    · -- the request keeps the policy of its first dispatch
      obtain ⟨row, hrow, hpol, hrid⟩ := h.stored earlier herl
      obtain ⟨row', hrow', hcont⟩ := hdone.kept.continues _ row hrow
      obtain ⟨row'', hrow'', hpol'', hrid''⟩ := hdone.stored charge hmem
      rw [show operation.handle = earlier.handle from hhandle, hrow'] at hrow''
      cases hrow''
      rw [hcont.policy hpol] at hpol''
      unfold Charge.key
      rw [← Option.some.inj hpol'', ← hrid'', hcont.requestId, hrid]
    · exact hkey
  obtain ⟨releases, hchd, -⟩ := hdone.effect
  rw [show announced s operation (.ok reply) = some charge from hmem] at hchd
  obtain ⟨s₁, plan, hbef, halw, -, -⟩ := hchd.last
  have hcsm := (h.consumed earlier herl hkind').after_charges h.ledger hbef
  rw [← hkey] at hcsm
  exact hcsm.bound_le_of_dispatch halw hkind

/-- **The step**: an operation keeps the accounts. -/
theorem Accounted.done : Accounted now s' (announcements now s operation (.ok reply) ++ log) := by
  obtain ⟨releases, hchd, -⟩ := hdone.effect
  have hnew : ∀ a ∈ announcements now s operation (.ok reply), ∃ charge,
      charge ∈ announced s operation (.ok reply) ∧
      a = ⟨now, operation.handle, charge, policyInForce s now operation⟩ := by
    intro a hmem
    obtain ⟨charge, hchr, rfl⟩ := List.mem_map.mp hmem
    exact ⟨charge, Option.mem_toList.mp hchr, rfl⟩
  refine ⟨h.ledger.charges hchd, h.registered.done hdone, fun a hmem => ?_,
    fun other row' policy hrow' hpol => ?_, fun w window hread => h.allowance_done hdone hread,
    fun a hmem hkind => ?_, ?_⟩
  · rcases List.mem_append.mp hmem with hmem | hmem
    · obtain ⟨charge, hchr, rfl⟩ := hnew a hmem
      exact hdone.stored charge hchr
    · obtain ⟨row, hrow, hpol, hrid⟩ := h.stored a hmem
      obtain ⟨row', hrow', hcont⟩ := hdone.kept.continues _ row hrow
      exact ⟨row', hrow', hcont.policy hpol, hcont.requestId.trans hrid⟩
  · rcases hdone.api hrow' hpol with ⟨row, hrow, hapi, -⟩ |
      ⟨charge, hchr, source, hsrc, hkey, hlmt, -⟩
    · obtain ⟨a, hmem, hrest⟩ := h.inForce other row policy hrow hapi
      exact ⟨a, List.mem_append_right _ hmem, hrest⟩
    · exact ⟨_, List.mem_append_left _ (mem_announcements hchr), source, hsrc, hkey, hlmt⟩
  · rcases List.mem_append.mp hmem with hmem | hmem
    · obtain ⟨charge, hchr, rfl⟩ := hnew a hmem
      rw [show announced s operation (.ok reply) = some charge from hchr] at hchd
      obtain ⟨s₁, plan, -, halw, -, hreqs⟩ := hchd.last
      rw [hreqs]
      exact consumed_of_dispatch halw hkind
    · exact (h.consumed a hmem hkind).after_charges h.ledger hchd
  · rw [List.pairwise_append]
    refine ⟨?_, h.once, fun a hmem earlier herl => ?_⟩
    · unfold announcements
      cases announced s operation (.ok reply) with
      | none => exact List.Pairwise.nil
      | some charge => exact List.pairwise_singleton _ _
    · obtain ⟨charge, hchr, rfl⟩ := hnew a hmem
      exact h.again hdone hchr herl

end

end Announced

theorem announcements_error (operation : ApiOperation) (code : String) :
    announcements now s operation (.error code) = [] := by
  cases operation <;> rfl

/-- **A command keeps the accounts.** -/
theorem Accounted.step (h : Accounted now s log) (hfr : operation.Fresh s) :
    Accounted now (operation.execute now s).2
      (announcements now s operation (operation.execute now s).1 ++ log) := by
  have hfail : ∀ code, Accounted now s (announcements now s operation (.error code) ++ log) := by
    intro code
    rw [announcements_error]
    exact h
  by_cases hops : ∃ cap requestId route path handle,
      operation = .openRequest cap requestId route path handle
  · obtain ⟨cap, requestId, route, path, handle, rfl⟩ := hops
    have hunk := hfr cap requestId route path handle rfl
    have hbody : Returns ((ApiOperation.openRequest cap requestId route path handle).body now) s
        fun _ s' => Opening cap requestId handle s s' := openRequest_opening
    unfold ApiOperation.execute
    rcases hbody.transaction with ⟨reply, hrpl, hopening⟩ | ⟨⟨code, hcode⟩, heq⟩
    · rw [hrpl]
      exact h.opening hunk hopening
    · rw [hcode, heq]
      exact hfail code
  · simp only [not_exists] at hops
    have hbody := operation.body_done h.registered.handled h.ledger hops
    unfold ApiOperation.execute
    rcases hbody.transaction with ⟨reply, hrpl, hdone⟩ | ⟨⟨code, hcode⟩, heq⟩
    · rw [hrpl]
      exact h.done hdone
    · rw [hcode, heq]
      exact hfail code

end Steps

/-! ### The runs -/

section Runs

theorem ApiRun.accounted (h : ApiRun (· ≤ ·) now s log) : Accounted now s log := by
  induction h with
  | start now policies => exact accounted_initial now policies
  | step _ _ hclk _ hfr ih => exact (ih.advance hclk).step hfr

/-- **The usage ledger is exact on a clock that does not go back**: a window that is seen counts its
rows and has spent what its last admission allowed, a request is dispatched again only after its row
has expired, and it goes by one handle. -/
theorem usage_exact (h : ApiRun (· ≤ ·) now s log) :
    (∀ later, now ≤ later → ∀ w window, s.windows.read w later = some window →
      window.reservedRequests = rowsIn s later w .reserved ∧
      window.committedRequests = rowsIn s later w .dispatched ∧
      Allowance log w (window.committedRequests + window.reservedRequests)) ∧
    log.Pairwise Announcement.Again ∧
    ∀ handle row handle' row', s.lifetimes.lookup handle = some row →
      s.lifetimes.lookup handle' = some row' → row.principalId = row'.principalId →
      row.requestId = row'.requestId → handle = handle' := by
  have haccounted := h.accounted
  refine ⟨fun later hle w window hread => ?_, haccounted.once, ?_⟩
  · have hlat := haccounted.advance hle
    obtain ⟨expiresAtMs, hlk, hlive⟩ := Table.read_eq_some.mp hread
    have hctd := hlat.ledger.counted w window expiresAtMs hlk hlive
    exact ⟨hctd.reserved, hctd.committed, hlat.allowance w window hread⟩
  · intro handle row handle' row' hrow hrow' hprc hreq
    obtain ⟨prior, hpri, hhandle⟩ := haccounted.registered.opened handle row hrow
    obtain ⟨prior', hpri', hhandle'⟩ := haccounted.registered.opened handle' row' hrow'
    rw [hprc, hreq, hpri'] at hpri
    rw [← hhandle, ← hhandle', Option.some.inj hpri]

/-- A key without a limit, whose first window ends at 100. -/
def sampleKey : NativeKeyPolicy := ⟨⟨"t", "k", -1, -1, 100, 0, 100, "v1"⟩, false⟩

def sampleHolder : NativeCapability := ⟨"c", "p", some "k", some "t"⟩

def sampleTables : SqlState := .initial fun _ _ => some sampleKey

/-- A request is opened and admitted. -/
def admitted (handle : String) : List (ℤ × ApiOperation) :=
  [(10, .openRequest sampleHolder handle "/v1" "/v1" handle), (10, .reserve sampleHolder handle)]

/-- A request is dispatched, and admitted and dispatched again after its row has expired. -/
def dispatchedTwice : List (ℤ × ApiOperation) :=
  admitted "a" ++ [(11, .dispatch sampleHolder "a" .chatgptCodex),
    (100 + retentionMs, .reserve sampleHolder "a"),
    (100 + retentionMs, .dispatch sampleHolder "a" .chatgptCodex)]

/-- Three requests are admitted again after their rows have expired, the second of them on a clock
that went back by a millisecond. -/
def clockWentBack : List (ℤ × ApiOperation) :=
  admitted "a" ++ admitted "b" ++ admitted "c" ++
    [(101 + retentionMs, .reserve sampleHolder "a"), (100 + retentionMs, .reserve sampleHolder "b"),
      (101 + retentionMs, .reserve sampleHolder "c")]

theorem usage_exact_dispatchedTwice : ∃ window,
    (executeAll sampleTables [] dispatchedTwice).1.windows.read ⟨"k", "v1", 0⟩ (100 + retentionMs)
      = some window ∧ window.committedRequests
        = rowsIn (executeAll sampleTables [] dispatchedTwice).1 (100 + retentionMs) ⟨"k", "v1", 0⟩
            .dispatched := by
  have hrun : ApiRun (· ≤ ·) (100 + retentionMs) (executeAll sampleTables [] dispatchedTwice).1
      (executeAll sampleTables [] dispatchedTwice).2 :=
    ApiRun.executeAll dispatchedTwice (.start 0 _) (by decide +kernel)
  obtain ⟨window, hread⟩ := Option.isSome_iff_exists.mp (show
    ((executeAll sampleTables [] dispatchedTwice).1.windows.read ⟨"k", "v1", 0⟩
      (100 + retentionMs)).isSome = true by decide +kernel)
  exact ⟨window, hread, ((usage_exact hrun).1 _ le_rfl _ window hread).2.1⟩

/-- If the clock goes back, a window may count less than its rows; and a request is dispatched twice
when its row has expired in between. -/
theorem usage_inexact : (∃ now s log, ApiRun (fun _ _ => True) now s log ∧ ∃ w window,
      s.windows.read w now = some window ∧ window.reservedRequests ≠ rowsIn s now w .reserved) ∧
    ∃ now s log, ApiRun (· ≤ ·) now s log ∧ ∃ handle, 1 < log.countP fun a =>
      decide (a.charge.kind = .dispatch ∧ a.handle = handle) := by
  refine ⟨⟨_, _, _, ApiRun.executeAll clockWentBack (.start 0 fun _ _ => some sampleKey)
    (by decide +kernel), ⟨"k", "v1", 0⟩, ?_⟩, _, _, _, ApiRun.executeAll dispatchedTwice
    (.start 0 fun _ _ => some sampleKey) (by decide +kernel), "a", by decide +kernel⟩
  have hcnt : ((executeAll sampleTables [] clockWentBack).1.windows.read ⟨"k", "v1", 0⟩
      (101 + retentionMs)).any (fun window => decide (window.reservedRequests ≠
        rowsIn (executeAll sampleTables [] clockWentBack).1 (101 + retentionMs) ⟨"k", "v1", 0⟩
          .reserved)) = true := by decide +kernel
  obtain ⟨window, hread, hne⟩ := (Option.any_eq_true _ _).mp hcnt
  exact ⟨window, hread, of_decide_eq_true hne⟩

end Runs

end UbqGateway.ApiKey
