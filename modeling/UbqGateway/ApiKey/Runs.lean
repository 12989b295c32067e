import UbqGateway.ApiKey.Usage

/-!
# Runs of the usage ledger

A run is a sequence of commands at the times of a clock.  A command that answers `reserved`,
`dispatched` or `released` announces its charge; apart from that it only releases reservations whose
lease has expired (`ApiOperation.effect`).  From what is announced the limit that a window was last
admitted under is known, and how often a request was committed.

The clock must not go back: rows are kept for a week after the end of their window, and a clock that
goes back over an expiry shows rows again that the counts have forgotten.
-/

namespace UbqGateway.ApiKey

open NativeAuthorityApi

/-! ### What a command does -/

/-- The charge that a command announces with its answer. -/
def announced (s : SqlState) : ApiOperation → Except String NativeReply → Option Charge
  | .reserve _ handle, .ok (.reserved policy) =>
    (s.lifetimes.lookup handle).map fun row => ⟨.reserve, policy, row.requestId⟩
  | .dispatch _ handle _, .ok .dispatched => (s.lifetimes.lookup handle).bind fun row =>
    row.api.map fun policy => ⟨.dispatch, policy, row.requestId⟩
  | .release _ handle _, .ok .released => (s.lifetimes.lookup handle).bind fun row =>
    row.api.map fun policy => ⟨.release, policy, row.requestId⟩
  | .cancel _ handle, .ok .released => (s.lifetimes.lookup handle).bind fun row =>
    row.api.map fun policy => ⟨.cancel, policy, row.requestId⟩
  | _, _ => none

theorem settledReply_ne_released (h : ∀ written, plan = .write written → False) :
    settledReply plan ≠ .released := by
  cases plan with
  | write written => exact absurd rfl (h written)
  | _ => exact NativeReply.noConfusion

theorem announced_release_eq_none (h : reply ≠ .released) :
    announced s (.release cap handle reason) (.ok reply) = none := by
  cases reply with
  | released => exact absurd rfl h
  | _ => rfl

theorem announced_cancel_eq_none (h : reply ≠ .released) :
    announced s (.cancel cap handle) (.ok reply) = none := by
  cases reply with
  | released => exact absurd rfl h
  | _ => rfl

/-- The command releases expired reservations and then makes the charge that it announces. -/
def Effect (now : ℤ) (s : SqlState) (charge : Option Charge) (s' : SqlState) : Prop :=
  ∃ releases, Charged now s (charge.toList ++ releases) s' ∧
    ∀ release ∈ releases, release.kind = .release

section Effects

theorem Releases.effect (h : Releases now s s') : Effect now s none s' := h

theorem Effect.other (h : Effect now s charge s₁) (hwins : s₂.windows = s₁.windows)
    (hreqs : s₂.requests = s₁.requests) : Effect now s charge s₂ := by
  obtain ⟨releases, hchd, hkind⟩ := h
  exact ⟨releases, .other hchd hwins hreqs, hkind⟩

theorem Releases.charge {charge : Charge} (h : Releases now s s₁)
    (halw : charge.Allowed now s₁ plan) :
    Effect now s (some charge) (s₁.charged charge.policy plan now) := by
  obtain ⟨releases, hchd, hkind⟩ := h
  exact ⟨releases, .charge charge plan hchd halw, hkind⟩

/-- The request goes on: it is the same request, and keeps its policy once it was admitted. -/
structure Continues (charge : Option Charge) (row row' : NativeRequest) : Prop where
  handle : row'.handle = row.handle
  principalId : row'.principalId = row.principalId
  keyId : row'.keyId = row.keyId
  requestId : row'.requestId = row.requestId
  api : row'.api = row.api ∨ row.api = none ∧
    ∃ admission ∈ charge, admission.kind = .reserve ∧ row'.api = some admission.policy

theorem Continues.refl (charge : Option Charge) (row : NativeRequest) : Continues charge row row :=
  ⟨rfl, rfl, rfl, rfl, .inl rfl⟩

theorem Continues.policy (h : Continues charge row row') {policy : ApiKeyPolicy}
    (hpol : row.api = some policy) : row'.api = some policy := by
  rcases h.api with heq | ⟨hno, -⟩
  · rw [heq, hpol]
  · rw [hpol] at hno
    cases hno

/-- The requests of `s` go on in `s'`, there are no others, and all but one are as they were. -/
structure Kept (handle : String) (charge : Option Charge) (s s' : SqlState) : Prop where
  continues : ∀ other row, s.lifetimes.lookup other = some row →
    ∃ row', s'.lifetimes.lookup other = some row' ∧ Continues charge row row'
  known : ∀ other row', s'.lifetimes.lookup other = some row' →
    ∃ row, s.lifetimes.lookup other = some row
  others : ∀ other, other ≠ handle → s'.lifetimes.lookup other = s.lifetimes.lookup other

theorem Kept.of_eq (h : s'.lifetimes = s.lifetimes) : Kept handle charge s s' := by
  refine ⟨fun other row hrow => ⟨row, ?_, Continues.refl charge row⟩,
    fun other row hrow => ⟨row, ?_⟩, fun other _ => by rw [h]⟩
  · rw [h]
    exact hrow
  · rw [← h]
    exact hrow

theorem Kept.save (hself : row.handle = handle) (hlk : s.lifetimes.lookup handle = some row)
    (hcont : Continues charge row row')
    (h : s'.lifetimes = s.lifetimes.insert row'.handle row') : Kept handle charge s s' := by
  rw [hcont.handle, hself] at h
  refine ⟨fun other old hold => ?_, fun other new hnew => ?_, fun other hne => ?_⟩
  · rw [h, Record.lookup_insert]
    split_ifs with heq
    · rw [heq, hlk] at hold
      cases hold
      exact ⟨row', rfl, hcont⟩
    · exact ⟨old, hold, Continues.refl charge old⟩
  · rw [h, Record.lookup_insert] at hnew
    split_ifs at hnew with heq
    · exact ⟨row, heq ▸ hlk⟩
    · exact ⟨new, hnew⟩
  · rw [h, Record.lookup_insert_of_ne _ _ hne]

/-- The request that a command is about. -/
def ApiOperation.handle : ApiOperation → String
  | .reserve _ handle | .dispatch _ handle _ | .start _ handle _ _ | .release _ handle _
  | .cancel _ handle | .observe handle _ => handle
  | .openRequest _ _ _ _ handle => handle
  | .administer _ | .inspectKeyReset _ => ""

/-- The policy that is in force for the key of a request that asks to be admitted. -/
def policyInForce (s : SqlState) (now : ℤ) : ApiOperation → Option ApiKeyPolicy
  | .reserve cap _ => authorizedPolicy s cap now
  | _ => none

/-- What a command that answers has done. -/
structure Done (now : ℤ) (s : SqlState) (operation : ApiOperation) (reply : NativeReply)
    (s' : SqlState) : Prop where
  effect : Effect now s (announced s operation (.ok reply)) s'
  kept : Kept operation.handle (announced s operation (.ok reply)) s s'
  opened : s'.opened = s.opened
  /-- The request that is charged is stored with the policy that it is charged under. -/
  stored : ∀ charge ∈ announced s operation (.ok reply), ∃ row,
    s'.lifetimes.lookup operation.handle = some row ∧ row.api = some charge.policy ∧
      row.requestId = charge.requestId
  /-- A request is admitted under its own policy or under the one that is in force. -/
  admits : ∀ charge ∈ announced s operation (.ok reply), charge.kind = .reserve →
    ∃ row source, s.lifetimes.lookup operation.handle = some row ∧
      row.keyId = some source.keyId ∧ policyInForce s now operation = some source ∧
      charge.policy = policyFor row source now

/-- The requests are stored under their handles. -/
def Handled (s : SqlState) : Prop :=
  ∀ handle row, s.lifetimes.lookup handle = some row → row.handle = handle

section

variable (h : announced s operation (.ok reply) = none)

include h

theorem Done.uncharged (hrels : Releases now s s') (hkept : Kept operation.handle none s s')
    (hop : s'.opened = s.opened) : Done now s operation reply s' := by
  refine ⟨?_, ?_, hop, ?_, ?_⟩
  · rw [h]
    exact hrels.effect
  · rw [h]
    exact hkept
  · rw [h]
    exact nofun
  · rw [h]
    exact nofun

theorem Done.nothing : Done now s operation reply s :=
  Done.uncharged h (Releases.refl now s) (Kept.of_eq rfl) rfl

theorem Done.saved (hself : row.handle = operation.handle)
    (hlk : s.lifetimes.lookup operation.handle = some row)
    (hcont : Continues none row row') :
    Done now s operation reply { s with lifetimes := s.lifetimes.insert row'.handle row' } :=
  Done.uncharged h ((Releases.refl now s).effect.other rfl rfl) 
    (Kept.save hself hlk hcont rfl) rfl

theorem Done.released (hrels : Releases now s s')
    (heq : SameRequests s s') : Done now s operation reply s' :=
  Done.uncharged h hrels (Kept.of_eq heq.lifetimes) heq.opened

end

theorem Done.charged (charge : Charge)
    (hann : announced s operation (.ok reply) = some charge) (hrels : Releases now s s₁)
    (heq : SameRequests s s₁) (halw : charge.Allowed now s₁ plan)
    (hself : row.handle = operation.handle)
    (hlk : s.lifetimes.lookup operation.handle = some row)
    (hcont : Continues (some charge) row row') (hpol : row'.api = some charge.policy)
    (hrid : row.requestId = charge.requestId)
    (hadm : charge.kind = .reserve → ∃ source, row.keyId = some source.keyId ∧
      policyInForce s now operation = some source ∧ charge.policy = policyFor row source now) :
    Done now s operation reply { s₁.charged charge.policy plan now with
      lifetimes := s₁.lifetimes.insert row'.handle row' } := by
  refine ⟨?_, ?_, heq.opened, ?_, ?_⟩
  · rw [hann]
    exact (hrels.charge halw).other rfl rfl
  · rw [hann]
    exact Kept.save hself hlk hcont (by rw [heq.lifetimes])
  · rintro charge' hmem
    rw [hann] at hmem
    cases hmem
    refine ⟨row', ?_, hpol, hcont.requestId.trans hrid⟩
    show (s₁.lifetimes.insert row'.handle row').lookup operation.handle = some row'
    rw [Record.lookup_insert, if_pos (by rw [hcont.handle, hself])]
  · rintro charge' hmem hkind
    rw [hann] at hmem
    cases hmem
    obtain ⟨source, hadmission⟩ := hadm hkind
    exact ⟨row, source, hlk, hadmission⟩

variable (hhnd : Handled s)
include hhnd

theorem ownsReservation_returns (hlk : s.lifetimes.lookup row.handle = some row) :
    Returns (ownsReservation row policy) s fun owns s' =>
      s' = s ∧ (owns = true → row.api ≠ none) := by
  refine Returns.get_bind ?_
  split
  · next original howners =>
    refine Returns.pure ⟨rfl, fun howns => ?_⟩
    have hmem : original ∈ ownersOf s.lifetimes (requestKey policy row.requestId) := by
      rw [howners]
      exact List.mem_singleton_self original
    obtain ⟨hval, hownr⟩ := List.mem_filter.mp hmem
    obtain ⟨handle, horig⟩ := (Record.mem_values_iff _ _).mp hval
    -- the owner has the handle of the request, and so it is the request
    have hhandle : original.handle = row.handle := (of_decide_eq_true howns).1
    have hself := hhnd handle original horig
    rw [← hself, hhandle, hlk] at horig
    cases horig
    intro hno
    rw [hno] at hownr
    cases hownr
  · exact Returns.pure ⟨rfl, nofun⟩

/-- A reservation does what `Done` says. -/
theorem reserveFrom_done (hrels : Releases now s s₁) (heq : SameRequests s s₁)
    (hlk : s.lifetimes.lookup handle = some row)
    (hsrc : authorizedPolicy s cap now = some source) (hkey : row.keyId = some source.keyId) :
    Returns (reserveFrom row (policyFor row source now) now (planApiKeyUsageReservation
      (policyFor row source now) row.requestId row.route
      (snapshotIn s₁ (policyFor row source now) row.requestId now) now)) s₁
      (Done now s (.reserve cap handle)) := by
  have hself : row.handle = handle := hhnd handle row hlk
  have hpol : ∀ other, row.api = some other → policyFor row source now = other := by
    intro other hoth
    unfold policyFor
    rw [hoth]
    rfl
  have hunchanged : ∀ {reply}, announced s (.reserve cap handle) (.ok reply) = none →
      Done now s (.reserve cap handle) reply s₁ := fun hno => Done.released hno hrels heq
  cases hplan : planApiKeyUsageReservation (policyFor row source now) row.requestId row.route
      (snapshotIn s₁ (policyFor row source now) row.requestId now) now with
  | full window => exact Returns.pure (hunchanged rfl)
  | unavailable reason => exact Returns.pure (hunchanged rfl)
  | reuse =>
    have hhnd₁ : Handled s₁ := fun handle row h => hhnd handle row (heq.lifetimes ▸ h)
    have hlk₁ : s₁.lifetimes.lookup row.handle = some row := by
      rw [heq.lifetimes, hself, hlk]
    refine Returns.bind (Returns.mono (ownsReservation_returns hhnd₁ hlk₁) ?_)
    rintro owns s₁ ⟨rfl, howns⟩
    split_ifs with hcase
    · refine save_bind ?_
      obtain ⟨other, hoth⟩ := Option.ne_none_iff_exists'.mp (howns hcase)
      have hcont : Continues none row { row with api := some (policyFor row source now) } := by
        refine ⟨rfl, rfl, rfl, rfl, .inl ?_⟩
        show some (policyFor row source now) = row.api
        rw [hpol other hoth, hoth]
      refine Returns.pure (Done.uncharged rfl (hrels.effect.other rfl rfl)
        (Kept.save hself hlk hcont ?_) heq.opened)
      rw [heq.lifetimes]
    · exact Returns.pure (hunchanged rfl)
  | write plan =>
    refine writeUsage_bind ?_
    refine save_bind ?_
    have hann : announced s (.reserve cap handle) (.ok (.reserved (policyFor row source now)))
        = some ⟨.reserve, policyFor row source now, row.requestId⟩ := by
      show (s.lifetimes.lookup handle).map _ = _
      rw [hlk]
      rfl
    have hcont : Continues (some ⟨.reserve, policyFor row source now, row.requestId⟩) row
        { row with api := some (policyFor row source now) } := by
      refine ⟨rfl, rfl, rfl, rfl, ?_⟩
      cases hapi : row.api with
      | none => exact .inr ⟨rfl, _, rfl, rfl, rfl⟩
      | some other => exact .inl (congrArg some (hpol other hapi))
    exact Returns.pure (Done.charged ⟨.reserve, policyFor row source now, row.requestId⟩ hann
      hrels heq (planApiKeyUsageReservation_allowed hplan) hself hlk hcont rfl rfl
      fun _ => ⟨source, hkey, hsrc, rfl⟩)

omit hhnd in
theorem authorizedPolicy_keyId
    (h : authorizedPolicy s cap now = some source) : cap.keyId = some source.keyId := by
  unfold authorizedPolicy at h
  obtain ⟨keyId, hkid, h⟩ := Option.bind_eq_some_iff.mp h
  obtain ⟨tokenHash, -, h⟩ := Option.bind_eq_some_iff.mp h
  obtain ⟨policy, -, h⟩ := Option.bind_eq_some_iff.mp h
  split_ifs at h with hunauthorized
  cases h
  rw [not_or, not_not] at hunauthorized
  rw [hkid, hunauthorized.1]

theorem reserve_done (hled : Ledger now s) :
    Returns (reserve cap handle now) s (Done now s (.reserve cap handle)) := by
  refine request_bind fun row hlk hkid => ?_
  split
  · exact Returns.pure (Done.nothing rfl)
  refine Returns.get_bind ?_
  split
  · exact Returns.pure (Done.nothing rfl)
  · next source hsrc =>
    split
    · exact Returns.throw
    have hkey : row.keyId = some source.keyId := hkid.trans (authorizedPolicy_keyId hsrc)
    refine snapshotOf_bind ?_
    split
    · refine Returns.bind (Returns.mono (reclaim_returns hled) ?_)
      rintro _ s₁ ⟨hrels, heq⟩
      refine snapshotOf_bind ?_
      exact reserveFrom_done hhnd hrels heq hlk hsrc hkey
    · exact reserveFrom_done hhnd (Releases.refl now _) (SameRequests.refl _) hlk hsrc
        hkey

/-- A dispatch does what `Done` says. -/
theorem dispatch_done : Returns (NativeAuthorityApi.dispatch cap handle provider now) s
      (Done now s (.dispatch cap handle provider)) := by
  refine request_bind fun row hlk _ => ?_
  have hself : row.handle = handle := hhnd handle row hlk
  have hcont : ∀ charge, Continues charge row
      { row with dispatch := some ⟨provider, true, false⟩ } := fun _ =>
        ⟨rfl, rfl, rfl, rfl, .inl rfl⟩
  split
  · next hapi =>
    split_ifs
    · exact Returns.pure (Done.nothing rfl)
    · refine save_bind ?_
      refine Returns.pure (Done.saved ?_ hself hlk (hcont none))
      show (s.lifetimes.lookup handle).bind _ = none
      rw [hlk, Option.bind_some, hapi]
      rfl
  · next policy hapi =>
    refine snapshotOf_bind ?_
    split
    · exact Returns.pure (Done.nothing rfl)
    · exact Returns.pure (Done.nothing rfl)
    · next plan hplan =>
      refine writeUsage_bind ?_
      refine save_bind ?_
      refine Returns.pure (Done.charged ⟨.dispatch, policy, row.requestId⟩ ?_
        (Releases.refl now _) (SameRequests.refl _) (planApiKeyUsageDispatch_allowed hplan) hself
        hlk (hcont _) hapi rfl nofun)
      show (s.lifetimes.lookup handle).bind _ = _
      rw [hlk, Option.bind_some, hapi]
      rfl

omit hhnd in
/-- A release does what `Done` says. -/
theorem release_done : Returns (NativeAuthorityApi.release cap handle reason now) s
      (Done now s (.release cap handle reason)) := by
  refine request_bind fun row hlk _ => ?_
  split
  · exact Returns.throw
  split
  · exact Returns.pure (Done.nothing rfl)
  · next policy hapi =>
    refine snapshotOf_bind ?_
    split
    · next plan hplan =>
      refine writeUsage_bind ?_
      have hann : announced s (.release cap handle reason) (.ok .released)
          = some ⟨.release, policy, row.requestId⟩ := by
        show (s.lifetimes.lookup handle).bind _ = _
        rw [hlk, Option.bind_some, hapi]
        rfl
      have halw := planApiKeyUsageReservedRelease_allowed rfl hplan
      refine Returns.pure ⟨?_, Kept.of_eq rfl, rfl, ?_, ?_⟩
      · rw [hann]
        exact (Releases.refl now s).charge halw
      · rw [hann]
        rintro _ ⟨⟩
        exact ⟨row, hlk, hapi, rfl⟩
      · rw [hann]
        rintro _ ⟨⟩ hkind
        cases hkind
    · next plan hoth =>
      refine Returns.pure (Done.nothing ?_)
      exact announced_release_eq_none (settledReply_ne_released hoth)

/-- A cancellation does what `Done` says. -/
theorem cancel_done :
    Returns (NativeAuthorityApi.cancel cap handle now) s (Done now s (.cancel cap handle)) := by
  refine request_bind fun row hlk _ => ?_
  have hself : row.handle = handle := hhnd handle row hlk
  split
  · exact Returns.throw
  · next dispatch _ =>
    have hcont : ∀ charge, Continues charge row { row with
        dispatch := some { dispatch with cancellationOwned := false } } :=
      fun _ => ⟨rfl, rfl, rfl, rfl, .inl rfl⟩
    split
    · exact Returns.throw
    split
    · next hapi =>
      refine save_bind ?_
      refine Returns.pure (Done.saved ?_ hself hlk (hcont none))
      show (s.lifetimes.lookup handle).bind _ = none
      rw [hlk, Option.bind_some, hapi]
      rfl
    · next policy hapi =>
      refine snapshotOf_bind ?_
      split
      · next plan hplan =>
        refine writeUsage_bind ?_
        refine save_bind ?_
        refine Returns.pure (Done.charged ⟨.cancel, policy, row.requestId⟩ ?_ (Releases.refl now _)
          (SameRequests.refl _) (planApiKeyUsageDispatchCancellation_allowed hplan) hself hlk
          (hcont _) hapi rfl nofun)
        show (s.lifetimes.lookup handle).bind _ = _
        rw [hlk, Option.bind_some, hapi]
        rfl
      · next plan hoth =>
        refine Returns.pure (Done.nothing ?_)
        exact announced_cancel_eq_none (settledReply_ne_released hoth)

omit hhnd in
theorem assertDispatchReceipt_returns :
    Returns (assertDispatchReceipt row now) s fun _ s' => s' = s := by
  refine Returns.get_bind ?_
  dsimp only
  split
  · exact Returns.throw
  · exact Returns.pure rfl

theorem start_done : Returns (NativeAuthorityApi.start cap handle responding operationId now) s
      (Done now s (.start cap handle responding operationId)) := by
  refine request_bind fun row hlk _ => ?_
  have hself : row.handle = handle := hhnd handle row hlk
  refine Returns.bind (Returns.mono assertDispatchReceipt_returns ?_)
  rintro _ s rfl
  split
  · exact Returns.throw
  split
  · exact Returns.pure (Done.nothing rfl)
  split
  · exact Returns.throw
  · refine save_bind ?_
    exact Returns.pure (Done.saved rfl hself hlk ⟨rfl, rfl, rfl, rfl, .inl rfl⟩)

/-- **What a command does**, unless it opens a request. -/
theorem ApiOperation.body_done (operation : ApiOperation) (hled : Ledger now s)
    (hops : ∀ cap requestId route path handle,
      operation ≠ .openRequest cap requestId route path handle) :
    Returns (operation.body now) s (Done now s operation) := by
  cases operation with
  | administer =>
    refine Returns.bind (Returns.modify (Returns.pure ?_))
    exact Done.uncharged rfl ((Releases.refl now s).effect.other rfl rfl) (Kept.of_eq rfl) rfl
  | openRequest => exact absurd rfl (hops _ _ _ _ _)
  | reserve => exact reserve_done hhnd hled
  | dispatch => exact dispatch_done hhnd
  | start => exact start_done hhnd
  | release => exact release_done
  | cancel => exact cancel_done hhnd
  | inspectKeyReset =>
    refine Returns.bind (Returns.get_bind (Returns.mono (inspectPages_returns _ hled) ?_))
    rintro live s' ⟨hrels, heq⟩
    exact Returns.pure (Done.released rfl hrels heq)
  | observe handle observation =>
    refine Returns.get_bind ?_
    split
    · exact Returns.throw
    · next row hlk =>
      have hself : row.handle = handle := hhnd handle row hlk
      refine save_bind ?_
      have hcont : Continues none row (row.observed observation) :=
        ⟨rfl, rfl, rfl, rfl, .inl rfl⟩
      exact Returns.pure (Done.saved rfl hself hlk hcont)

/-- A request that was opened before is found again; a new one has no policy yet. -/
inductive Opening (cap : NativeCapability) (requestId handle : String) (s : SqlState) :
    SqlState → Prop
  | found : Opening cap requestId handle s s
  | new {row : NativeRequest} {prior : RuntimeRequest}
      (hno : s.opened.lookup (cap.principalId, requestId) = none)
      (hhandle : row.handle = handle) (hprc : row.principalId = cap.principalId)
      (hreq : row.requestId = requestId) (hapi : row.api = none)
      (hpri : prior.handle = handle) :
      Opening cap requestId handle s { s with
        lifetimes := s.lifetimes.insert handle row
        opened := s.opened.insert (cap.principalId, requestId) prior }

omit hhnd in
theorem openRequest_opening :
    Returns (openRequest cap requestId route path handle now) s fun _ s' =>
      Opening cap requestId handle s s' := by
  refine Returns.get_bind ?_
  split
  · exact Returns.pure .found
  refine Returns.get_bind ?_
  split
  · split_ifs
    · exact Returns.throw
    · exact Returns.pure .found
  · next hno =>
    refine save_bind ?_
    refine Returns.bind (Returns.modify (Returns.pure ?_))
    exact .new hno rfl rfl rfl rfl rfl

end Effects

/-! ### Runs -/

/-- What a command announces: when, for which request, the charge and the policy that was in force
for it. -/
structure Announcement where
  nowMs : ℤ
  handle : String
  charge : Charge
  inForce : Option ApiKeyPolicy

/-- What is announced with the answer to a command. -/
def announcements (now : ℤ) (s : SqlState) (operation : ApiOperation)
    (reply : Except String NativeReply) : List Announcement :=
  (announced s operation reply).toList.map fun charge =>
    ⟨now, operation.handle, charge, policyInForce s now operation⟩

/-- The identifier of a request that is opened is new. -/
def ApiOperation.Fresh (operation : ApiOperation) (s : SqlState) : Prop :=
  ∀ cap requestId route path handle, operation = .openRequest cap requestId route path handle →
    s.lifetimes.lookup handle = none

/-- The tables of a new authority. -/
def SqlState.initial (policies : String → String → Option NativeKeyPolicy) : SqlState :=
  ⟨.empty, .empty, .empty, .empty, policies⟩

/-- The runs of the authority: the time and the tables after the last command, and what was
announced, newest first.  `clock` says which times may follow each other. -/
inductive ApiRun (clock : ℤ → ℤ → Prop) : ℤ → SqlState → List Announcement → Prop
  | start (now : ℤ) (policies : String → String → Option NativeKeyPolicy) :
      ApiRun clock now (.initial policies) []
  | step {now : ℤ} {s : SqlState} {log : List Announcement} (h : ApiRun clock now s log) (now' : ℤ)
      (hclk : clock now now') (operation : ApiOperation) (hfr : operation.Fresh s) :
      ApiRun clock now' (operation.execute now' s).2
        (announcements now' s operation (operation.execute now' s).1 ++ log)

instance (operation : ApiOperation) (s : SqlState) : Decidable (operation.Fresh s) :=
  match operation with
  | .openRequest cap requestId route path handle =>
    decidable_of_iff (s.lifetimes.lookup handle = none) (by
      refine ⟨?_, fun h => h cap requestId route path handle rfl⟩
      rintro hno _ _ _ _ _ ⟨⟩
      exact hno)
  | .administer _ | .reserve _ _ | .dispatch _ _ _ | .start _ _ _ _ | .release _ _ _
  | .cancel _ _ | .inspectKeyReset _ | .observe _ _ => isTrue (by rintro _ _ _ _ _ ⟨⟩)

/-- The commands may follow each other. -/
def Admissible (clock : ℤ → ℤ → Prop) : ℤ → SqlState → List (ℤ × ApiOperation) → Prop
  | _, _, [] => True
  | now, s, (now', operation) :: rest =>
    clock now now' ∧ operation.Fresh s ∧ Admissible clock now' (operation.execute now' s).2 rest

instance decidableAdmissible (clock : ℤ → ℤ → Prop) [DecidableRel clock] :
    (now : ℤ) → (s : SqlState) → (commands : List (ℤ × ApiOperation)) →
      Decidable (Admissible clock now s commands)
  | _, _, [] => isTrue trivial
  | now, s, (now', operation) :: rest =>
    have := decidableAdmissible clock now' (operation.execute now' s).2 rest
    inferInstanceAs (Decidable (clock now now' ∧ operation.Fresh s ∧
      Admissible clock now' (operation.execute now' s).2 rest))

/-- The tables and the log after the commands. -/
def executeAll : SqlState → List Announcement → List (ℤ × ApiOperation) →
    SqlState × List Announcement
  | s, log, [] => (s, log)
  | s, log, (now, operation) :: rest =>
    executeAll (operation.execute now s).2
      (announcements now s operation (operation.execute now s).1 ++ log) rest

theorem ApiRun.executeAll (commands : List (ℤ × ApiOperation)) :
    ∀ {now : ℤ} {s : SqlState} {log : List Announcement}, ApiRun clock now s log →
      Admissible clock now s commands →
      ApiRun clock ((commands.map Prod.fst).getLast?.getD now) (executeAll s log commands).1
        (executeAll s log commands).2 := by
  induction commands with
  | nil => exact fun h _ => h
  | cons command _ ih =>
    intro now s log h hadmissible
    obtain ⟨now', operation⟩ := command
    obtain ⟨hclk, hfr, hrest⟩ := hadmissible
    have hrun := ih (h.step now' hclk operation hfr) hrest
    rw [List.map_cons, List.getLast?_cons, Option.getD_some]
    exact hrun

end UbqGateway.ApiKey
