import UbqGateway.Paid.NativePaid

/-!
# Lifecycle patches

A patch of the lifecycle sets a field of a request row only where the row has none yet.  `Lasting`
states what a later row keeps of an earlier one; a patch keeps it (`lasting_patchedRow`), and since
it is transitive, so does any sequence of patches.
-/

namespace UbqGateway.Paid

/-- The row after a patch that comes at a moment: the one that is planned, or the same row where
nothing changes. -/
def patchedRow (row : PaidFallbackRequestV3) (patch : PaidFallbackRequestLifecyclePatchV3 × ℤ) :
    PaidFallbackRequestV3 :=
  (planPaidFallbackLifecycleV3 row patch.1 patch.2).elim row NativePaidLifecyclePlan.request

/-- `row'` has what was set in `row`, and the same bill, reservation and window. -/
structure Lasting (row row' : PaidFallbackRequestV3) : Prop where
  provider : row.provider ≠ none → row'.provider = row.provider
  providerRequestId : row.providerRequestId ≠ none → row'.providerRequestId = row.providerRequestId
  dispatchState : row.dispatchState ≠ .reserved → row'.dispatchState = row.dispatchState
  terminalState : row.terminalState ≠ .pending → row'.terminalState = row.terminalState
  dispatchedAtMs : row.dispatchedAtMs ≠ none → row'.dispatchedAtMs = row.dispatchedAtMs
  terminalAtMs : row.terminalAtMs ≠ none → row'.terminalAtMs = row.terminalAtMs
  billing : row'.billingState = row.billingState ∧ row'.settledAtMs = row.settledAtMs
  spend : row'.spendMicrocredits = row.spendMicrocredits ∧ row'.providerQuota = row.providerQuota
  reservation : row'.reservedMicrocredits = row.reservedMicrocredits ∧
    row'.quotaPerCredit = row.quotaPerCredit
  window : row'.keyId = row.keyId ∧ row'.policyVersion = row.policyVersion ∧
    row'.windowResetAtMs = row.windowResetAtMs

theorem Lasting.refl (row : PaidFallbackRequestV3) : Lasting row row :=
  ⟨fun _ => rfl, fun _ => rfl, fun _ => rfl, fun _ => rfl, fun _ => rfl, fun _ => rfl, ⟨rfl, rfl⟩,
    ⟨rfl, rfl⟩, ⟨rfl, rfl⟩, ⟨rfl, rfl, rfl⟩⟩

theorem kept_trans (hxy : x ≠ unset → y = x) (hyz : y ≠ unset → z = y) (hset : x ≠ unset) :
    z = x := by
  have hy : y = x := hxy hset
  rw [hyz (hy ▸ hset), hy]

theorem Lasting.trans (hab : Lasting a b) (hbc : Lasting b c) : Lasting a c where
  provider := kept_trans hab.provider hbc.provider
  providerRequestId := kept_trans hab.providerRequestId hbc.providerRequestId
  dispatchState := kept_trans hab.dispatchState hbc.dispatchState
  terminalState := kept_trans hab.terminalState hbc.terminalState
  dispatchedAtMs := kept_trans hab.dispatchedAtMs hbc.dispatchedAtMs
  terminalAtMs := kept_trans hab.terminalAtMs hbc.terminalAtMs
  billing := ⟨hbc.billing.1.trans hab.billing.1, hbc.billing.2.trans hab.billing.2⟩
  spend := ⟨hbc.spend.1.trans hab.spend.1, hbc.spend.2.trans hab.spend.2⟩
  reservation := ⟨hbc.reservation.1.trans hab.reservation.1,
    hbc.reservation.2.trans hab.reservation.2⟩
  window := ⟨hbc.window.1.trans hab.window.1, hbc.window.2.1.trans hab.window.2.1,
    hbc.window.2.2.trans hab.window.2.2⟩

theorem or_of_ne_none (hset : x ≠ none) : x.or y = x := by
  cases x with
  | none => exact absurd rfl hset
  | some value => rfl

theorem lasting_patchedRow (row : PaidFallbackRequestV3)
    (patch : PaidFallbackRequestLifecyclePatchV3 × ℤ) : Lasting row (patchedRow row patch) := by
  unfold patchedRow planPaidFallbackLifecycleV3
  dsimp only
  split_ifs
  · refine ⟨fun hset => ?_, or_of_ne_none, fun hset => if_neg hset, fun hset => if_neg hset,
      fun hset => if_neg fun h => hset h.2, fun hset => if_neg fun h => hset h.2, ⟨rfl, rfl⟩,
      ⟨rfl, rfl⟩, ⟨rfl, rfl⟩, ⟨rfl, rfl, rfl⟩⟩
    -- the provider of the resolved patch falls back on that of the row once more
    show (row.provider.or patch.1.provider).or row.provider = row.provider
    rw [or_of_ne_none hset, or_of_ne_none hset]
  · exact Lasting.refl row

/-- Whatever a lifecycle sets, however the patches that follow are ordered, stays as it was set, and
none of them touches the bill, the reservation or the window. -/
theorem lifecycle_write_once (row : PaidFallbackRequestV3)
    (earlier later : List (PaidFallbackRequestLifecyclePatchV3 × ℤ)) :
    Lasting (earlier.foldl patchedRow row) ((earlier ++ later).foldl patchedRow row) := by
  rw [List.foldl_append]
  generalize earlier.foldl patchedRow row = reached
  induction later generalizing reached with
  | nil => exact Lasting.refl reached
  | cons patch _ ih =>
    rw [List.foldl_cons]
    exact (lasting_patchedRow reached patch).trans (ih _)

end UbqGateway.Paid
