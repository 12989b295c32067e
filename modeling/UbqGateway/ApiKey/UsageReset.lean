import UbqGateway.ApiKey.NativeAuthorityApi

/-!
# Usage windows and their resets

`currentApiKeyUsageWindow` divides the time from an anchor on into windows of one length, and the
window of a moment is the one with the index of `IsIndex`.  `buildApiKeyUpdateRecord` of
`src/authority/native-api-key-policy.ts` moves the anchor.  It takes the window to be replaced for
the one that the record stores: the fresh window starts later than the current one except when the
reset comes at the very moment at which a later window starts.
-/

namespace UbqGateway.ApiKey

/-! ### Windows -/

/-- `k` is the index of the window of `t`, of those of length `w` from `start` on. -/
structure IsIndex (start w t k : ℤ) : Prop where
  nonneg : 0 ≤ k
  before : t < start + k * w + w
  started : k = 0 ∨ start + k * w ≤ t

variable {k m : ℤ}

theorem windows_ordered (hw : 0 < w) (hlt : k < m) : k * w + w ≤ m * w := by
  have := Int.mul_le_mul_of_nonneg_right (show k + 1 ≤ m by omega) hw.le
  rwa [add_mul, one_mul] at this

theorem IsIndex.le (hw : 0 < w) (hk : IsIndex start w t k) (hm : IsIndex start w t m) : k ≤ m := by
  by_contra hlt
  have hstep := windows_ordered hw (show m < k by omega)
  have hbef := hm.before
  have hnn := hm.nonneg
  rcases hk.started with rfl | hstrd
  · omega
  · omega

theorem IsIndex.unique (hw : 0 < w) (hk : IsIndex start w t k) (hm : IsIndex start w t m) : k = m :=
  (hk.le hw hm).antisymm (hm.le hw hk)

theorem exists_index (reset t : ℤ) (hw : 0 < w) : ∃ k, IsIndex (reset - w) w t k ∧
    currentApiKeyUsageWindow reset w t = (reset - w + k * w, reset - w + k * w + w) := by
  unfold currentApiKeyUsageWindow
  dsimp only
  split_ifs with hfst
  · refine ⟨0, ⟨le_refl 0, by omega, .inl rfl⟩, ?_⟩
    rw [zero_mul, add_zero, sub_add_cancel]
  · rw [Int.fdiv_eq_ediv_of_nonneg _ hw.le]
    have hdiv := Int.mul_ediv_add_emod (t - (reset - w)) w
    have hmod := Int.emod_nonneg (t - (reset - w)) hw.ne'
    have hlt := Int.emod_lt_of_pos (t - (reset - w)) hw
    rw [mul_comm] at hdiv
    exact ⟨_, ⟨Int.ediv_nonneg (by omega) hw.le, by omega, .inr (by omega)⟩, rfl⟩

/-- The windows of an anchor are aligned to it, each moment from the start of the first on lies in
its window, two windows are equal or disjoint, and the end of a window is an anchor of all later
ones. -/
structure TilesTime (usageResetAtMs windowMs : ℤ) : Prop where
  aligned : ∀ now, let window := currentApiKeyUsageWindow usageResetAtMs windowMs now
    window.2 - window.1 = windowMs ∧ windowMs ∣ window.1 - usageResetAtMs
  contains : ∀ now, usageResetAtMs - windowMs ≤ now →
    let window := currentApiKeyUsageWindow usageResetAtMs windowMs now
    window.1 ≤ now ∧ now < window.2
  disjoint : ∀ now now', let window := currentApiKeyUsageWindow usageResetAtMs windowMs now
    let window' := currentApiKeyUsageWindow usageResetAtMs windowMs now'
    window = window' ∨ window.2 ≤ window'.1 ∨ window'.2 ≤ window.1
  anchors : ∀ now later, now ≤ later →
    currentApiKeyUsageWindow (currentApiKeyUsageWindow usageResetAtMs windowMs now).2 windowMs later
      = currentApiKeyUsageWindow usageResetAtMs windowMs later

theorem tilesTime (reset : ℤ) (hw : 0 < w) : TilesTime reset w := by
  constructor
  · intro now
    obtain ⟨k, -, heq⟩ := exists_index reset now hw
    rw [heq]
    refine ⟨by dsimp only; omega, k - 1, ?_⟩
    dsimp only
    rw [mul_sub, mul_one, mul_comm w k]
    omega
  · intro now hnow
    obtain ⟨k, hk, heq⟩ := exists_index reset now hw
    rw [heq]
    refine ⟨?_, hk.before⟩
    rcases hk.started with rfl | hstrd
    · rw [zero_mul, add_zero]
      exact hnow
    · exact hstrd
  · intro now now'
    obtain ⟨k, -, heq⟩ := exists_index reset now hw
    obtain ⟨m, -, heq'⟩ := exists_index reset now' hw
    rw [heq, heq']
    rcases lt_trichotomy k m with hlt | rfl | hlt
    · have hle := windows_ordered hw hlt
      exact .inr (.inl (by dsimp only; omega))
    · exact .inl rfl
    · have hle := windows_ordered hw hlt
      exact .inr (.inr (by dsimp only; omega))
  · intro now later hlat
    obtain ⟨k, hk, heq⟩ := exists_index reset now hw
    obtain ⟨m, hm, heqm⟩ := exists_index reset later hw
    obtain ⟨n, hn, heqn⟩ := exists_index (reset - w + k * w + w) later hw
    have hnk := add_mul k n w
    -- counted from the old anchor, the window has the index `k + n`
    have hix : IsIndex (reset - w) w later (k + n) := by
      refine ⟨Int.add_nonneg hk.nonneg hn.nonneg, ?_, ?_⟩
      · have := hn.before
        omega
      · have hkstarted := hk.started
        rcases hn.started with rfl | hstrd
        · rw [add_zero] at hnk ⊢
          omega
        · right
          omega
    obtain rfl := hm.unique hw hix
    rw [heq, heqn, heqm, hnk, add_sub_cancel_right, ← add_assoc]

/-! ### Resets -/

structure ApiKeyRecord where
  id : String
  name : String
  expiresAtMs : ℤ
  usageLimitRequests : ℤ
  usageRequests : ℤ
  usageResetAtMs : ℤ
  windowMs : ℤ
  paidFallbackEnabled : Bool
  paidFallbackLimitMicrocredits : ℤ
  paidFallbackSpentMicrocredits : ℤ
  paidFallbackReservedMicrocredits : ℤ
  paidFallbackReservationRequestId : Option String
  paidFallbackModelIds : List String
  paidFallbackQuotaPerCredit : ℤ
  paidFallbackMaxExposureMicrocredits : Option (List (String × ℤ))
  paidFallbackPricingCheckedAtMs : Option ℤ

structure ApiKeyUpdateFields where
  name : String
  expiresAtMs : ℤ
  usageLimitRequests : ℤ
  windowMs : ℤ
  paidFallbackEnabled : Bool
  paidFallbackLimitMicrocredits : ℤ
  paidFallbackModelIds : List String
  paidFallbackQuotaPerCredit : ℤ
  paidFallbackMaxExposureMicrocredits : List (String × ℤ)
  paidFallbackPricingCheckedAtMs : Option ℤ
  resetUsage : Bool

structure ApiKeyUpdate where
  updated : ApiKeyRecord
  resetUsage : Bool
  replaceQuotaWindow : Bool

def buildApiKeyUpdateRecord (record : ApiKeyRecord) (fields : ApiKeyUpdateFields)
    (nowMs currentWindowMs : ℤ) : ApiKeyUpdate :=
  let replaceQuotaWindow := fields.resetUsage || decide (fields.windowMs ≠ currentWindowMs)
  let currentWindowStartMs := record.usageResetAtMs - currentWindowMs
  let freshWindowStartMs := max nowMs (currentWindowStartMs + 1)
  { updated := { record with
      name := fields.name
      expiresAtMs := fields.expiresAtMs
      usageLimitRequests := fields.usageLimitRequests
      usageRequests := if replaceQuotaWindow = true then 0 else record.usageRequests
      usageResetAtMs := if replaceQuotaWindow = true then freshWindowStartMs + fields.windowMs
        else record.usageResetAtMs
      windowMs := fields.windowMs
      paidFallbackEnabled := fields.paidFallbackEnabled
      paidFallbackLimitMicrocredits := fields.paidFallbackLimitMicrocredits
      paidFallbackSpentMicrocredits :=
        if replaceQuotaWindow = true then 0 else record.paidFallbackSpentMicrocredits
      paidFallbackModelIds := fields.paidFallbackModelIds
      paidFallbackQuotaPerCredit := fields.paidFallbackQuotaPerCredit
      paidFallbackMaxExposureMicrocredits := some fields.paidFallbackMaxExposureMicrocredits
      paidFallbackPricingCheckedAtMs := fields.paidFallbackPricingCheckedAtMs }
    resetUsage := fields.resetUsage
    replaceQuotaWindow := replaceQuotaWindow }

def apiKeyUsageV3PolicyVersion (windowMs : ℤ) : String := "v3:" ++ windowMs.repr

/-- The key of the window that a record selects: `windowKey` of the policy that
`apiKeyPolicyFromHashRecord` makes of it. -/
def currentWindowKey (record : ApiKeyRecord) (windowMs nowMs : ℤ) : ApiWindowKey :=
  ⟨record.id, apiKeyUsageV3PolicyVersion windowMs,
    (currentApiKeyUsageWindow record.usageResetAtMs windowMs nowMs).1⟩

/-- The update selects a window that starts later than the current one, and no key that is in
use. -/
def SelectsLaterWindow (record : ApiKeyRecord) (fields : ApiKeyUpdateFields)
    (nowMs currentWindowMs : ℤ) : Prop :=
  let updated := (buildApiKeyUpdateRecord record fields nowMs currentWindowMs).updated
  (currentApiKeyUsageWindow record.usageResetAtMs currentWindowMs nowMs).1
      < (currentApiKeyUsageWindow updated.usageResetAtMs updated.windowMs nowMs).1 ∧
    currentWindowKey updated updated.windowMs nowMs ≠ currentWindowKey record currentWindowMs nowMs

/-- A moment after the stored window is the start of a window just if it is that far from the
reset. -/
theorem start_lt_iff (hw : 0 < w) (hnow : reset ≤ now) :
    (currentApiKeyUsageWindow reset w now).1 < now ↔ ¬ w ∣ now - reset := by
  obtain ⟨k, hk, heq⟩ := exists_index reset now hw
  have hstrd : reset - w + k * w ≤ now := by
    rcases hk.started with rfl | hstrd
    · rw [zero_mul]
      omega
    · exact hstrd
  rw [heq, ← not_le, not_iff_not]
  constructor
  · intro hle
    refine ⟨k - 1, ?_⟩
    rw [mul_sub, mul_one, mul_comm w k]
    dsimp only at hle
    omega
  · rintro ⟨m, hm⟩
    have hix : IsIndex (reset - w) w now (m + 1) := by
      have hm' : (m + 1) * w = now - reset + w := by rw [add_mul, one_mul, mul_comm m, ← hm]
      refine ⟨?_, by omega, .inr (by omega)⟩
      have hpos : -1 < m := by
        by_contra hneg
        have := Int.mul_le_mul_of_nonneg_left (show m ≤ -1 by omega) hw.le
        omega
      omega
    rw [hk.unique hw hix, add_mul, one_mul, mul_comm m, ← hm]
    dsimp only
    omega

theorem freshWindow_start
    (hreplace : (buildApiKeyUpdateRecord record fields now w).replaceQuotaWindow = true)
    (hfds : 0 < fields.windowMs) :
    (currentApiKeyUsageWindow (buildApiKeyUpdateRecord record fields now w).updated.usageResetAtMs
      (buildApiKeyUpdateRecord record fields now w).updated.windowMs now).1
      = max now (record.usageResetAtMs - w + 1) := by
  have hrst : (buildApiKeyUpdateRecord record fields now w).updated.usageResetAtMs
      = max now (record.usageResetAtMs - w + 1) + fields.windowMs := if_pos hreplace
  show (currentApiKeyUsageWindow _ fields.windowMs now).1 = _
  unfold currentApiKeyUsageWindow
  dsimp only
  rw [hrst, if_pos (by omega), add_sub_cancel_right]

/-- The windows of any anchor divide time; and a reset selects a later window than the current one
unless it comes exactly when a window after the stored one starts. The lengths of the windows are
taken to be safe integers. -/
theorem usage_windows_iff (record : ApiKeyRecord) (fields : ApiKeyUpdateFields) (now w : ℤ)
    (hw : 0 < w) (hfds : 0 < fields.windowMs)
    (hreplace : (buildApiKeyUpdateRecord record fields now w).replaceQuotaWindow = true) :
    TilesTime record.usageResetAtMs w ∧
      (SelectsLaterWindow record fields now w ↔
        now < record.usageResetAtMs ∨ ¬ w ∣ now - record.usageResetAtMs) := by
  refine ⟨tilesTime _ hw, ?_⟩
  have hlat : SelectsLaterWindow record fields now w ↔
      (currentApiKeyUsageWindow record.usageResetAtMs w now).1
        < max now (record.usageResetAtMs - w + 1) := by
    unfold SelectsLaterWindow
    dsimp only
    rw [freshWindow_start hreplace hfds]
    refine ⟨And.left, fun hlt => ⟨hlt, fun hkey => ?_⟩⟩
    have hstr := congrArg ApiWindowKey.windowStartMs hkey
    unfold currentWindowKey at hstr
    dsimp only at hstr
    rw [freshWindow_start hreplace hfds] at hstr
    omega
  rw [hlat]
  by_cases hfst : now < record.usageResetAtMs
  · have hstr : (currentApiKeyUsageWindow record.usageResetAtMs w now).1
        = record.usageResetAtMs - w := congrArg Prod.fst (if_pos hfst)
    rw [hstr]
    exact iff_of_true (by omega) (.inl hfst)
  · rw [max_eq_left (by omega), start_lt_iff hw (by omega), or_iff_right hfst]

/-- A key whose stored window is the first minute. -/
def minuteKey : ApiKeyRecord where
  id := "key"
  name := "key"
  expiresAtMs := -1
  usageLimitRequests := 100
  usageRequests := 7
  usageResetAtMs := 60000
  windowMs := 60000
  paidFallbackEnabled := false
  paidFallbackLimitMicrocredits := 0
  paidFallbackSpentMicrocredits := 0
  paidFallbackReservedMicrocredits := 0
  paidFallbackReservationRequestId := none
  paidFallbackModelIds := []
  paidFallbackQuotaPerCredit := 0
  paidFallbackMaxExposureMicrocredits := none
  paidFallbackPricingCheckedAtMs := none

/-- `reset_usage` and nothing else. -/
def resetOnly : ApiKeyUpdateFields := ⟨"key", -1, 100, 60000, false, 0, [], 0, [], none, true⟩

theorem usage_windows_minute : TilesTime 60000 60000 ∧
    (SelectsLaterWindow minuteKey resetOnly 60001 60000 ↔
      (60001 : ℤ) < 60000 ∨ ¬ (60000 : ℤ) ∣ 60001 - 60000) :=
  usage_windows_iff minuteKey resetOnly 60001 60000 (by decide) (by decide) rfl

/-- A reset at the first moment of the second minute selects the window that is in use. -/
theorem reset_reuses_window : ¬ SelectsLaterWindow minuteKey resetOnly 60000 60000 ∧
    currentWindowKey (buildApiKeyUpdateRecord minuteKey resetOnly 60000 60000).updated 60000 60000
      = currentWindowKey minuteKey 60000 60000 := by
  have hkey : currentWindowKey (buildApiKeyUpdateRecord minuteKey resetOnly 60000 60000).updated
      60000 60000 = currentWindowKey minuteKey 60000 60000 := by decide
  exact ⟨fun hlat => hlat.2 hkey, hkey⟩

end UbqGateway.ApiKey
