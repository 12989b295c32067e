import UbqGateway.Library.Interleaving
import Mathlib.Data.Prod.Lex
import Mathlib.Data.String.Basic

/-!
# The kernel quota's data model

The types of `src/authority/native-kernel-contracts.ts`, and the keys and values of the store that
the kernel quota shares between all its clients.

In the source an identity is a scope, an owner and a repository that is `undefined` exactly for the
scope `org`; here the two kinds are two constructors, so an identity with a missing repository
cannot be built.  Every record carries its identity, which is what `validIdentity` compares; the
version field `v` is `2` in all of them and is left out.  Numbers are integers: the source stores
safe integers, and its validators (`Number.isSafeInteger`) are kept as checks.
-/

namespace UbqGateway.Kernel

/-! ### Records -/

/-- `KernelQuotaIdentity`: the quota of one repository or of one organisation. -/
inductive KernelQuotaIdentity
  | repo (owner repo : String)
  | org (owner : String)
deriving DecidableEq

structure KernelQuotaPolicyV2 where
  identity : KernelQuotaIdentity
  usageLimitRequests : ℤ
  windowMs : ℤ
  expiresAtMs : ℤ
  createdAtMs : ℤ
  updatedAtMs : ℤ
deriving DecidableEq

structure KernelQuotaWindowV2 where
  identity : KernelQuotaIdentity
  usageRequests : ℤ
  reservedRequests : ℤ
  usageResetAtMs : ℤ
  appliedWindowMs : ℤ
  createdAtMs : ℤ
  updatedAtMs : ℤ
deriving DecidableEq

inductive ReservationState
  | reserved
  | committed
  | released
deriving DecidableEq

/-- The states a reservation can be settled into. -/
inductive TerminalState
  | committed
  | released
deriving DecidableEq

def TerminalState.state : TerminalState → ReservationState
  | .committed => .committed
  | .released => .released

structure KernelQuotaReservationRowV2 where
  identity : KernelQuotaIdentity
  requestId : String
  route : String
  windowCreatedAtMs : ℤ
  windowResetAtMs : ℤ
  state : ReservationState
  terminalIntent : Option TerminalState
  reservedAtMs : ℤ
  leaseExpiresAtMs : ℤ
  committedAtMs : Option ℤ
  releasedAtMs : Option ℤ
  releaseReason : Option String
deriving DecidableEq

structure KernelDefaultWindowCutoverV2 where
  id : String
  createdAtMs : ℤ
  expiresAtMs : ℤ
deriving DecidableEq

structure KernelQuotaDefaults where
  limit : ℤ
  windowMs : ℤ

inductive PolicySource
  | default
  | kv
deriving DecidableEq

structure KernelQuotaEffectivePolicy where
  policy : Option KernelQuotaPolicyV2
  limit : ℤ
  windowMs : ℤ
  expiresAtMs : ℤ
  source : PolicySource

structure KernelQuotaEffectiveWindow where
  window : KernelQuotaWindowV2
  needsWrite : Bool

structure KernelQuotaPolicySetOptions where
  resetUsage : Bool := false
  windowMs : Option ℤ := none
  expiresAtMs : Option ℤ := none

structure KernelQuotaReservationIdentity where
  identity : KernelQuotaIdentity
  windowCreatedAtMs : ℤ
  requestId : String
  route : String
deriving DecidableEq

/-! ### Plans -/

inductive KernelReservationSettlement
  | settled
  | terminalMismatch
  | missing
  | invalid
  | conflict
deriving DecidableEq

structure KernelQuotaRefusal where
  status : ℕ
  message : String
deriving DecidableEq

inductive KernelQuotaEligibilityPlan
  | refused (refusal : KernelQuotaRefusal)
  | eligible (effective : KernelQuotaEffectivePolicy)

inductive KernelQuotaReservePlan
  | refused (refusal : KernelQuotaRefusal)
  | full (window : KernelQuotaWindowV2) (limit : ℤ)
  | reserve (reservation : KernelQuotaReservationRowV2) (window : KernelQuotaWindowV2)

inductive KernelQuotaTerminalPlan
  | unchanged (outcome : KernelReservationSettlement)
  | intent (reservation : KernelQuotaReservationRowV2) (leaseExpiresAtMs : ℤ)

inductive KernelQuotaSettlePlan
  | unchanged (outcome : KernelReservationSettlement)
  | settle (reservation : KernelQuotaReservationRowV2) (window : Option KernelQuotaWindowV2)

/-- Why a default-window cutover was not acquired. -/
inductive CutoverRefusal
  | activeReservations
  | concurrentChange
  | unavailable

inductive KernelQuotaCutoverPlan
  | refused (reason : CutoverRefusal)
  | acquire (marker : KernelDefaultWindowCutoverV2)

/-! ### The store -/

inductive KvKey
  | policy (identity : KernelQuotaIdentity)
  | window (identity : KernelQuotaIdentity)
  | reservation (identity : KernelQuotaIdentity) (windowCreatedAtMs : ℤ) (requestId : String)
  | defaultLimit
  | defaultWindow
  | defaultWindowCutover
  | runtimeConfig
deriving DecidableEq

/-- What the store can hold under a key.  A `legacyWindow` is a window that a writer from before
the reservations stored, without the field `reserved_requests`. -/
inductive KernelValue
  | policy (policy : KernelQuotaPolicyV2)
  | window (window : KernelQuotaWindowV2)
  | legacyWindow (window : KernelQuotaWindowV2)
  | reservation (row : KernelQuotaReservationRowV2)
  | cutover (marker : KernelDefaultWindowCutoverV2)
  | number (value : ℤ)
  | runtimeConfig (config : String)
deriving DecidableEq

/-- The parts of a key, most significant first: the position of its prefix among the prefixes, the
owner, the repository, the creation time of the window, the request. -/
def KvKey.parts : KvKey → ℕ ×ₗ String ×ₗ String ×ₗ ℤ ×ₗ String
  | .defaultLimit => toLex (0, toLex ("", toLex ("", toLex (0, ""))))
  | .defaultWindow => toLex (1, toLex ("", toLex ("", toLex (0, ""))))
  | .defaultWindowCutover => toLex (2, toLex ("", toLex ("", toLex (0, ""))))
  | .policy (.org owner) => toLex (3, toLex (owner, toLex ("", toLex (0, ""))))
  | .reservation (.org owner) createdAtMs requestId =>
    toLex (4, toLex (owner, toLex ("", toLex (createdAtMs, requestId))))
  | .window (.org owner) => toLex (5, toLex (owner, toLex ("", toLex (0, ""))))
  | .policy (.repo owner repo) => toLex (6, toLex (owner, toLex (repo, toLex (0, ""))))
  | .reservation (.repo owner repo) createdAtMs requestId =>
    toLex (7, toLex (owner, toLex (repo, toLex (createdAtMs, requestId))))
  | .window (.repo owner repo) => toLex (8, toLex (owner, toLex (repo, toLex (0, ""))))
  | .runtimeConfig => toLex (9, toLex ("", toLex ("", toLex (0, ""))))

theorem KvKey.parts_injective : Function.Injective KvKey.parts := by
  intro j k h
  rcases j with (_ | _) | (_ | _) | ⟨_ | _, _, _⟩ | _ | _ | _ | _ <;>
    rcases k with (_ | _) | (_ | _) | ⟨_ | _, _, _⟩ | _ | _ | _ | _ <;> simp_all [KvKey.parts]

/-- The order in which the store lists its keys. -/
instance : LinearOrder KvKey := LinearOrder.lift' KvKey.parts KvKey.parts_injective

/-- The store of the kernel quota. -/
abbrev KernelKv := Kv KvKey KernelValue

end UbqGateway.Kernel
