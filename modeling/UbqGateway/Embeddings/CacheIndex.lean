import UbqGateway.Library.Dates
import UbqGateway.Library.Programs
import Mathlib.Data.Prod.Lex
import Mathlib.Data.String.Basic

/-!
# The cache of embeddings

`writeEmbeddingsCacheEntry` and `evictOldestEmbeddingsCacheEntries` of `src/embeddings/voyage.ts`.
An entry of the cache is a value, a key in the index of its profile, a key in the index of all
profiles and a pointer from its hash to the time it was created; every transaction checks the
pointer only.

The type of the vectors is a parameter, and the times are those of `Date.now()`, which are naturals
that are time values.
-/

namespace UbqGateway.Embeddings

/-- The keys: `embeddingsCacheKey`, `embeddingsCacheIndexKey`, `embeddingsCacheGlobalIndexKey` and
`embeddingsCacheIndexByHashKey`. -/
inductive CacheKey
  | value (cacheProfileKey hash : String)
  | index (cacheProfileKey : String) (createdAtMs : ℕ) (hash : String)
  | globalIndex (createdAtMs : ℕ) (cacheProfileKey hash : String)
  | byHash (cacheProfileKey hash : String)
deriving DecidableEq

/-- The parts of a key; only the keys of the global index are listed. -/
def CacheKey.parts : CacheKey → ℕ ×ₗ ℕ ×ₗ String ×ₗ String
  | .value cacheProfileKey hash => toLex (0, toLex (0, toLex (cacheProfileKey, hash)))
  | .index cacheProfileKey createdAtMs hash =>
    toLex (1, toLex (createdAtMs, toLex (cacheProfileKey, hash)))
  | .globalIndex createdAtMs cacheProfileKey hash =>
    toLex (2, toLex (createdAtMs, toLex (cacheProfileKey, hash)))
  | .byHash cacheProfileKey hash => toLex (3, toLex (0, toLex (cacheProfileKey, hash)))

theorem CacheKey.parts_injective : Function.Injective CacheKey.parts := by
  intro j k h
  cases j <;> cases k <;> simp_all [CacheKey.parts]

/-- The order in which the store lists its keys. -/
instance : LinearOrder CacheKey := LinearOrder.lift' CacheKey.parts CacheKey.parts_injective

/-- The values: an embedding with the text of its time, or a number. -/
inductive CacheValue (ε : Type)
  | entry (embedding : ε) (createdAt : String)
  | number (n : ℕ)

/-- A key of the global index that was listed. -/
structure EvictionCandidate where
  cacheProfileKey : String
  createdAtMs : ℕ
  hash : String

/-- What a commit did: it wrote an entry, or it evicted a candidate whose pointer was read. -/
inductive CacheLabel (ε : Type)
  | write (cacheProfileKey hash : String) (createdAtMs : ℕ)
  | evict (candidate : EvictionCandidate) (pointerEntry : Option (Entry (CacheValue ε)))

section Cache

abbrev CacheM (ε α : Type) := Prog CacheKey (CacheValue ε) (CacheLabel ε) α

abbrev CacheKv (ε : Type) := Kv CacheKey (CacheValue ε)

/-- `normalizeEmbeddingsCacheTimestampMs`, of an entry that was read. -/
def pointerOf : Option (Entry (CacheValue ε)) → Option ℕ
  | some ⟨.number n, _⟩ => some n
  | _ => none

/-- `created_at` of a value that was read. -/
def createdAtOf : Option (Entry (CacheValue ε)) → Option String
  | some ⟨.entry _ createdAt, _⟩ => some createdAt
  | _ => none

/-! ### Writing -/

/-- The writes of an entry under the pointer that it has. -/
def refreshWrites (cacheProfileKey hash : String) (embedding : ε) (createdAtMs : ℕ) :
    List (Write CacheKey (CacheValue ε)) :=
  [.set (.value cacheProfileKey hash) (.entry embedding (toISOString createdAtMs)),
    .set (.index cacheProfileKey createdAtMs hash) (.number 1),
    .set (.globalIndex createdAtMs cacheProfileKey hash) (.number 1)]

/-- The writes of an entry with its pointer. -/
def createWrites (cacheProfileKey hash : String) (embedding : ε) (createdAtMs : ℕ) :
    List (Write CacheKey (CacheValue ε)) :=
  refreshWrites cacheProfileKey hash embedding createdAtMs ++
    [.set (.byHash cacheProfileKey hash) (.number createdAtMs)]

/-- The loop of `writeEmbeddingsCacheEntry`. -/
def writeEntryLoop (cacheProfileKey hash : String) (embedding : ε) (createdAtMs : ℕ) :
    ℕ → CacheM ε Bool
  | 0 => return false
  | attempts + 1 => do
    let entry ← Prog.get (.byHash cacheProfileKey hash)
    match pointerOf entry with
    | some existingCreatedAtMs =>
      let updated ← Prog.transaction (.write cacheProfileKey hash createdAtMs)
        [⟨.byHash cacheProfileKey hash, entry⟩]
        (refreshWrites cacheProfileKey hash embedding existingCreatedAtMs)
      if updated = true then return false
      else writeEntryLoop cacheProfileKey hash embedding createdAtMs attempts
    | none =>
      let created ← Prog.transaction (.write cacheProfileKey hash createdAtMs)
        [⟨.byHash cacheProfileKey hash, entry⟩]
        (createWrites cacheProfileKey hash embedding createdAtMs)
      if created = true then return true
      else writeEntryLoop cacheProfileKey hash embedding createdAtMs attempts

/-- `writeEmbeddingsCacheEntry`: whether the entry is new. -/
def writeEmbeddingsCacheEntry (cacheProfileKey hash : String) (embedding : ε) (createdAtMs : ℕ) :
    CacheM ε Bool :=
  writeEntryLoop cacheProfileKey hash embedding createdAtMs 5

/-! ### Evicting -/

/-- `embeddingsCacheGlobalIndexPrefix` -/
def isGlobalIndex : CacheKey → Bool
  | .globalIndex _ _ _ => true
  | _ => false

def candidateOf : CacheKey → Option EvictionCandidate
  | .globalIndex createdAtMs cacheProfileKey hash =>
    if hash = "" ∨ cacheProfileKey = "" then none else some ⟨cacheProfileKey, createdAtMs, hash⟩
  | _ => none

/-- `listEmbeddingsCacheEvictionCandidates`: at most `count` keys are listed. -/
def listCandidates : ℕ → Cursor CacheKey → CacheM ε (List EvictionCandidate)
  | 0, _ => return []
  | count + 1, cursor => .next isGlobalIndex cursor fun cursor listed =>
    match listed with
    | none => return []
    | some (key, _) => do
      let candidates ← listCandidates count cursor
      return (candidateOf key).toList ++ candidates

def deleteIndexes (candidate : EvictionCandidate) : List (Write CacheKey (CacheValue ε)) :=
  [.delete (.globalIndex candidate.createdAtMs candidate.cacheProfileKey candidate.hash),
    .delete (.index candidate.cacheProfileKey candidate.createdAtMs candidate.hash)]

/-- What came of a candidate. -/
structure EvictionOutcome where
  evicted : Bool
  deletedStaleIndexKey : Bool

/-- Only the index keys of a candidate are deleted. -/
def deleteStaleIndexes (candidate : EvictionCandidate)
    (pointerEntry : Option (Entry (CacheValue ε))) : CacheM ε EvictionOutcome := do
  let deleted ← Prog.transaction (.evict candidate pointerEntry)
    [⟨.byHash candidate.cacheProfileKey candidate.hash, pointerEntry⟩] (deleteIndexes candidate)
  return ⟨false, deleted⟩

def evictEmbeddingsCacheCandidate (candidate : EvictionCandidate)
    (pointerEntry : Option (Entry (CacheValue ε))) : CacheM ε EvictionOutcome :=
  match pointerOf pointerEntry with
  | some pointer =>
    if pointer ≠ candidate.createdAtMs then deleteStaleIndexes candidate pointerEntry
    else do
      let committed ← Prog.transaction (.evict candidate pointerEntry)
        [⟨.byHash candidate.cacheProfileKey candidate.hash, pointerEntry⟩]
        (deleteIndexes candidate ++
          [.delete (.value candidate.cacheProfileKey candidate.hash),
            .delete (.byHash candidate.cacheProfileKey candidate.hash)])
      return ⟨committed, false⟩
  | none => do
    let valueEntry ← Prog.get (.value candidate.cacheProfileKey candidate.hash)
    if createdAtOf valueEntry ≠ some (toISOString candidate.createdAtMs) then
      deleteStaleIndexes candidate pointerEntry
    else do
      let committed ← Prog.transaction (.evict candidate pointerEntry)
        [⟨.byHash candidate.cacheProfileKey candidate.hash, pointerEntry⟩]
        (deleteIndexes candidate ++ [.delete (.value candidate.cacheProfileKey candidate.hash)])
      return ⟨committed, false⟩

/-- `EmbeddingsCacheEvictResult` -/
structure EvictResult where
  evictedEmbeddings : ℕ
  deletedStaleIndexKeys : ℕ
deriving DecidableEq

/-- The result after one more candidate. -/
def EvictResult.add (result : EvictResult) (outcome : EvictionOutcome) : EvictResult :=
  ⟨result.evictedEmbeddings + outcome.evicted.toNat,
    result.deletedStaleIndexKeys + outcome.deletedStaleIndexKey.toNat⟩

/-- The loop of `evictOldestEmbeddingsCacheEntries`, with the pointers that were read. -/
def evictCandidates (byHashEntries : CacheKey → Option (Entry (CacheValue ε))) :
    List EvictionCandidate → EvictResult → CacheM ε EvictResult
  | [], result => return result
  | candidate :: candidates, result => do
    let outcome ← evictEmbeddingsCacheCandidate candidate
      (byHashEntries (.byHash candidate.cacheProfileKey candidate.hash))
    evictCandidates byHashEntries candidates (result.add outcome)

def evictOldestEmbeddingsCacheEntries (count : ℕ) : CacheM ε EvictResult := do
  let candidates ← listCandidates count Cursor.start
  let byHashEntries ← Prog.gets
    (candidates.map fun candidate => .byHash candidate.cacheProfileKey candidate.hash)
  evictCandidates byHashEntries candidates ⟨0, 0⟩

/-! ### Calls -/

/-- The calls, with the time at which a write is made. -/
inductive CacheCall (ε : Type)
  | write (cacheProfileKey hash : String) (embedding : ε) (createdAtMs : ℕ)
  | evict (count : ℕ)

/-- What a call returns. -/
inductive CacheReply
  | write (isNew : Bool)
  | evict (result : EvictResult)
deriving DecidableEq

def CacheCall.perform : CacheCall ε → CacheM ε CacheReply
  | .write cacheProfileKey hash embedding createdAtMs => do
    let isNew ← writeEmbeddingsCacheEntry cacheProfileKey hash embedding createdAtMs
    return .write isNew
  | .evict count => do
    let result ← evictOldestEmbeddingsCacheEntries count
    return .evict result

/-- A call with a time that `Date.now()` can show. -/
def CacheCall.Timely : CacheCall ε → Prop
  | .write _ _ _ createdAtMs => createdAtMs ≤ maxTimeValue
  | .evict _ => True

/-- The programs of all calls, each of which may throw anywhere: a commit that is rejected has no
effect, and an acknowledgement may be lost. -/
def cachePrograms (ε : Type) : Set (CacheM ε (Option CacheReply)) :=
  { p | ∃ (call : CacheCall ε) (n : ℕ), call.Timely ∧ p = call.perform.cut n }

end Cache

end UbqGateway.Embeddings
