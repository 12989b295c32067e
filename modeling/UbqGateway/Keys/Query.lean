import UbqGateway.Keys.TupleKey

/-!
# Queries

`rust/crates/gateway-core/src/query.rs`: selectors of keys, their validation into bounds on the
bytes of keys, and what a validated query accepts.
-/

namespace UbqGateway.Keys

/-- `QuerySelector`, with `stem` for the prefix. -/
inductive QuerySelector
  | within (stem : RecordKey) (start finish : Option RecordKey)
  | range (start finish : RecordKey)
deriving DecidableEq

structure QueryRequest where
  selector : QuerySelector
  reverse : Bool
  limit : ℕ
  cursor : Option String
  nowMs : ℤ

structure CursorSelector where
  stem : Option String
  start : Option String
  finish : Option String
deriving DecidableEq

def CursorSelector.from : QuerySelector → CursorSelector
  | .within stem start finish => ⟨some stem.text, start.map (·.text), finish.map (·.text)⟩
  | .range start finish => ⟨none, some start.text, some finish.text⟩

structure Cursor where
  version : ℕ
  selector : CursorSelector
  reverse : Bool
  lastKey : String

structure ValidatedQuery where
  lowerInclusive : List Byte
  upperExclusive : List Byte
  reverse : Bool
  limit : ℕ
  nowMs : ℤ
  stem : Option TupleKey
  resumeAfter : Option TupleKey
  binding : CursorSelector

def maxSafeInteger : ℤ := 9007199254740991

def invalidQuery (message : String) : GatewayError := ⟨400, message, some "invalid_query_selector"⟩

def invalidCursor : GatewayError :=
  ⟨400, "The query cursor is invalid for this selector and order.", some "invalid_query_cursor"⟩

def cursorPrefix : List Char := "query-v1:".toList

/-! ### Acceptance -/

def ValidatedQuery.passed (query : ValidatedQuery) (key : TupleKey) : Bool :=
  query.resumeAfter.any fun previous =>
    (!query.reverse && decide (key.sortBytes ≤ previous.sortBytes)) ||
      (query.reverse && decide (previous.sortBytes ≤ key.sortBytes))

/-- `accepts_key`, of a key that is not empty. -/
def ValidatedQuery.accepts (query : ValidatedQuery) (key : TupleKey) : Bool :=
  if key.sortBytes < query.lowerInclusive ∨ query.upperExclusive ≤ key.sortBytes then false
  else if (query.stem.any fun stem => !key.isStrictDescendantOf stem) = true then false
  else !query.passed key

def ValidatedQuery.acceptsKey (query : ValidatedQuery) (key : RecordKey) :
    Except GatewayError Bool := do
  let key ← fromRecordKey key
  let _ ← key.validateStoredKey
  return query.accepts key

/-! ### Validation -/

/-- `bound` of a prefix. -/
def boundBytes (stem : TupleKey) (key : RecordKey) : Except GatewayError (List Byte) := do
  let key ← fromRecordKey key
  if key.isStrictDescendantOf stem = true then
    return key.sortBytes
  else
    throw (invalidQuery "A prefix bound must be a strict descendant of its prefix.")

/-- The least bytes within a prefix, or those of the start. -/
def lowerBytes (stem : TupleKey) : Option RecordKey → Except GatewayError (List Byte)
  | some start => boundBytes stem start
  | none => .ok (stem.sortBytes ++ [0x01, 0])

/-- The first bytes beyond a prefix, or those of the end. -/
def upperBytes (stem : TupleKey) : Option RecordKey → Except GatewayError (List Byte)
  | some finish => boundBytes stem finish
  | none => .ok (stem.sortBytes ++ [0xff])

def QuerySelector.bounds :
    QuerySelector → Except GatewayError (List Byte × List Byte × Option TupleKey)
  | .within stem start finish =>
    if start.isSome = true ∧ finish.isSome = true then
      .error (invalidQuery "A prefix cannot have both start and end bounds.")
    else do
      let stem ← fromRecordKey stem
      let lower ← lowerBytes stem start
      let upper ← upperBytes stem finish
      return (lower, upper, some stem)
  | .range start finish => do
    let start ← fromRecordKey start
    let finish ← fromRecordKey finish
    if finish.sortBytes < start.sortBytes then
      throw (invalidQuery "A range start cannot be greater than its end.")
    else return (start.sortBytes, finish.sortBytes, none)

/-- The query after the last key of a cursor. -/
def ValidatedQuery.resume (validated : ValidatedQuery) (cursor : Cursor) :
    Except GatewayError ValidatedQuery :=
  if cursor.version ≠ 1 ∨ cursor.reverse ≠ validated.reverse ∨
    cursor.selector ≠ validated.binding then
    .error invalidCursor
  else do
    let accepted ← validated.acceptsKey ⟨cursor.lastKey⟩
    if accepted = true then
      let key ← fromRecordKey ⟨cursor.lastKey⟩
      return { validated with resumeAfter := some key }
    else throw invalidCursor

/-- The cursor of a token, given the reading of its JSON. -/
def readCursor (fromSlice : List Byte → Option Cursor) (token : String) : Option Cursor := do
  let encoded ← cursorPrefix.isPrefixOf? token.toList
  let bytes ← decodeHex encoded
  fromSlice bytes

/-- The query of a request without its cursor, given the bounds and the prefix. -/
def QueryRequest.unresumed (request : QueryRequest) (lower upper : List Byte)
    (stem : Option TupleKey) : ValidatedQuery where
  lowerInclusive := lower
  upperExclusive := upper
  reverse := request.reverse
  limit := request.limit
  nowMs := request.nowMs
  stem := stem
  resumeAfter := none
  binding := .from request.selector

def ValidatedQuery.resumeAt (fromSlice : List Byte → Option Cursor) (validated : ValidatedQuery) :
    Option String → Except GatewayError ValidatedQuery
  | none => .ok validated
  | some token =>
    match readCursor fromSlice token with
    | none => .error invalidCursor
    | some cursor => validated.resume cursor

/-- `validate`, given the reading of the JSON of a cursor. -/
def QueryRequest.validate (fromSlice : List Byte → Option Cursor) (request : QueryRequest) :
    Except GatewayError ValidatedQuery :=
  if request.limit = 0 ∨ ¬ (0 ≤ request.nowMs ∧ request.nowMs ≤ maxSafeInteger) then
    .error (invalidQuery
      "The query requires a positive page limit and a safe absolute clock.")
  else do
    let (lower, upper, stem) ← request.selector.bounds
    (request.unresumed lower upper stem).resumeAt fromSlice request.cursor

end UbqGateway.Keys
