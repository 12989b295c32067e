import UbqGateway.Keys.KeyWalk
import UbqGateway.Keys.Query

/-!
# What a prefix query accepts

A query for a prefix accepts the keys whose parts extend those of the prefix within its bounds,
unless a bound continues the bytes of the prefix with `0xff`: there a text of the prefix goes on
with a zero, and the bound lies beyond everything in the prefix (`prefix_query_exact`).  Integers
with two forms are the other exception, as keys are compared by their bytes.
-/

namespace UbqGateway.Keys

open TupleKey

/-! ### Texts of keys -/

theorem hexValue_hexDigit (n : Fin 16) : hexValue (hexDigit n) = some n.val := by
  revert n
  decide +kernel

theorem decodeHex_encodeHex (bytes : List Byte) : decodeHex (encodeHex bytes) = some bytes := by
  induction bytes with
  | nil => rfl
  | cons byte bytes ih =>
    have hlt := byte.isLt
    have hhigh := hexValue_hexDigit ⟨byte.val / 16, by omega⟩
    have hlow := hexValue_hexDigit ⟨byte.val % 16, by omega⟩
    have hbyte : (Fin.ofNat 256 (byte.val / 16 * 16 + byte.val % 16) : Byte) = byte := by
      ext
      show (byte.val / 16 * 16 + byte.val % 16) % 256 = byte.val
      omega
    show decodeHex (hexDigit (byte.val / 16) :: hexDigit (byte.val % 16) :: encodeHex bytes) = _
    rw [decodeHex]
    dsimp only at hhigh hlow
    rw [hhigh, hlow, ih]
    show some (_ :: bytes) = _
    rw [hbyte]

theorem isPrefixOf?_append (u v : List Char) : u.isPrefixOf? (u ++ v) = some v := by
  induction u with
  | nil => rfl
  | cons c _ ih =>
    rw [List.cons_append, List.isPrefixOf?, if_pos (beq_self_eq_true c)]
    exact ih

theorem fromRecordKey_toRecordKey (hkey : Wire parts key.sortBytes) :
    fromRecordKey key.toRecordKey = .ok key := by
  unfold fromRecordKey toRecordKey
  dsimp only
  rw [String.toList_ofList, isPrefixOf?_append]
  dsimp only
  rw [decodeHex_encodeHex]
  dsimp only
  unfold fromSortBytes
  rw [(walkSourceBytes_iff _ _).mpr hkey]
  rfl

theorem fromSortBytes_wire (hkey : fromSortBytes bytes = .ok key) :
    ∃ parts, Wire parts key.sortBytes := by
  unfold fromSortBytes at hkey
  obtain ⟨parts, hwalk, rfl⟩ := Results.of_map hkey
  exact ⟨parts, (walkSourceBytes_iff _ _).mp hwalk⟩

theorem fromRecordKey_wire (hkey : fromRecordKey record = .ok key) :
    ∃ parts, Wire parts key.sortBytes := by
  unfold fromRecordKey at hkey
  split at hkey
  · cases hkey
  next encoded _ =>
  split at hkey
  · cases hkey
  next bytes _ =>
  exact fromSortBytes_wire hkey

/-! ### Extension -/

/-- The parts of a key begin with those of another and go on. -/
def StrictlyExtends (key stem : TupleKey) : Prop :=
  ∃ p q, stem.decodedParts = .ok p ∧ key.decodedParts = .ok (p ++ q) ∧ q ≠ []

theorem strictlyExtends_iff (key : TupleKey) (hstem : Wire p stem.sortBytes) :
    StrictlyExtends key stem ↔ ∃ q, q ≠ [] ∧ Wire (p ++ q) key.sortBytes := by
  have hpts : stem.decodedParts = .ok p := (walkSourceBytes_iff _ _).mpr hstem
  constructor
  · rintro ⟨p', q, hp, hq, hne⟩
    rw [hpts] at hp
    cases hp
    exact ⟨q, hne, (walkSourceBytes_iff _ _).mp hq⟩
  · rintro ⟨q, hne, hq⟩
    exact ⟨p, q, hpts, (walkSourceBytes_iff _ _).mpr hq, hne⟩

theorem isStrictDescendantOf_iff (key stem : TupleKey) :
    key.isStrictDescendantOf stem = true ↔ ∃ rest, rest ≠ [] ∧
      key.sortBytes = stem.sortBytes ++ rest := by
  unfold TupleKey.isStrictDescendantOf
  rw [Bool.and_eq_true, decide_eq_true_iff, List.isPrefixOf_iff_prefix]
  constructor
  · rintro ⟨hlen, rest, hrest⟩
    refine ⟨rest, ?_, hrest.symm⟩
    rintro rfl
    rw [← hrest, List.append_nil] at hlen
    exact lt_irrefl _ hlen
  · rintro ⟨rest, hne, hrest⟩
    rw [hrest, List.length_append]
    have hpos := List.length_pos_iff.mpr hne
    exact ⟨by omega, List.prefix_append _ _⟩

theorem strictlyExtends_of_append (hstem : Wire p stem.sortBytes) (hkey : Wire parts key.sortBytes)
    (hrest : rest ≠ [])
    (hby : key.sortBytes = stem.sortBytes ++ rest) (hcont : rest ∈ continuations) :
    StrictlyExtends key stem := by
  rw [hby] at hkey
  obtain ⟨q, rfl, hq⟩ := hstem.of_append hcont hkey
  refine (strictlyExtends_iff key hstem).mpr ⟨q, ?_, ?_⟩
  · rintro rfl
    cases hq
    exact hrest rfl
  · rw [hby]
    exact hkey

/-- A key whose parts extend those of a prefix, but not in the bytes of the prefix, has them in
other bytes. -/
theorem strictlyExtends_cases (hstem : Wire p stem.sortBytes) (hext : StrictlyExtends key stem) :
    ∃ other rest q, Wire p other ∧ Wire q rest ∧ q ≠ [] ∧ key.sortBytes = other ++ rest := by
  obtain ⟨q, hne, hq⟩ := (strictlyExtends_iff key hstem).mp hext
  obtain ⟨other, rest, hby, hoth, hrest⟩ := hq.split
  exact ⟨other, rest, q, hoth, hrest, hne, hby⟩

theorem wire_rest (hstem : Wire p stem.sortBytes) (hext : StrictlyExtends key stem)
    (hkey : key.sortBytes = stem.sortBytes ++ rest) : ∃ q, q ≠ [] ∧ Wire q rest := by
  obtain ⟨other, rest', q, hoth, hq, hne, hby⟩ := strictlyExtends_cases hstem hext
  rw [hby] at hkey
  have heq := hoth.unique hstem hkey
  rw [heq] at hkey
  rw [← List.append_cancel_left hkey]
  exact ⟨q, hne, hq⟩

theorem getElem?_append_length (u rest : List Byte) : (u ++ rest)[u.length]? = rest.head? := by
  rw [List.getElem?_append_right (le_refl _), Nat.sub_self, List.head?_eq_getElem?]

theorem Wire.lt_append (ha : Wire p a) (hb : Wire p b) (hlt : a < b) (x y : List Byte) :
    a ++ x < b ++ y := by
  refine append_lt_append_of_not_prefix hlt ?_ x y
  rintro ⟨rest, rfl⟩
  have heq := ha.unique (x := rest) (y := []) hb (List.append_nil _).symm
  rw [← heq] at hlt
  exact lt_irrefl _ hlt

theorem Wire.lower (h : Wire q bytes) (hne : q ≠ []) : [1, 0] ≤ bytes := by
  cases h with
  | nil => exact absurd rfl hne
  | cons hform hrest =>
    obtain ⟨tag, body, rfl, hwalk⟩ := hform.walk nil_mem_continuations
    refine not_lt.mp fun hlt => ?_
    rcases List.cons_lt_cons_iff.mp hlt with htag | ⟨rfl, hbody⟩
    · have hzero : tag = 0 := Fin.ext (Nat.lt_one_iff.mp htag)
      rw [hzero] at hwalk
      cases hwalk
    · have hnil : body = [] := by
        cases body with
        | nil => rfl
        | cons byte body =>
          rcases List.cons_lt_cons_iff.mp hbody with hbyte | ⟨-, hbody⟩
          · exact absurd hbyte (Fin.not_lt_zero _)
          · exact absurd hbody (List.not_lt_nil _)
      rw [hnil] at hwalk
      cases hwalk

/-! ### Validation -/

/-- What is known of a validated query for a prefix. -/
structure Validated (request : QueryRequest) (v : ValidatedQuery) (stem : TupleKey)
    (start finish : Option RecordKey) : Prop where
  lower : lowerBytes stem start = .ok v.lowerInclusive
  upper : upperBytes stem finish = .ok v.upperExclusive
  reverse : v.reverse = request.reverse
  within : v.stem = some stem
  resumes : v.resumeAfter.isSome = request.cursor.isSome
  resumed : ∀ last ∈ v.resumeAfter, last.isStrictDescendantOf stem = true

theorem accepts_eq_true_iff (v : ValidatedQuery) (key : TupleKey) :
    v.accepts key = true ↔ v.lowerInclusive ≤ key.sortBytes ∧ key.sortBytes < v.upperExclusive ∧
      (∀ stem ∈ v.stem, key.isStrictDescendantOf stem = true) ∧ v.passed key = false := by
  have hstem : (v.stem.any fun stem => !key.isStrictDescendantOf stem) = true ↔
      ¬ ∀ stem ∈ v.stem, key.isStrictDescendantOf stem = true := by
    cases v.stem with
    | none | some stem => simp
  unfold ValidatedQuery.accepts
  split_ifs with hout hpfx
  · refine iff_of_false not_false ?_
    rintro ⟨hlow, hupr, -⟩
    exact hout.elim (fun h => absurd h (not_lt.mpr hlow)) fun h => absurd h (not_le.mpr hupr)
  · refine iff_of_false not_false ?_
    rintro ⟨-, -, hdes, -⟩
    exact hstem.mp hpfx hdes
  · obtain ⟨hlow, hupr⟩ := not_or.mp hout
    rw [Bool.not_eq_true']
    constructor
    · exact fun h => ⟨not_lt.mp hlow, not_le.mp hupr, not_not.mp (mt hstem.mpr hpfx), h⟩
    · exact fun h => h.2.2.2

variable {v : ValidatedQuery}

theorem accepts_descends (hstem : v.stem = some stem) (hacc : v.accepts key = true) :
    key.isStrictDescendantOf stem = true := by
  obtain ⟨-, -, hdes, -⟩ := (accepts_eq_true_iff v key).mp hacc
  exact hdes stem hstem

theorem acceptsKey_eq (hkey : fromRecordKey record = .ok key) (hne : key.sortBytes ≠ []) :
    v.acceptsKey record = .ok (v.accepts key) := by
  unfold ValidatedQuery.acceptsKey validateStoredKey
  rw [hkey]
  show (if key.sortBytes = [] then _ else _ : Except GatewayError Unit).bind _ = _
  rw [if_neg hne]
  rfl

theorem resume_cases (hrsm : v.resume cursor = .ok w) :
    ∃ key, v.accepts key = true ∧ w = { v with resumeAfter := some key } := by
  unfold ValidatedQuery.resume at hrsm
  split_ifs at hrsm with hbinding
  unfold ValidatedQuery.acceptsKey at hrsm
  cases hkey : fromRecordKey ⟨cursor.lastKey⟩ with
  | error e =>
    rw [hkey] at hrsm
    cases hrsm
  | ok key =>
    rw [hkey] at hrsm
    unfold TupleKey.validateStoredKey at hrsm
    by_cases hnil : key.sortBytes = []
    · change ((if key.sortBytes = [] then _ else _ : Except GatewayError Unit).bind _).bind _ = _
        at hrsm
      rw [if_pos hnil] at hrsm
      cases hrsm
    · change ((if key.sortBytes = [] then _ else _ : Except GatewayError Unit).bind _).bind _ = _
        at hrsm
      rw [if_neg hnil] at hrsm
      change (if v.accepts key = true then _ else _) = _ at hrsm
      split_ifs at hrsm with hacc
      cases hrsm
      exact ⟨key, hacc, rfl⟩

theorem bounds_cases
    (hbds : (QuerySelector.within stem start finish).bounds = .ok (lower, upper, within)) :
    ∃ p, fromRecordKey stem = .ok p ∧ within = some p ∧ lowerBytes p start = .ok lower ∧
      upperBytes p finish = .ok upper := by
  unfold QuerySelector.bounds at hbds
  dsimp only at hbds
  split_ifs at hbds with hboth
  obtain ⟨p, hstem, hbds⟩ := Results.of_bind hbds
  rw [hstem]
  change (lowerBytes p start).bind _ = _ at hbds
  obtain ⟨lower', hlow, hbds⟩ := Results.of_bind hbds
  change (upperBytes p finish).bind _ = _ at hbds
  obtain ⟨upper', hupr, heq⟩ := Results.of_map hbds
  cases heq
  exact ⟨p, rfl, rfl, hlow, hupr⟩

theorem validated_of_validate (hselector : request.selector = .within stem start finish)
    (hvld : request.validate fromSlice = .ok v) :
    ∃ p, fromRecordKey stem = .ok p ∧ Validated request v p start finish := by
  unfold QueryRequest.validate at hvld
  split_ifs at hvld with hlmt
  obtain ⟨⟨lower, upper, within⟩, hbds, hvld⟩ := Results.of_bind hvld
  change (request.unresumed lower upper within).resumeAt fromSlice request.cursor = _ at hvld
  rw [hselector] at hbds
  obtain ⟨p, hstem, rfl, hlow, hupr⟩ := bounds_cases hbds
  refine ⟨p, hstem, ?_⟩
  cases hcsr : request.cursor with
  | none =>
    rw [hcsr] at hvld
    cases hvld
    exact ⟨hlow, hupr, rfl, rfl, by rw [hcsr]; rfl, nofun⟩
  | some token =>
    rw [hcsr] at hvld
    unfold ValidatedQuery.resumeAt at hvld
    dsimp only at hvld
    split at hvld
    · cases hvld
    next cursor _ =>
    obtain ⟨key, hacc, rfl⟩ := resume_cases hvld
    refine ⟨hlow, hupr, rfl, rfl, by rw [hcsr]; rfl, ?_⟩
    rintro last ⟨⟩
    exact accepts_descends rfl hacc

/-! ### Exactness -/

def AtOrAfter (start : Option RecordKey) (key : TupleKey) : Prop :=
  ∀ record ∈ start, ∀ bound, fromRecordKey record = .ok bound → bound.sortBytes ≤ key.sortBytes

/-- Before the end, if there is one. -/
def Before (finish : Option RecordKey) (key : TupleKey) : Prop :=
  ∀ record ∈ finish, ∀ bound, fromRecordKey record = .ok bound → key.sortBytes < bound.sortBytes

/-- Beyond the key that the query resumes after, if there is one. -/
def Beyond (v : ValidatedQuery) (key : TupleKey) : Prop :=
  ∀ last ∈ v.resumeAfter,
    if v.reverse = true then key.sortBytes < last.sortBytes else last.sortBytes < key.sortBytes

/-- Within the bounds of a query, and not yet passed. -/
def InRange (v : ValidatedQuery) (start finish : Option RecordKey) (key : TupleKey) : Prop :=
  AtOrAfter start key ∧ Before finish key ∧ Beyond v key

/-- A query for a prefix accepts the stored keys in range whose parts extend those of the prefix,
and its bounds are such keys. -/
structure PrefixExact (v : ValidatedQuery) (stem : RecordKey) (start finish : Option RecordKey) :
    Prop where
  accepts : ∀ record key p, fromRecordKey record = .ok key → key.sortBytes ≠ [] →
    fromRecordKey stem = .ok p →
      (v.acceptsKey record = .ok true ↔ StrictlyExtends key p ∧ InRange v start finish key)
  bounds : ∀ record, record ∈ start ∨ record ∈ finish →
    ∀ bound p, fromRecordKey record = .ok bound →
    fromRecordKey stem = .ok p → StrictlyExtends bound p

/-- No bound continues the bytes of the prefix with `0xff`. -/
def BoundsContinue (stem : RecordKey) (start finish : Option RecordKey) : Prop :=
  ∀ record, record ∈ start ∨ record ∈ finish → ∀ bound p, fromRecordKey record = .ok bound →
    fromRecordKey stem = .ok p → bound.sortBytes[p.sortBytes.length]? ≠ some 0xff

/-- Bytes that a bound, or the key to resume after, keeps out of the query. -/
def Cut (request : QueryRequest) (start finish : Option RecordKey) (stem other : List Byte) :
    Prop :=
  (other < stem ∧ (start.isSome = true ∨ request.cursor.isSome = true ∧ request.reverse = false)) ∨
  (stem < other ∧ (finish.isSome = true ∨ request.cursor.isSome = true ∧ request.reverse = true))

/-- Every other way to write the parts of the prefix is kept out. -/
def OtherFormsCut (request : QueryRequest) (stem : RecordKey) (start finish : Option RecordKey) :
    Prop :=
  ∀ p other, fromRecordKey stem = .ok p → decodedParts other = p.decodedParts → other ≠ p →
    Cut request start finish p.sortBytes other.sortBytes

theorem passed_eq_false_iff (v : ValidatedQuery) (key : TupleKey) :
    v.passed key = false ↔ Beyond v key := by
  unfold ValidatedQuery.passed Beyond
  cases v.resumeAfter with
  | none => exact iff_of_true rfl nofun
  | some last =>
    rw [Option.any_some]
    cases v.reverse with
    | true =>
      simp only [Bool.not_true, Bool.false_and, Bool.true_and, Bool.false_or, if_true,
        decide_eq_false_iff_not, not_le, Option.mem_def, Option.some.injEq, forall_eq']
    | false =>
      simp only [Bool.not_false, Bool.true_and, Bool.false_and, Bool.or_false, Bool.false_eq_true,
        if_false, decide_eq_false_iff_not, not_le, Option.mem_def, Option.some.injEq, forall_eq']

theorem boundBytes_cases {p : TupleKey} (hbd : boundBytes p record = .ok bytes) :
    ∃ bound, fromRecordKey record = .ok bound ∧ bound.isStrictDescendantOf p = true ∧
      bound.sortBytes = bytes := by
  unfold boundBytes at hbd
  obtain ⟨bound, hkey, hbd⟩ := Results.of_bind hbd
  rw [hkey]
  change (if bound.isStrictDescendantOf p = true then _ else _) = _ at hbd
  split_ifs at hbd with hdes
  cases hbd
  exact ⟨bound, rfl, hdes, rfl⟩

theorem Validated.start_descends {p : TupleKey} (h : Validated request v p start finish)
    (hrcd : record ∈ start) (hbd : fromRecordKey record = .ok bound) :
    bound.isStrictDescendantOf p = true ∧ bound.sortBytes = v.lowerInclusive := by
  have hlow := h.lower
  rw [Option.mem_def.mp hrcd] at hlow
  obtain ⟨bound', hbd', hdes, hby⟩ := boundBytes_cases hlow
  rw [hbd'] at hbd
  cases hbd
  exact ⟨hdes, hby⟩

theorem Validated.finish_descends {p : TupleKey} (h : Validated request v p start finish)
    (hrcd : record ∈ finish) (hbd : fromRecordKey record = .ok bound) :
    bound.isStrictDescendantOf p = true ∧ bound.sortBytes = v.upperExclusive := by
  have hupr := h.upper
  rw [Option.mem_def.mp hrcd] at hupr
  obtain ⟨bound', hbd', hdes, hby⟩ := boundBytes_cases hupr
  rw [hbd'] at hbd
  cases hbd
  exact ⟨hdes, hby⟩

section Exactness

section

variable (h : Validated request v p start finish)

include h

theorem lower_le_iff (hq : Wire q rest) (hne : q ≠ [])
    (hkey : key.sortBytes = p.sortBytes ++ rest) :
    v.lowerInclusive ≤ key.sortBytes ↔ AtOrAfter start key := by
  cases hstr : start with
  | none =>
    have hlow := h.lower
    rw [hstr] at hlow
    refine iff_of_true ?_ nofun
    rw [← Except.ok.inj hlow, hkey]
    exact append_le_append_left _ (hq.lower hne)
  | some record =>
    have hlow := h.lower
    rw [hstr] at hlow
    obtain ⟨bound, hbd, -, hby⟩ := boundBytes_cases hlow
    rw [← hby]
    constructor
    · rintro hle record' ⟨⟩ bound' hbd'
      rw [hbd] at hbd'
      cases hbd'
      exact hle
    · exact fun haft => haft record rfl bound hbd

theorem lt_upper_iff (hq : Wire q rest) (hkey : key.sortBytes = p.sortBytes ++ rest) :
    key.sortBytes < v.upperExclusive ↔ Before finish key := by
  cases hfns : finish with
  | none =>
    have hupr := h.upper
    rw [hfns] at hupr
    refine iff_of_true ?_ nofun
    rw [← Except.ok.inj hupr, hkey]
    refine List.append_left_lt ?_
    cases rest with
    | nil => exact List.nil_lt_cons _ _
    | cons tag rest =>
      have hne : tag ≠ 0xff := fun heq => hq.mem (by rw [heq]; rfl)
      have hle : tag ≤ 0xff := Fin.le_last tag
      exact List.cons_lt_cons_iff.mpr (.inl (lt_of_le_of_ne hle hne))
  | some record =>
    have hupr := h.upper
    rw [hfns] at hupr
    obtain ⟨bound, hbd, -, hby⟩ := boundBytes_cases hupr
    rw [← hby]
    constructor
    · rintro hlt record' ⟨⟩ bound' hbd'
      rw [hbd] at hbd'
      cases hbd'
      exact hlt
    · exact fun hbef => hbef record rfl bound hbd

theorem accepts_iff (hq : Wire q rest) (hne : q ≠ []) (hkey : key.sortBytes = p.sortBytes ++ rest) :
    v.accepts key = true ↔ InRange v start finish key := by
  have hdes : ∀ stem ∈ v.stem, key.isStrictDescendantOf stem = true := by
    rw [h.within]
    rintro stem ⟨⟩
    exact (isStrictDescendantOf_iff key p).mpr ⟨rest, hq.ne_nil hne, hkey⟩
  unfold InRange
  rw [← lower_le_iff h hq hne hkey, ← lt_upper_iff h hq hkey, ← passed_eq_false_iff,
    accepts_eq_true_iff]
  constructor
  · exact fun ⟨hlow, hupr, _, hpsd⟩ => ⟨hlow, hupr, hpsd⟩
  · exact fun ⟨hlow, hupr, hpsd⟩ => ⟨hlow, hupr, hdes, hpsd⟩

/-- A key is in range unless its first part is cut off. -/
theorem inRange_iff_not_cut (hp : Wire ps p.sortBytes) {other : List Byte} (hoth : Wire ps other)
    (hne : other ≠ p.sortBytes) (hkey : key.sortBytes = other ++ rest) :
    InRange v start finish key ↔ ¬ Cut request start finish p.sortBytes other := by
  have hlast : ∀ last ∈ v.resumeAfter, ∃ s, last.sortBytes = p.sortBytes ++ s := fun last hmem => by
    obtain ⟨s, -, hs⟩ := (isStrictDescendantOf_iff last p).mp (h.resumed last hmem)
    exact ⟨s, hs⟩
  have hcsr : ∀ last ∈ v.resumeAfter, request.cursor.isSome = true := fun last hmem => by
    rw [← h.resumes, Option.mem_def.mp hmem]
    rfl
  have hstr : ∀ record ∈ start, ∀ bound, fromRecordKey record = .ok bound →
      ∃ s, bound.sortBytes = p.sortBytes ++ s := fun record hmem bound hbd => by
    obtain ⟨s, -, hs⟩ := (isStrictDescendantOf_iff bound p).mp (h.start_descends hmem hbd).1
    exact ⟨s, hs⟩
  have hfns : ∀ record ∈ finish, ∀ bound, fromRecordKey record = .ok bound →
      ∃ s, bound.sortBytes = p.sortBytes ++ s := fun record hmem bound hbd => by
    obtain ⟨s, -, hs⟩ := (isStrictDescendantOf_iff bound p).mp (h.finish_descends hmem hbd).1
    exact ⟨s, hs⟩
  rcases lt_or_gt_of_ne hne with hlt | hgt
  · -- the key lies before everything in the bytes of the prefix
    have hbef : ∀ s, key.sortBytes < p.sortBytes ++ s := fun s => by
      rw [hkey]
      exact hoth.lt_append hp hlt rest s
    constructor
    · rintro ⟨haft, -, hbyd⟩ (⟨-, hsome | ⟨hsome, hrev⟩⟩ | ⟨hgt, -⟩)
      · obtain ⟨record, hrcd⟩ := Option.isSome_iff_exists.mp hsome
        have hlow := h.lower
        rw [hrcd] at hlow
        obtain ⟨bound, hbd, -, -⟩ := boundBytes_cases hlow
        obtain ⟨s, hs⟩ := hstr record hrcd bound hbd
        have hle := haft record hrcd bound hbd
        rw [hs] at hle
        exact absurd (hbef s) (not_lt.mpr hle)
      · obtain ⟨last, hmem⟩ := Option.isSome_iff_exists.mp (h.resumes.trans hsome)
        obtain ⟨s, hs⟩ := hlast last hmem
        have hnext := hbyd last hmem
        rw [h.reverse, hrev, if_neg Bool.false_ne_true, hs] at hnext
        exact lt_asymm hnext (hbef s)
      · exact lt_asymm hlt hgt
    · intro hcut
      refine ⟨fun record hmem => ?_, fun record hmem bound hbd => ?_, fun last hmem => ?_⟩
      · exact absurd (.inl ⟨hlt, .inl (Option.isSome_iff_exists.mpr ⟨record, hmem⟩)⟩) hcut
      · obtain ⟨s, hs⟩ := hfns record hmem bound hbd
        rw [hs]
        exact hbef s
      · obtain ⟨s, hs⟩ := hlast last hmem
        have hrev : v.reverse = true := by
          rw [h.reverse, ← Bool.not_eq_false]
          exact fun hfls => hcut (.inl ⟨hlt, .inr ⟨hcsr last hmem, hfls⟩⟩)
        rw [if_pos hrev, hs]
        exact hbef s
  · -- the key lies after everything in the bytes of the prefix
    have haft : ∀ s, p.sortBytes ++ s < key.sortBytes := fun s => by
      rw [hkey]
      exact hp.lt_append hoth hgt s rest
    constructor
    · rintro ⟨-, hbef, hbyd⟩ (⟨hlt, -⟩ | ⟨-, hsome | ⟨hsome, hrev⟩⟩)
      · exact lt_asymm hlt hgt
      · obtain ⟨record, hrcd⟩ := Option.isSome_iff_exists.mp hsome
        have hupr := h.upper
        rw [hrcd] at hupr
        obtain ⟨bound, hbd, -, -⟩ := boundBytes_cases hupr
        obtain ⟨s, hs⟩ := hfns record hrcd bound hbd
        have hlt := hbef record hrcd bound hbd
        rw [hs] at hlt
        exact lt_asymm hlt (haft s)
      · obtain ⟨last, hmem⟩ := Option.isSome_iff_exists.mp (h.resumes.trans hsome)
        obtain ⟨s, hs⟩ := hlast last hmem
        have hnext := hbyd last hmem
        rw [h.reverse, if_pos hrev, hs] at hnext
        exact lt_asymm hnext (haft s)
    · intro hcut
      refine ⟨fun record hmem bound hbd => ?_, fun record hmem => ?_, fun last hmem => ?_⟩
      · obtain ⟨s, hs⟩ := hstr record hmem bound hbd
        rw [hs]
        exact (haft s).le
      · exact absurd (.inr ⟨hgt, .inl (Option.isSome_iff_exists.mpr ⟨record, hmem⟩)⟩) hcut
      · obtain ⟨s, hs⟩ := hlast last hmem
        have hrev : ¬ v.reverse = true := by
          rw [h.reverse]
          exact fun htrue => hcut (.inr ⟨hgt, .inr ⟨hcsr last hmem, htrue⟩⟩)
        rw [if_neg hrev, hs]
        exact haft s

theorem accepts_continues (hstem : fromRecordKey stem = .ok p)
    (hbds : BoundsContinue stem start finish) (hacc : v.accepts key = true) :
    ∃ rest, rest ≠ [] ∧ rest ∈ continuations ∧ key.sortBytes = p.sortBytes ++ rest := by
  obtain ⟨rest, hne, hkey⟩ :=
    (isStrictDescendantOf_iff key p).mp (accepts_descends h.within hacc)
  refine ⟨rest, hne, ?_, hkey⟩
  intro hhead
  obtain ⟨rest, rfl⟩ : ∃ r, rest = 0xff :: r := by
    cases rest with
    | nil => exact absurd rfl hne
    | cons _ rest => exact ⟨rest, by rw [Option.some.inj hhead]⟩
  -- what ends the query begins no later after the prefix
  obtain ⟨f, hupr, hle⟩ : ∃ f, v.upperExclusive = p.sortBytes ++ f ∧ f ≤ 0xff :: rest := by
    have hupr := h.upper
    cases hfns : finish with
    | none =>
      rw [hfns] at hupr
      refine ⟨[0xff], (Except.ok.inj hupr).symm, ?_⟩
      exact append_le_append_left [0xff] (not_lt.mp (List.not_lt_nil rest))
    | some record =>
      rw [hfns] at hupr
      obtain ⟨bound, hbd, hdes, hby⟩ := boundBytes_cases hupr
      obtain ⟨f, hf, hboundbytes⟩ := (isStrictDescendantOf_iff bound p).mp hdes
      refine ⟨f, by rw [← hby, hboundbytes], ?_⟩
      have hcontinue := hbds record (.inr hfns) bound p hbd hstem
      rw [hboundbytes, getElem?_append_length] at hcontinue
      cases f with
      | nil => exact absurd rfl hf
      | cons tag f =>
        have hne : tag ≠ 0xff := fun heq => hcontinue (by rw [heq]; rfl)
        have hle : tag ≤ 0xff := Fin.le_last tag
        exact (List.cons_lt_cons_iff.mpr (.inl (lt_of_le_of_ne hle hne))).le
  have hlt := ((accepts_eq_true_iff v key).mp hacc).2.1
  rw [hkey, hupr] at hlt
  exact absurd hlt (not_lt.mpr (append_le_append_left _ hle))

end

/-- A query for a prefix is exact just when no bound continues the bytes of the prefix with `0xff`,
and every other way to write the parts of the prefix is kept out of it. -/
theorem prefix_query_exact {fromSlice : List Byte → Option Cursor} {stem : RecordKey}
    (hselector : request.selector = .within stem start finish)
    (hvld : request.validate fromSlice = .ok v) : PrefixExact v stem start finish ↔
      BoundsContinue stem start finish ∧ OtherFormsCut request stem start finish := by
  obtain ⟨p, hstem, h⟩ := validated_of_validate hselector hvld
  obtain ⟨ps, hp⟩ := fromRecordKey_wire hstem
  have hdes : ∀ record, record ∈ start ∨ record ∈ finish → ∀ bound,
      fromRecordKey record = .ok bound → ∃ s, s ≠ [] ∧ bound.sortBytes = p.sortBytes ++ s := by
    rintro record (hmem | hmem) bound hbd
    · exact (isStrictDescendantOf_iff bound p).mp (h.start_descends hmem hbd).1
    · exact (isStrictDescendantOf_iff bound p).mp (h.finish_descends hmem hbd).1
  constructor
  · intro hexc
    constructor
    · intro record hmem bound p' hbd hstem'
      rw [hstem] at hstem'
      cases hstem'
      obtain ⟨s, -, hs⟩ := hdes record hmem bound hbd
      obtain ⟨q, -, hq⟩ := wire_rest hp (hexc.bounds record hmem bound p hbd hstem) hs
      rw [hs, getElem?_append_length]
      exact hq.mem
    · intro p' other hstem' hsame hne
      rw [hstem] at hstem'
      cases hstem'
      by_contra hcut
      have hoth : Wire ps other.sortBytes := by
        refine (walkSourceBytes_iff _ _).mp (hsame.trans ?_)
        exact (walkSourceBytes_iff _ _).mpr hp
      -- a boolean after the other form is in range, but not in the bytes of the prefix
      have hkey : Wire (ps ++ [.boolean false]) (other.sortBytes ++ [0x26]) :=
        hoth.append (Wire.cons (WireForm.boolean false) Wire.nil)
      have hrcd := fromRecordKey_toRecordKey hkey
      have hnonempty : other.sortBytes ++ [0x26] ≠ [] := List.append_ne_nil_of_right_ne_nil _ nofun
      have hby : other.sortBytes ≠ p.sortBytes := fun heq => hne (congrArg mk heq)
      have hrg : InRange v start finish ⟨other.sortBytes ++ [0x26]⟩ :=
        (inRange_iff_not_cut h hp hoth hby rfl).mpr hcut
      have hext := (strictlyExtends_iff ⟨other.sortBytes ++ [0x26]⟩ hp).mpr
        ⟨[.boolean false], nofun, hkey⟩
      have hacc := (hexc.accepts _ _ p hrcd hnonempty hstem).mpr ⟨hext, hrg⟩
      rw [acceptsKey_eq hrcd hnonempty] at hacc
      obtain ⟨rest, -, hrest⟩ := (isStrictDescendantOf_iff _ p).mp
        (accepts_descends h.within (Except.ok.inj hacc))
      exact hby (hoth.unique hp hrest)
  · rintro ⟨hbds, hcut⟩
    constructor
    · intro record key p' hrcd hne hstem'
      rw [hstem] at hstem'
      cases hstem'
      obtain ⟨parts, hkey⟩ := fromRecordKey_wire hrcd
      rw [acceptsKey_eq hrcd hne, Except.ok.injEq]
      constructor
      · intro hacc
        obtain ⟨rest, hrest, hcont, hby⟩ := accepts_continues h hstem hbds hacc
        have hext := strictlyExtends_of_append hp hkey hrest hby hcont
        obtain ⟨q, hq, hwire⟩ := wire_rest hp hext hby
        exact ⟨hext, (accepts_iff h hwire hq hby).mp hacc⟩
      · rintro ⟨hext, hrg⟩
        obtain ⟨other, rest, q, hoth, hwire, hq, hby⟩ := strictlyExtends_cases hp hext
        by_cases hsame : other = p.sortBytes
        · rw [hsame] at hby
          exact (accepts_iff h hwire hq hby).mpr hrg
        · have hpts : decodedParts ⟨other⟩ = p.decodedParts := by
            refine Eq.trans ((walkSourceBytes_iff _ _).mpr hoth) ?_
            exact ((walkSourceBytes_iff _ _).mpr hp).symm
          have hkept := hcut p ⟨other⟩ hstem hpts fun heq => hsame (congrArg sortBytes heq)
          exact absurd hkept ((inRange_iff_not_cut h hp hoth hsame hby).mp hrg)
    · intro record hmem bound p' hbd hstem'
      rw [hstem] at hstem'
      cases hstem'
      obtain ⟨parts, hkey⟩ := fromRecordKey_wire hbd
      obtain ⟨s, hne, hs⟩ := hdes record hmem bound hbd
      have hcontinue := hbds record hmem bound p hbd hstem
      rw [hs, getElem?_append_length] at hcontinue
      exact strictlyExtends_of_append hp hkey hne hs hcontinue

end Exactness

def recordOf (bytes : List Byte) : RecordKey := toRecordKey ⟨bytes⟩

theorem fromRecordKey_recordOf (hwalk : walkSourceBytes bytes = .ok parts) :
    fromRecordKey (recordOf bytes) = .ok ⟨bytes⟩ :=
  fromRecordKey_toRecordKey ((walkSourceBytes_iff _ _).mp hwalk)

/-- A request for what is in a prefix before some key, by their bytes. -/
def requestBefore (stem finish : List Byte) : QueryRequest :=
  ⟨.within (recordOf stem) none (some (recordOf finish)), false, 1, none, 0⟩

def queryBefore (stem finish : List Byte) : ValidatedQuery :=
  ⟨stem ++ [1, 0], finish, false, 1, 0, some ⟨stem⟩, none,
    .from (.within (recordOf stem) none (some (recordOf finish)))⟩

theorem validate_requestBefore {stem finish : List Byte} (hstem : walkSourceBytes stem = .ok p)
    (hfns : walkSourceBytes finish = .ok q)
    (hdes : isStrictDescendantOf ⟨finish⟩ ⟨stem⟩ = true) :
    (requestBefore stem finish).validate (fun _ => none) = .ok (queryBefore stem finish) := by
  have hbds : (requestBefore stem finish).selector.bounds =
      .ok (stem ++ [1, 0], finish, some ⟨stem⟩) := by
    unfold requestBefore QuerySelector.bounds
    dsimp only
    rw [if_neg (by simp), fromRecordKey_recordOf hstem]
    show (boundBytes ⟨stem⟩ (recordOf finish)).bind _ = _
    unfold boundBytes
    rw [fromRecordKey_recordOf hfns]
    show (if isStrictDescendantOf ⟨finish⟩ ⟨stem⟩ = true then _ else _ :
      Except GatewayError (List Byte)).bind _ = _
    rw [if_pos hdes]
    rfl
  have hlmt : ¬ ((requestBefore stem finish).limit = 0 ∨
      ¬ (0 ≤ (requestBefore stem finish).nowMs ∧
        (requestBefore stem finish).nowMs ≤ maxSafeInteger)) := by
    show ¬ (1 = 0 ∨ ¬ ((0 : ℤ) ≤ 0 ∧ (0 : ℤ) ≤ maxSafeInteger))
    decide
  unfold QueryRequest.validate
  rw [if_neg hlmt, hbds]
  rfl

/-- Before `["a", true]` in `["a"]`, exactly the keys in the prefix and before it are accepted. -/
theorem prefix_query_exact_before_true :
    (requestBefore [2, 97, 0] [2, 97, 0, 39]).validate (fun _ => none) =
      .ok (queryBefore [2, 97, 0] [2, 97, 0, 39]) ∧
    PrefixExact (queryBefore [2, 97, 0] [2, 97, 0, 39]) (recordOf [2, 97, 0]) none
      (some (recordOf [2, 97, 0, 39])) := by
  have hstem : walkSourceBytes [2, 97, 0] = .ok [.string [97]] := by rfl
  have hfns : walkSourceBytes [2, 97, 0, 39] = .ok [.string [97], .boolean true] := by rfl
  have hvld := validate_requestBefore hstem hfns (by decide)
  refine ⟨hvld, (prefix_query_exact rfl hvld).mpr ⟨?_, ?_⟩⟩
  · rintro record (⟨⟨⟩⟩ | ⟨⟨⟩⟩) bound p hbd hp
    rw [fromRecordKey_recordOf hfns] at hbd
    rw [fromRecordKey_recordOf hstem] at hp
    cases hbd
    cases hp
    decide
  · intro p other hp heq hne
    rw [fromRecordKey_recordOf hstem] at hp
    cases hp
    have hwire : Wire [.string [97]] other.sortBytes :=
      (walkSourceBytes_iff _ _).mp (heq.trans hstem)
    obtain ⟨bytes⟩ := other
    cases hwire with
    | cons hform hrest =>
      cases hform
      cases hrest
      exact absurd rfl hne

/-- A query before `["a\u0000b"]` in `["a"]` is validated, and accepts `["a\u0000a"]`. -/
theorem prefix_query_accepts_sibling :
    (requestBefore [2, 97, 0] [2, 97, 0, 255, 98, 0]).validate (fun _ => none) =
      .ok (queryBefore [2, 97, 0] [2, 97, 0, 255, 98, 0]) ∧
    fromParts [.string "a"] = .ok ⟨[2, 97, 0]⟩ ∧
    fromParts [.string "a\x00b"] = .ok ⟨[2, 97, 0, 255, 98, 0]⟩ ∧
    fromParts [.string "a\x00a"] = .ok ⟨[2, 97, 0, 255, 97, 0]⟩ ∧
    (queryBefore [2, 97, 0] [2, 97, 0, 255, 98, 0]).acceptsKey (recordOf [2, 97, 0, 255, 97, 0]) =
      .ok true ∧
    ¬ PrefixExact (queryBefore [2, 97, 0] [2, 97, 0, 255, 98, 0]) (recordOf [2, 97, 0]) none
      (some (recordOf [2, 97, 0, 255, 98, 0])) := by
  have hstem : walkSourceBytes [2, 97, 0] = .ok [.string [97]] := by rfl
  have hfns : walkSourceBytes [2, 97, 0, 255, 98, 0] = .ok [.string [97, 0, 98]] := by rfl
  have hkey : walkSourceBytes [2, 97, 0, 255, 97, 0] = .ok [.string [97, 0, 97]] := by rfl
  have hrcd := fromRecordKey_recordOf hkey
  have hacc : (queryBefore [2, 97, 0] [2, 97, 0, 255, 98, 0]).acceptsKey
      (recordOf [2, 97, 0, 255, 97, 0]) = .ok true := acceptsKey_eq hrcd (by decide)
  refine ⟨validate_requestBefore hstem hfns (by decide), by rfl, by rfl, by rfl, hacc, ?_⟩
  intro hexc
  obtain ⟨⟨p, q, hp, hq, -⟩, -⟩ := (hexc.accepts _ _ _ hrcd (by decide)
    (fromRecordKey_recordOf hstem)).mp hacc
  rw [decodedParts, hstem] at hp
  cases hp
  rw [decodedParts, hkey] at hq
  cases hq

end UbqGateway.Keys
