import Mathlib.Data.List.DropRight
import UbqGateway.Library.JsonText

/-!
# Codex routing: repeated keys of a 429 body

The scanner of `src/authority/native-codex-429.ts` that refuses a body with a repeated object key.
Its index is the rest of the source here.  Each round of a loop and each nested value takes one of
`fuel`, and twice the length of the source is enough for a JSON text.
-/

namespace UbqGateway.Codex

open JsonText

/-- A valid value leaves the rest of the source. -/
inductive JsonObjectKeyScanResult
  | valid (rest : Utf16)
  | invalid
  | duplicate
deriving DecidableEq

def ofRest : Option Utf16 → JsonObjectKeyScanResult
  | some rest => .valid rest
  | none => .invalid

def skipWhitespace (s : Utf16) : Utf16 := s.dropWhile isBlank

/-! ### Strings -/

/-- The loop of `parseString`: the text up to the closing quotation mark and what follows the
mark. -/
def scanString : Utf16 → Option (Utf16 × Utf16)
  | [] => none
  | u :: rest =>
    if u ≤ 0x1f then none
    else if u = code '\\' then
      match rest with
      | [] => none
      | v :: rest => (scanString rest).map fun found => (u :: v :: found.1, found.2)
    else if u = code '"' then some ([], rest)
    else (scanString rest).map fun found => (u :: found.1, found.2)

/-- `JSON.parse` of a string with this text between its quotation marks. -/
def unescape : Utf16 → Option Utf16
  | [] => some []
  | u :: rest =>
    if u ≤ 0x1f ∨ u = code '"' then none
    else if u = code '\\' then
      match rest with
      | [] => none
      | v :: rest =>
        if v = code 'u' then
          match rest with
          | a :: b :: c :: d :: rest =>
            (hexUnit? a b c d).bind fun value => (unescape rest).map (value :: ·)
          | _ => none
        else (escaped? v).bind fun value => (unescape rest).map (value :: ·)
    else (unescape rest).map (u :: ·)

def parseString : Utf16 → Option (Utf16 × Utf16)
  | [] => none
  | u :: rest =>
    if u = code '"' then
      (scanString rest).bind fun found => (unescape found.1).map fun value => (value, found.2)
    else none

/-! ### Literals and numbers -/

def parseLiteral (literal : String) (s : Utf16) : Option Utf16 :=
  (Utf16.ofString literal).isPrefixOf? s

/-- `p?` -/
def matchOptional (p : UInt16 → Bool) : Utf16 → Utf16
  | [] => []
  | u :: rest => if p u = true then rest else u :: rest

/-- `\d+` -/
def matchDigits : Utf16 → Option Utf16
  | [] => none
  | u :: rest => if isDigit u = true then some (rest.dropWhile isDigit) else none

/-- `(?:0|[1-9]\d*)` -/
def matchInteger : Utf16 → Option Utf16
  | [] => none
  | u :: rest =>
    if u = code '0' then some rest
    else if isDigit u = true then some (rest.dropWhile isDigit)
    else none

/-- `(?:\.\d+)?` -/
def matchFraction : Utf16 → Utf16
  | [] => []
  | u :: rest => if u = code '.' then (matchDigits rest).getD (u :: rest) else u :: rest

def isSign (u : UInt16) : Bool := u == code '+' || u == code '-'

/-- `(?:[eE][+-]?\d+)?` -/
def matchExponent : Utf16 → Utf16
  | [] => []
  | u :: rest =>
    if u = code 'e' ∨ u = code 'E' then
      (matchDigits (matchOptional isSign rest)).getD (u :: rest)
    else u :: rest

/-- The pattern is greedy and its optional groups come last, so that a group is skipped only if it
does not match. -/
def parseNumber (s : Utf16) : Option Utf16 :=
  (matchInteger (matchOptional (· == code '-') s)).map fun s => matchExponent (matchFraction s)

/-! ### Values -/

mutual

def parseValue : ℕ → Utf16 → JsonObjectKeyScanResult
  | 0, _ => .invalid
  | fuel + 1, s =>
    match skipWhitespace s with
    | [] => ofRest (parseNumber [])
    | u :: rest =>
      if u = code '\x7b' then parseObject fuel rest
      else if u = code '[' then parseArray fuel rest
      else if u = code '"' then ofRest ((parseString (u :: rest)).map Prod.snd)
      else if u = code 't' then ofRest (parseLiteral "true" (u :: rest))
      else if u = code 'f' then ofRest (parseLiteral "false" (u :: rest))
      else if u = code 'n' then ofRest (parseLiteral "null" (u :: rest))
      else ofRest (parseNumber (u :: rest))

/-- After the opening bracket. -/
def parseArray : ℕ → Utf16 → JsonObjectKeyScanResult
  | 0, _ => .invalid
  | fuel + 1, s =>
    match skipWhitespace s with
    | [] => .invalid
    | u :: rest => if u = code ']' then .valid rest else arrayLoop fuel (u :: rest)

def arrayLoop : ℕ → Utf16 → JsonObjectKeyScanResult
  | 0, _ => .invalid
  | _ + 1, [] => .invalid
  | fuel + 1, u :: s =>
    match parseValue fuel (u :: s) with
    | .valid rest =>
      match skipWhitespace rest with
      | [] => .invalid
      | u :: rest =>
        if u = code ']' then .valid rest
        else if u = code ',' then arrayLoop fuel rest
        else .invalid
    | result => result

/-- After the opening brace. -/
def parseObject : ℕ → Utf16 → JsonObjectKeyScanResult
  | 0, _ => .invalid
  | fuel + 1, s =>
    match skipWhitespace s with
    | [] => .invalid
    | u :: rest => if u = code '\x7d' then .valid rest else objectLoop fuel [] (u :: rest)

/-- With the keys of the members before.  At the end of the source there is no key either. -/
def objectLoop : ℕ → List Utf16 → Utf16 → JsonObjectKeyScanResult
  | 0, _, _ => .invalid
  | fuel + 1, keys, s =>
    match parseString s with
    | none => .invalid
    | some (key, rest) =>
      if key ∈ keys then .duplicate
      else
        match skipWhitespace rest with
        | [] => .invalid
        | u :: rest =>
          if u = code ':' then
            match parseValue fuel rest with
            | .valid rest =>
              match skipWhitespace rest with
              | [] => .invalid
              | u :: rest =>
                if u = code '\x7d' then .valid rest
                else if u = code ',' then objectLoop fuel (key :: keys) (skipWhitespace rest)
                else .invalid
            | result => result
          else .invalid

end

def hasDuplicateJsonObjectKeys (source : Utf16) : Bool :=
  decide (parseValue (2 * source.length) source = .duplicate)

/-! ### Where a run of code units ends -/

/-- The text does not go on with a code unit of `p`. -/
def Avoids (p : UInt16 → Bool) (t : Utf16) : Prop := ∀ u ∈ t.head?, p u = false

theorem dropWhile_append (hall : run.all p = true) (havd : Avoids p t) :
    (run ++ t).dropWhile p = t := by
  rw [List.dropWhile_append_of_pos (List.all_eq_true.mp hall)]
  cases t with
  | nil => rfl
  | cons u t => rw [List.dropWhile_cons, havd u rfl, if_neg Bool.false_ne_true]

/-- A code unit that goes on with a number. -/
def isNumberUnit (u : UInt16) : Bool :=
  isDigit u || (u == code '.' || (u == code 'e' || u == code 'E'))

theorem Avoids.digits (havd : Avoids isNumberUnit t) : Avoids isDigit t :=
  fun u head => (Bool.or_eq_false_iff.mp (havd u head)).1

variable {u : UInt16}

theorem Avoids.cons (h : p u = false) (t : Utf16) : Avoids p (u :: t) := by
  rintro _ ⟨⟩
  exact h

theorem isBlank_cases (hblk : isBlank u = true) :
    u = code ' ' ∨ u = code '\t' ∨ u = code '\n' ∨ u = code '\r' := by
  unfold isBlank at hblk
  simpa [or_assoc] using hblk

theorem Avoids.blank (b : Blank) (havd : Avoids isNumberUnit t) :
    Avoids isNumberUnit (b.text ++ t) := by
  obtain ⟨text, hblk⟩ := b
  cases text with
  | nil => exact havd
  | cons u text =>
    apply Avoids.cons
    rw [List.all_cons, Bool.and_eq_true] at hblk
    obtain rfl | rfl | rfl | rfl := isBlank_cases hblk.1 <;> decide

theorem skipWhitespace_blank (b : Blank) (t : Utf16) :
    skipWhitespace (b.text ++ t) = skipWhitespace t :=
  List.dropWhile_append_of_pos (List.all_eq_true.mp b.blank)

theorem skipWhitespace_cons (h : isBlank u = false) (t : Utf16) :
    skipWhitespace (u :: t) = u :: t := by
  unfold skipWhitespace
  rw [List.dropWhile_cons, h]
  rfl

/-! ### Strings of the grammar -/

theorem isDigit_bounds (hdg : isDigit u = true) : 48 ≤ u.toNat ∧ u.toNat ≤ 57 := by
  unfold isDigit at hdg
  rw [Bool.and_eq_true] at hdg
  exact ⟨UInt16.le_iff_toNat_le.mp (of_decide_eq_true hdg.1),
    UInt16.le_iff_toNat_le.mp (of_decide_eq_true hdg.2)⟩

theorem ne_of_toNat (h : u.toNat ≠ v.toNat) : u ≠ v := fun heq => h (by rw [heq])

/-- A code unit that a scanner of strings passes over. -/
def Passed (u : UInt16) : Prop := ¬u ≤ 0x1f ∧ u ≠ code '\\' ∧ u ≠ code '"'

theorem passed_of_hexValue (h : hexValue? u = some value) : Passed u := by
  have hbds : 48 ≤ u.toNat ∧ u.toNat ≠ 92 := by
    unfold hexValue? at h
    split_ifs at h with hdg hlow hupr
    · have := isDigit_bounds hdg
      omega
    · have hlst : 97 ≤ u.toNat := UInt16.le_iff_toNat_le.mp hlow.1
      omega
    · have hlst : 65 ≤ u.toNat := UInt16.le_iff_toNat_le.mp hupr.1
      have hmost : u.toNat ≤ 70 := UInt16.le_iff_toNat_le.mp hupr.2
      omega
  refine ⟨fun hctl => ?_, ne_of_toNat hbds.2, ne_of_toNat fun heq => ?_⟩
  · have hmost : u.toNat ≤ 31 := UInt16.le_iff_toNat_le.mp hctl
    omega
  · have hquote : u.toNat = 34 := heq
    omega

theorem passed_of_hexUnit (h : hexUnit? a b c d = some value) :
    Passed a ∧ Passed b ∧ Passed c ∧ Passed d := by
  unfold hexUnit? at h
  obtain ⟨_, ha, h⟩ := Option.bind_eq_some_iff.mp h
  obtain ⟨_, hb, h⟩ := Option.bind_eq_some_iff.mp h
  obtain ⟨_, hc, h⟩ := Option.bind_eq_some_iff.mp h
  obtain ⟨_, hd, -⟩ := Option.map_eq_some_iff.mp h
  exact ⟨passed_of_hexValue ha, passed_of_hexValue hb, passed_of_hexValue hc, passed_of_hexValue hd⟩

theorem passed_of_plain (h : 0x20 ≤ u ∧ u ≠ code '"' ∧ u ≠ code '\\') : Passed u := by
  refine ⟨fun hctl => ?_, h.2.2, h.2.1⟩
  have hlst : 32 ≤ u.toNat := UInt16.le_iff_toNat_le.mp h.1
  have hmost : u.toNat ≤ 31 := UInt16.le_iff_toNat_le.mp hctl
  omega

theorem scanString_passed (hpsd : Passed u) (t : Utf16) :
    scanString (u :: t) = (scanString t).map fun found => (u :: found.1, found.2) := by
  rw [scanString.eq_def]
  exact (if_neg hpsd.1).trans ((if_neg hpsd.2.1).trans (if_neg hpsd.2.2))

theorem scanString_escape (v : UInt16) (t : Utf16) : scanString (code '\\' :: v :: t) =
      (scanString t).map fun found => (code '\\' :: v :: found.1, found.2) := by
  rw [scanString, if_neg (by decide), if_pos rfl]

variable (string : List StringUnit)

theorem scanString_body (rest : Utf16) :
    scanString (body string ++ code '"' :: rest) = some (body string, rest) := by
  induction string with
  | nil =>
    unfold body
    rw [List.flatMap_nil, List.nil_append, scanString.eq_def]
    exact (if_neg (by decide)).trans ((if_neg (by decide)).trans (if_pos rfl))
  | cons unit string ih =>
    have hspl : body (unit :: string) = unit.text ++ body string := List.flatMap_cons
    rw [hspl, List.append_assoc]
    cases unit with
    | plain u h =>
      change scanString (u :: (body string ++ code '"' :: rest)) = _
      rw [scanString_passed (passed_of_plain h), ih]
      rfl
    | escape u =>
      change scanString (code '\\' :: u :: (body string ++ code '"' :: rest)) = _
      rw [scanString_escape, ih]
      rfl
    | unicode a b c d _ h =>
      obtain ⟨ha, hb, hc, hd⟩ := passed_of_hexUnit h
      change scanString (code '\\' :: code 'u' :: a :: b :: c :: d ::
        (body string ++ code '"' :: rest)) = _
      rw [scanString_escape, scanString_passed ha, scanString_passed hb, scanString_passed hc,
        scanString_passed hd, ih]
      rfl

theorem unescape_body : unescape (body string) = some (stringValue string) := by
  induction string with
  | nil => rfl
  | cons unit string ih =>
    have hspl : body (unit :: string) = unit.text ++ body string := List.flatMap_cons
    rw [hspl]
    cases unit with
    | plain u h =>
      have hpsd := passed_of_plain h
      change unescape (u :: body string) = _
      rw [unescape.eq_def]
      refine (if_neg (not_or.mpr ⟨hpsd.1, hpsd.2.2⟩)).trans ((if_neg hpsd.2.1).trans ?_)
      rw [ih]
      rfl
    | escape u value h =>
      have hshrt : u ≠ code 'u' := by
        have hno : escaped? (code 'u') = none := by decide
        rintro rfl
        exact Option.some_ne_none value (h.symm.trans hno)
      change unescape (code '\\' :: u :: body string) = _
      rw [unescape.eq_def]
      refine (if_neg (by decide)).trans ((if_pos rfl).trans ((if_neg hshrt).trans ?_))
      rw [h, ih]
      rfl
    | unicode a b c d _ h =>
      change unescape (code '\\' :: code 'u' :: a :: b :: c :: d :: body string) = _
      rw [unescape.eq_def]
      refine (if_neg (by decide)).trans ((if_pos rfl).trans ((if_pos rfl).trans ?_))
      change (hexUnit? a b c d).bind _ = _
      rw [h, ih]
      rfl

theorem parseString_text (rest : Utf16) :
    parseString (stringText string ++ rest) = some (stringValue string, rest) := by
  unfold stringText
  rw [List.cons_append, List.append_assoc, parseString, if_pos rfl, List.singleton_append,
    scanString_body, Option.bind_some, unescape_body]
  rfl

/-! ### Numbers of the grammar -/

theorem matchDigits_text (digits : Digits) (havd : Avoids isDigit t) :
    matchDigits (digits.text ++ t) = some t := by
  obtain ⟨text, hnonempty, hall⟩ := digits
  cases text with
  | nil => exact absurd rfl hnonempty
  | cons u text =>
    rw [List.all_cons, Bool.and_eq_true] at hall
    change matchDigits (u :: (text ++ t)) = _
    rw [matchDigits, if_pos hall.1, dropWhile_append hall.2 havd]

theorem matchInteger_text (integer : IntegerPart) (havd : Avoids isDigit t) :
    matchInteger (integer.text ++ t) = some t := by
  cases integer with
  | zero =>
    change matchInteger (code '0' :: t) = _
    rw [matchInteger, if_pos rfl]
  | positive first h rest hdgs =>
    change matchInteger (first :: (rest ++ t)) = _
    rw [matchInteger, if_neg h.2, if_pos h.1, dropWhile_append hdgs havd]

theorem matchOptional_of_avoids (havd : Avoids p t) : matchOptional p t = t := by
  cases t with
  | nil => rfl
  | cons u t => rw [matchOptional, havd u rfl, if_neg Bool.false_ne_true]

theorem head_digits (digits : Digits) (t : Utf16) :
    ∃ u s, digits.text ++ t = u :: s ∧ isDigit u = true := by
  obtain ⟨text, hnonempty, hall⟩ := digits
  cases text with
  | nil => exact absurd rfl hnonempty
  | cons u text =>
    rw [List.all_cons, Bool.and_eq_true] at hall
    exact ⟨u, text ++ t, rfl, hall.1⟩

theorem isSign_of_isDigit (hdg : isDigit u = true) : isSign u = false := by
  have hbds := isDigit_bounds hdg
  unfold isSign
  rw [Bool.or_eq_false_iff, beq_eq_false_iff_ne, beq_eq_false_iff_ne]
  refine ⟨ne_of_toNat fun heq => ?_, ne_of_toNat fun heq => ?_⟩
  · have hplus : u.toNat = 43 := heq
    omega
  · have hminus : u.toNat = 45 := heq
    omega

theorem matchExponent_text (exponent : Option Exponent) (havd : Avoids isNumberUnit rest) :
    matchExponent (exponentText exponent ++ rest) = rest := by
  cases exponent with
  | none =>
    change matchExponent rest = rest
    cases rest with
    | nil => rfl
    | cons u rest =>
      have hno := havd u rfl
      unfold isNumberUnit at hno
      rw [matchExponent, if_neg]
      rintro (rfl | rfl) <;> exact absurd hno (by decide)
  | some exponent =>
    obtain ⟨mark, hisMark, sign, hsign, digits⟩ := exponent
    have hexc := matchDigits_text digits havd.digits
    obtain ⟨u, s, head, hdg⟩ := head_digits digits rest
    change matchExponent (mark :: ((sign.toList ++ digits.text) ++ rest)) = rest
    rw [matchExponent, if_pos hisMark]
    cases sign with
    | none =>
      change (matchDigits (matchOptional isSign (digits.text ++ rest))).getD _ = _
      rw [matchOptional_of_avoids, hexc, Option.getD_some]
      rw [head]
      exact Avoids.cons (isSign_of_isDigit hdg) s
    | some v =>
      have hsgd : isSign v = true := by
        obtain rfl | rfl := hsign v rfl <;> decide
      change (matchDigits (matchOptional isSign (v :: (digits.text ++ rest)))).getD _ = _
      rw [matchOptional, if_pos hsgd, hexc, Option.getD_some]

theorem avoids_exponent (exponent : Option Exponent) (havd : Avoids isNumberUnit rest) :
    Avoids (fun u => isDigit u || u == code '.') (exponentText exponent ++ rest) := by
  cases exponent with
  | none =>
    intro u head
    have hno := havd u head
    unfold isNumberUnit at hno
    rw [Bool.or_eq_false_iff, Bool.or_eq_false_iff] at hno
    exact Bool.or_eq_false_iff.mpr ⟨hno.1, hno.2.1⟩
  | some exponent =>
    apply Avoids.cons
    obtain hmark | hmark := exponent.isMark <;> rw [hmark] <;> decide

theorem matchFraction_text (fraction : Option Digits)
    (havd : Avoids (fun u => isDigit u || u == code '.') t) :
    matchFraction (fractionText fraction ++ t) = t := by
  cases fraction with
  | none =>
    change matchFraction t = t
    cases t with
    | nil => rfl
    | cons u t =>
      have hno := (Bool.or_eq_false_iff.mp (havd u rfl)).2
      rw [matchFraction, if_neg (ne_of_beq_false hno)]
  | some digits =>
    change matchFraction (code '.' :: (digits.text ++ t)) = t
    rw [matchFraction, if_pos rfl, matchDigits_text digits, Option.getD_some]
    exact fun u head => (Bool.or_eq_false_iff.mp (havd u head)).1

theorem avoids_fraction (havd : Avoids (fun u => isDigit u || u == code '.') t) :
    Avoids isDigit (fractionText fraction ++ t) := by
  cases fraction with
  | none => exact fun u head => (Bool.or_eq_false_iff.mp (havd u head)).1
  | some digits => exact Avoids.cons (by decide) _

/-- A number starts with a minus sign or a digit. -/
theorem head_number (n : Number) : ∃ u s, n.text = u :: s ∧ (u = code '-' ∨ isDigit u = true) := by
  obtain ⟨negative, integer, fraction, exponent⟩ := n
  unfold Number.text
  cases negative with
  | true => exact ⟨_, _, rfl, .inl rfl⟩
  | false =>
    cases integer with
    | zero => exact ⟨_, _, rfl, .inr (by decide)⟩
    | positive _ h => exact ⟨_, _, rfl, .inr h.1⟩

theorem head_integer (integer : IntegerPart) (t : Utf16) :
    Avoids (· == code '-') (integer.text ++ t) := by
  cases integer with
  | zero => exact Avoids.cons (by decide) _
  | positive first h =>
    have hdg : first ≠ code '-' := by
      rintro rfl
      exact absurd h.1 (by decide)
    exact Avoids.cons (p := (· == code '-')) (beq_eq_false_iff_ne.mpr hdg) _

theorem parseNumber_text (n : Number) (havd : Avoids isNumberUnit rest) :
    parseNumber (n.text ++ rest) = some rest := by
  obtain ⟨negative, integer, fraction, exponent⟩ := n
  have hafterFraction := avoids_exponent exponent havd
  have hmatched : (matchInteger (integer.text ++ (fractionText fraction ++
      (exponentText exponent ++ rest)))).map (fun s => matchExponent (matchFraction s)) =
      some rest := by
    rw [matchInteger_text integer (avoids_fraction hafterFraction), Option.map_some,
      matchFraction_text fraction hafterFraction, matchExponent_text exponent havd]
  unfold Number.text parseNumber
  simp only [List.append_assoc]
  cases negative with
  | true => exact hmatched
  | false =>
    change (matchInteger (matchOptional _ (integer.text ++ _))).map _ = _
    rw [matchOptional_of_avoids (head_integer integer _)]
    exact hmatched

/-! ### Literals -/

theorem isPrefixOf?_append (l rest : Utf16) : l.isPrefixOf? (l ++ rest) = some rest := by
  induction l with
  | nil => cases rest <;> rfl
  | cons u _ ih =>
    rw [List.cons_append, List.isPrefixOf?, if_pos (beq_self_eq_true u)]
    exact ih

variable (fuel : ℕ)

theorem parseValue_cons (h : isBlank u = false) (rest : Utf16) : parseValue (fuel + 1) (u :: rest) =
      if u = code '\x7b' then parseObject fuel rest
      else if u = code '[' then parseArray fuel rest
      else if u = code '"' then ofRest ((parseString (u :: rest)).map Prod.snd)
      else if u = code 't' then ofRest (parseLiteral "true" (u :: rest))
      else if u = code 'f' then ofRest (parseLiteral "false" (u :: rest))
      else if u = code 'n' then ofRest (parseLiteral "null" (u :: rest))
      else ofRest (parseNumber (u :: rest)) := by
  rw [parseValue.eq_def]
  change (match skipWhitespace (u :: rest) with | [] => _ | u :: rest => _) = _
  rw [skipWhitespace_cons h]

theorem true_text : Utf16.ofString "true" = code 't' :: Utf16.ofString "rue" := by decide +kernel

theorem false_text : Utf16.ofString "false" = code 'f' :: Utf16.ofString "alse" := by decide +kernel

theorem null_text : Utf16.ofString "null" = code 'n' :: Utf16.ofString "ull" := by decide +kernel

theorem parseValue_literal (literal : Literal) (rest : Utf16) :
    parseValue (fuel + 1) (literal.text ++ rest) = .valid rest := by
  have hexc : ∀ name, ofRest (parseLiteral name (Utf16.ofString name ++ rest)) = .valid rest := by
    intro name
    unfold parseLiteral
    rw [isPrefixOf?_append]
    rfl
  cases literal with
  | true =>
    have hfd := hexc "true"
    change parseValue (fuel + 1) (Utf16.ofString "true" ++ rest) = _
    rw [true_text, List.cons_append] at hfd ⊢
    rw [parseValue_cons fuel (by decide)]
    exact hfd
  | false =>
    have hfd := hexc "false"
    change parseValue (fuel + 1) (Utf16.ofString "false" ++ rest) = _
    rw [false_text, List.cons_append] at hfd ⊢
    rw [parseValue_cons fuel (by decide)]
    exact hfd
  | null =>
    have hfd := hexc "null"
    change parseValue (fuel + 1) (Utf16.ofString "null" ++ rest) = _
    rw [null_text, List.cons_append] at hfd ⊢
    rw [parseValue_cons fuel (by decide)]
    exact hfd

theorem number_first (hfst : u = code '-' ∨ isDigit u = true) : isBlank u = false ∧
      ∀ v ∈ [code '\x7b', code '[', code '"', code 't', code 'f', code 'n', code ']'], u ≠ v := by
  constructor
  · obtain rfl | hdg := hfst
    · decide
    · by_contra hblk
      obtain rfl | rfl | rfl | rfl := isBlank_cases (Bool.eq_true_of_not_eq_false hblk) <;>
        exact absurd hdg (by decide)
  · have hoths : ∀ v ∈ [code '\x7b', code '[', code '"', code 't', code 'f', code 'n', code ']'],
        v ≠ code '-' ∧ isDigit v = false := by
      intro v hmem
      simp only [List.mem_cons, List.not_mem_nil, or_false] at hmem
      rcases hmem with rfl | rfl | rfl | rfl | rfl | rfl | rfl <;> decide
    rintro v hmem rfl
    obtain heq | hdg := hfst
    · exact (hoths u hmem).1 heq
    · exact absurd hdg (by rw [(hoths u hmem).2]; decide)

theorem parseValue_number (n : Number) (havd : Avoids isNumberUnit rest) :
    parseValue (fuel + 1) (n.text ++ rest) = .valid rest := by
  have hfd := parseNumber_text n havd
  obtain ⟨u, s, htext, hfst⟩ := head_number n
  obtain ⟨hblk, hoths⟩ := number_first hfst
  rw [htext, List.cons_append] at hfd ⊢
  rw [parseValue_cons fuel hblk]
  have hoth : ∀ {v}, v ∈ _ → u ≠ v := fun {v} => hoths v
  rw [if_neg (hoth (by simp)), if_neg (hoth (by simp)), if_neg (hoth (by simp)),
    if_neg (hoth (by simp)), if_neg (hoth (by simp)), if_neg (hoth (by simp)), hfd]
  rfl

/-! ### Values of the grammar -/

abbrev Distinct (objectNames : List (List Utf16)) : Prop := ∀ names ∈ objectNames, names.Nodup

/-- What the scanner makes of a text. -/
def verdict (distinct : Prop) [Decidable distinct] (rest : Utf16) : JsonObjectKeyScanResult :=
  if distinct then .valid rest else .duplicate

theorem skipWhitespace_idem (s : Utf16) : skipWhitespace (skipWhitespace s) = skipWhitespace s :=
  List.dropWhile_idempotent _ s

theorem parseValue_skip (s : Utf16) : parseValue fuel (skipWhitespace s) = parseValue fuel s := by
  cases fuel with
  | zero => rw [parseValue, parseValue]
  | succ fuel =>
    rw [parseValue.eq_def, parseValue.eq_def (fuel + 1) s]
    simp only [skipWhitespace_idem]

theorem parseValue_blank (b : Blank) (s : Utf16) :
    parseValue fuel (b.text ++ s) = parseValue fuel s := by
  rw [← parseValue_skip, skipWhitespace_blank, parseValue_skip]

theorem parseValue_nil : parseValue fuel [] = .invalid := by
  cases fuel with
  | zero => rw [parseValue]
  | succ fuel =>
    rw [parseValue.eq_def]
    rfl

theorem arrayLoop_succ (s : Utf16) : arrayLoop (fuel + 1) s =
      match parseValue fuel s with
      | .valid rest =>
        match skipWhitespace rest with
        | [] => .invalid
        | u :: rest =>
          if u = code ']' then .valid rest
          else if u = code ',' then arrayLoop fuel rest
          else .invalid
      | result => result := by
  cases s with
  | nil => rw [arrayLoop.eq_def, parseValue_nil]
  | cons u s => rw [arrayLoop.eq_def]

theorem arrayLoop_skip (s : Utf16) : arrayLoop fuel (skipWhitespace s) = arrayLoop fuel s := by
  cases fuel with
  | zero => rw [arrayLoop, arrayLoop]
  | succ fuel => rw [arrayLoop_succ, arrayLoop_succ, parseValue_skip]

theorem arrayLoop_element [Decidable distinct] (hval : parseValue fuel s = verdict distinct t)
    (haft : skipWhitespace t = u :: next) : arrayLoop (fuel + 1) s =
      if distinct then
        if u = code ']' then .valid next
        else if u = code ',' then arrayLoop fuel next
        else .invalid
      else .duplicate := by
  rw [arrayLoop_succ, hval]
  unfold verdict
  by_cases h : distinct
  · simp only [if_pos h, haft]
  · simp only [if_neg h]

theorem objectLoop_member (keys : List Utf16) (name : List StringUnit) (colon : Blank)
    [Decidable distinct] (hval : parseValue fuel s = verdict distinct t)
    (haft : skipWhitespace t = u :: next) :
    objectLoop (fuel + 1) keys (stringText name ++ (colon.text ++ code ':' :: s)) =
      if stringValue name ∈ keys then .duplicate
      else if distinct then
        if u = code '\x7d' then .valid next
        else if u = code ',' then objectLoop fuel (stringValue name :: keys) (skipWhitespace next)
        else .invalid
      else .duplicate := by
  have hcolon : skipWhitespace (colon.text ++ code ':' :: s) = code ':' :: s := by
    rw [skipWhitespace_blank, skipWhitespace_cons (by decide)]
  rw [objectLoop.eq_def]
  simp only [parseString_text, hcolon, hval, if_true]
  unfold verdict
  by_cases h : distinct
  · simp only [if_pos h, haft]
  · simp only [if_neg h]

/-- A value starts with no white space and no closing bracket. -/
theorem head_value (v : Value) : ∃ u t, v.text = u :: t ∧ isBlank u = false ∧ u ≠ code ']' := by
  cases v with
  | literal literal =>
    cases literal with
    | true =>
      exact ⟨_, _, by rw [Value.text]; exact true_text, by decide, by decide⟩
    | false =>
      exact ⟨_, _, by rw [Value.text]; exact false_text, by decide, by decide⟩
    | null =>
      exact ⟨_, _, by rw [Value.text]; exact null_text, by decide, by decide⟩
  | number number =>
    obtain ⟨u, s, htext, hfst⟩ := head_number number
    obtain ⟨hblk, hoths⟩ := number_first hfst
    exact ⟨u, s, by rw [Value.text, htext], hblk, hoths _ (by simp)⟩
  | string => exact ⟨_, _, by rw [Value.text, stringText], by decide, by decide⟩
  | emptyArray | array | emptyObject | object =>
    exact ⟨_, _, by rw [Value.text], by decide, by decide⟩

theorem skipWhitespace_value (b : Blank) (v : Value) (t : Utf16) :
    ∃ u s, skipWhitespace (b.text ++ (v.text ++ t)) = u :: s ∧ u ≠ code ']' := by
  obtain ⟨u, s, htext, hblk, hoth⟩ := head_value v
  refine ⟨u, s ++ t, ?_, hoth⟩
  rw [skipWhitespace_blank, htext, List.cons_append, skipWhitespace_cons hblk]

theorem parseArray_elements (b : Blank) (v : Value) (t : Utf16) :
    parseArray (fuel + 1) (b.text ++ (v.text ++ t)) = arrayLoop fuel (b.text ++ (v.text ++ t)) := by
  obtain ⟨u, s, head, hoth⟩ := skipWhitespace_value b v t
  rw [parseArray, ← arrayLoop_skip fuel (b.text ++ (v.text ++ t)), head]
  exact if_neg hoth

theorem skipWhitespace_name (b : Blank) (name : List StringUnit) (t : Utf16) :
    skipWhitespace (b.text ++ (stringText name ++ t)) = stringText name ++ t := by
  rw [skipWhitespace_blank]
  exact skipWhitespace_cons (by decide) _

theorem parseObject_members (b : Blank) (name : List StringUnit) (t : Utf16) :
    parseObject (fuel + 1) (b.text ++ (stringText name ++ t)) =
      objectLoop fuel [] (skipWhitespace (b.text ++ (stringText name ++ t))) := by
  rw [parseObject, skipWhitespace_name]
  exact if_neg (by decide)

theorem skipWhitespace_closer (after : Blank) (h : isBlank u = false) (t : Utf16) :
    skipWhitespace (after.text ++ u :: t) = u :: t := by
  rw [skipWhitespace_blank, skipWhitespace_cons h]

theorem distinct_append : Distinct (a ++ b) ↔ Distinct a ∧ Distinct b := List.forall_mem_append

theorem two_le_fuel {v : Value} {fuel : ℕ} (heno : 2 * v.text.length ≤ fuel) :
    ∃ less, fuel = less + 2 := by
  obtain ⟨u, t, htext, -⟩ := head_value v
  rw [htext, List.length_cons] at heno
  exact ⟨fuel - 2, by omega⟩

theorem verdict_of [Decidable distinct] (h : distinct) (rest : Utf16) :
    verdict distinct rest = .valid rest :=
  if_pos h

theorem verdict_congr {p q : Prop} [Decidable p] [Decidable q] (h : p ↔ q) (rest : Utf16) :
    verdict p rest = verdict q rest :=
  if_congr h rfl rfl

theorem verdict_and (p q : Prop) [Decidable p] [Decidable q] (rest : Utf16) :
    (if p then verdict q rest else .duplicate) = verdict (p ∧ q) rest :=
  (ite_and p q _ _).symm

theorem verdict_new (p q : Prop) [Decidable p] [Decidable q] (rest : Utf16) :
    (if p then .duplicate else verdict q rest) = verdict (¬p ∧ q) rest := by
  rw [← verdict_and, ite_not]

theorem distinct_nil : Distinct [] := fun _ hmem => absurd hmem List.not_mem_nil

theorem avoids_closer (after : Blank) (h : isNumberUnit u = false) (t : Utf16) :
    Avoids isNumberUnit (after.text ++ u :: t) :=
  (Avoids.cons h t).blank after

/-! By recursion on the derivation.  The fuel goes down by one in each round and twice on the way
into an array or an object, and the text by at least one unit. -/

mutual

/-- The scanner reads a value and finds its repeated names. -/
theorem parseValue_text : ∀ (v : Value) (fuel : ℕ) (rest : Utf16), 2 * v.text.length ≤ fuel →
    Avoids isNumberUnit rest →
      parseValue fuel (v.text ++ rest) = verdict (Distinct v.objectNames) rest
  | .literal literal, fuel, rest, heno, _ => by
    obtain ⟨fuel, rfl⟩ := two_le_fuel heno
    rw [Value.text, parseValue_literal, verdict_of]
    exact distinct_nil
  | .number number, fuel, rest, heno, havd => by
    obtain ⟨fuel, rfl⟩ := two_le_fuel heno
    rw [Value.text, parseValue_number _ _ havd, verdict_of]
    exact distinct_nil
  | .string string, fuel, rest, heno, _ => by
    obtain ⟨fuel, rfl⟩ := two_le_fuel heno
    have hfd := parseString_text string rest
    rw [Value.text, Value.objectNames, verdict_of distinct_nil]
    unfold stringText at hfd ⊢
    rw [List.cons_append] at hfd ⊢
    rw [parseValue_cons _ (by decide), hfd]
    exact (if_neg (by decide)).trans ((if_neg (by decide)).trans (if_pos rfl))
  | .emptyArray blank, fuel, rest, heno, _ => by
    obtain ⟨fuel, rfl⟩ := two_le_fuel heno
    rw [Value.text, Value.objectNames, verdict_of distinct_nil, List.cons_append,
      List.append_assoc, List.singleton_append, parseValue_cons _ (by decide)]
    refine (if_neg (by decide)).trans ((if_pos rfl).trans ?_)
    rw [parseArray, skipWhitespace_closer blank (by decide)]
    exact if_pos rfl
  | .array elements, fuel, rest, heno, _ => by
    obtain ⟨fuel, rfl⟩ := two_le_fuel heno
    rw [Value.text, List.length_cons] at heno
    have hrun := arrayLoop_text elements fuel rest (by omega)
    rw [Value.text, Value.objectNames, List.cons_append, parseValue_cons _ (by decide), ← hrun]
    refine (if_neg (by decide)).trans ((if_pos rfl).trans ?_)
    cases elements with
    | last | more =>
      rw [Elements.text, List.append_assoc, List.append_assoc, parseArray_elements]
  | .emptyObject blank, fuel, rest, heno, _ => by
    obtain ⟨fuel, rfl⟩ := two_le_fuel heno
    rw [Value.text, Value.objectNames, verdict_of distinct_nil, List.cons_append,
      List.append_assoc, List.singleton_append, parseValue_cons _ (by decide)]
    refine (if_pos rfl).trans ?_
    rw [parseObject, skipWhitespace_closer blank (by decide)]
    exact if_pos rfl
  | .object members, fuel, rest, heno, _ => by
    obtain ⟨fuel, rfl⟩ := two_le_fuel heno
    rw [Value.text, List.length_cons] at heno
    have hrun := objectLoop_text members fuel [] rest (by omega)
    have heq : ((∀ name ∈ members.names, name ∉ []) ∧ members.names.Nodup ∧
        Distinct members.objectNames) ↔ Distinct (members.names :: members.objectNames) :=
      Iff.trans (and_iff_right fun _ _ => List.not_mem_nil) List.forall_mem_cons.symm
    rw [Value.text, Value.objectNames, List.cons_append, parseValue_cons _ (by decide),
      ← verdict_congr heq, ← hrun]
    refine (if_pos rfl).trans ?_
    cases members with
    | last | more =>
      rw [Members.text, List.append_assoc, List.append_assoc, parseObject_members]

theorem arrayLoop_text : ∀ (es : Elements) (fuel : ℕ) (rest : Utf16), 2 * es.text.length ≤ fuel →
    arrayLoop fuel (es.text ++ rest) = verdict (Distinct es.objectNames) rest
  | .last before value after, fuel, rest, heno => by
    rw [Elements.text] at heno ⊢
    simp only [List.length_append, List.length_cons, List.length_nil] at heno
    obtain ⟨fuel, rfl⟩ : ∃ less, fuel = less + 1 := ⟨fuel - 1, by omega⟩
    have hinner := parseValue_text value fuel (after.text ++ code ']' :: rest) (by omega)
      (avoids_closer after (by decide) rest)
    simp only [List.append_assoc, List.singleton_append]
    rw [arrayLoop_element fuel ((parseValue_blank fuel before _).trans hinner)
      (skipWhitespace_closer after (by decide) rest), if_pos rfl]
    rfl
  | .more before value after es, fuel, rest, heno => by
    rw [Elements.text] at heno ⊢
    simp only [List.length_append, List.length_cons] at heno
    obtain ⟨fuel, rfl⟩ : ∃ less, fuel = less + 1 := ⟨fuel - 1, by omega⟩
    have hinner := parseValue_text value fuel (after.text ++ code ',' :: (es.text ++ rest))
      (by omega)
      (avoids_closer after (by decide) _)
    have hrun := arrayLoop_text es fuel rest (by omega)
    have hclg : code ',' ≠ code ']' := by decide
    simp only [List.append_assoc, List.cons_append]
    rw [arrayLoop_element fuel ((parseValue_blank fuel before _).trans hinner)
      (skipWhitespace_closer after (by decide) _), if_neg hclg, if_pos rfl, hrun]
    rw [Elements.objectNames, verdict_and]
    exact verdict_congr distinct_append.symm rest

/-- The loop reads the members of an object with the names before them. -/
theorem objectLoop_text : ∀ (ms : Members) (fuel : ℕ) (keys : List Utf16) (rest : Utf16),
    2 * ms.text.length ≤ fuel →
      objectLoop fuel keys (skipWhitespace (ms.text ++ rest)) =
        verdict ((∀ name ∈ ms.names, name ∉ keys) ∧ ms.names.Nodup ∧ Distinct ms.objectNames) rest
  | .last before name colon inner value after, fuel, keys, rest, heno => by
    rw [Members.text] at heno ⊢
    simp only [List.length_append, List.length_cons, List.length_nil] at heno
    obtain ⟨fuel, rfl⟩ : ∃ less, fuel = less + 1 := ⟨fuel - 1, by omega⟩
    have hnested := parseValue_text value fuel (after.text ++ code '\x7d' :: rest) (by omega)
      (avoids_closer after (by decide) rest)
    simp only [List.append_assoc, List.cons_append, List.nil_append]
    rw [skipWhitespace_name, objectLoop_member fuel keys name colon
      ((parseValue_blank fuel inner _).trans hnested)
        (skipWhitespace_closer after (by decide) rest),
      if_pos rfl]
    rw [Members.names, Members.objectNames, ← verdict, verdict_new]
    refine verdict_congr ?_ rest
    rw [List.forall_mem_singleton]
    exact and_congr_right fun _ => (and_iff_right (List.nodup_singleton _)).symm
  | .more before name colon inner value after ms, fuel, keys, rest, heno => by
    rw [Members.text] at heno ⊢
    simp only [List.length_append, List.length_cons] at heno
    obtain ⟨fuel, rfl⟩ : ∃ less, fuel = less + 1 := ⟨fuel - 1, by omega⟩
    have hnested := parseValue_text value fuel (after.text ++ code ',' :: (ms.text ++ rest))
      (by omega) (avoids_closer after (by decide) _)
    have hrun := objectLoop_text ms fuel (stringValue name :: keys) rest (by omega)
    have hclg : code ',' ≠ code '\x7d' := by decide
    simp only [List.append_assoc, List.cons_append]
    rw [skipWhitespace_name, objectLoop_member fuel keys name colon
      ((parseValue_blank fuel inner _).trans hnested) (skipWhitespace_closer after (by decide) _),
      if_neg hclg, if_pos rfl, hrun]
    rw [Members.names, Members.objectNames, verdict_and, verdict_new]
    refine verdict_congr ?_ rest
    rw [List.forall_mem_cons, List.nodup_cons, distinct_append]
    -- the later names avoid the keys with this one: they repeat neither a key nor this name
    have hkeys : (∀ key ∈ ms.names, key ∉ stringValue name :: keys) ↔
        stringValue name ∉ ms.names ∧ ∀ key ∈ ms.names, key ∉ keys := by
      constructor
      · exact fun hfree => ⟨fun hmem => hfree _ hmem List.mem_cons_self,
          fun key hmem hold => hfree key hmem (List.mem_cons_of_mem _ hold)⟩
      · rintro ⟨hnew, hfree⟩ key hmem hold
        obtain rfl | hold := List.mem_cons.mp hold
        · exact hnew hmem
        · exact hfree key hmem hold
    rw [hkeys]
    tauto

end

theorem avoids_blank (after : Blank) : Avoids isNumberUnit after.text := by
  rw [← List.append_nil after.text]
  exact Avoids.blank after fun _ head => absurd head (Option.not_mem_none _)

/-- The scanner finds the JSON texts with an object, at any depth, that has two members of one
name. -/
theorem hasDuplicateJsonObjectKeys_iff (before : Blank) (v : Value) (after : Blank) :
    hasDuplicateJsonObjectKeys (before.text ++ (v.text ++ after.text)) = true ↔
      ∃ names ∈ v.objectNames, ¬names.Nodup := by
  have heno : 2 * v.text.length ≤ 2 * (before.text ++ (v.text ++ after.text)).length := by
    simp only [List.length_append]
    omega
  unfold hasDuplicateJsonObjectKeys
  rw [parseValue_blank, parseValue_text v _ after.text heno (avoids_blank after),
    decide_eq_true_iff]
  unfold verdict
  constructor
  · intro hfd
    by_contra hno
    have hdist : Distinct v.objectNames := fun names hmem =>
      by_contra fun hrpt => hno ⟨names, hmem, hrpt⟩
    rw [if_pos hdist] at hfd
    cases hfd
  · rintro ⟨names, hmem, hrpt⟩
    exact if_neg fun hdist => hrpt (hdist names hmem)

end UbqGateway.Codex
