import UbqGateway.Library.Utf16
import UbqGateway.Responses.ResponsesStream

/-!
# The frames of DeepSeek streams

The bytes of a stream arrive in chunks.  A chunk is decoded into the buffer, the size of the buffer
is checked, and then the complete blocks are taken out of it.  The blocks do not depend on how the
bytes are cut (`blocks_append`), but the check does: it is made while the blocks of a chunk are
still in the buffer.
-/

namespace UbqGateway.DeepSeek.FrameReader

/-- `TextDecoder`: what a byte adds to the text after the bytes before it, and what the end adds. -/
structure TextDecoder where
  step : List Byte → Byte → List Char
  flush : List Byte → List Char

namespace TextDecoder

variable (decoder : TextDecoder)

/-- The characters that each byte adds. -/
def groups : List Byte → List Byte → List (List Char)
  | _, [] => []
  | before, byte :: bytes => decoder.step before byte :: groups (before ++ [byte]) bytes

/-- The groups of each chunk, and what the end of the stream adds. -/
def decode : List Byte → List (List Byte) → List (List (List Char))
  | before, [] => [[decoder.flush before]]
  | before, chunk :: chunks => decoder.groups before chunk :: decode (before ++ chunk) chunks

end TextDecoder

inductive DeepSeekStreamFailureKind
  | malformedEvent
  | invalidChunk
  | frameTooLarge
  | prematureEof
deriving DecidableEq

structure DeepSeekStreamError where
  message : String
  kind : DeepSeekStreamFailureKind
deriving DecidableEq

inductive DeepSeekStreamFrame
  | comment (text : String)
  | chunk (value : Json)
  | done

/-- How a stream ends for its reader: with a `[DONE]` frame, or with an error. -/
inductive Ending
  | done
  | failed (error : DeepSeekStreamError)
deriving DecidableEq

/-- `JSON.parse`, and `normalizeDeepSeekChatCompletionChunk` for the requested model. -/
structure Payloads where
  parse : String → Option Json
  normalize : Json → Except String Json

def maxDeepseekSseFrameBytes : ℕ := 4 * 1024 * 1024

/-- The length of a text in UTF-16 code units. -/
def units (text : List Char) : ℕ := (text.flatMap Utf16.ofChar).length

/-! ### Blocks -/

/-- What follows a match of `SSE_FRAME_BOUNDARY` at the start of a text. -/
def boundary : List Char → Option (List Char)
  | '\r' :: '\n' :: '\r' :: '\n' :: rest => some rest
  | '\n' :: '\n' :: rest => some rest
  | '\r' :: '\r' :: rest => some rest
  | _ => none

/-- The text before the first boundary, and what follows it. -/
def cut : List Char → Option (List Char × List Char)
  | [] => none
  | c :: text =>
    match boundary (c :: text) with
    | some rest => some ([], rest)
    | none => (cut text).map fun found => (c :: found.1, found.2)

theorem boundary_suffix (h : boundary text = some rest) : ∃ front, front ≠ [] ∧
    text = front ++ rest := by
  unfold boundary at h
  split at h <;> cases h
  · exact ⟨['\r', '\n', '\r', '\n'], nofun, rfl⟩
  · exact ⟨['\n', '\n'], nofun, rfl⟩
  · exact ⟨['\r', '\r'], nofun, rfl⟩

theorem cut_suffix (h : cut text = some (raw, rest)) : ∃ front, front ≠ [] ∧
    text = front ++ rest := by
  induction text generalizing raw with
  | nil => contradiction
  | cons c _ ih =>
    rw [cut] at h
    split at h
    · cases h
      exact boundary_suffix ‹_›
    · obtain ⟨found, hlat, heq⟩ := Option.map_eq_some_iff.mp h
      cases heq
      obtain ⟨front, -, rfl⟩ := ih hlat
      exact ⟨c :: front, nofun, rfl⟩

theorem cut_shorter (h : cut text = some (raw, rest)) : rest.length < text.length := by
  obtain ⟨front, hnonempty, rfl⟩ := cut_suffix h
  rw [List.length_append]
  exact Nat.lt_add_of_pos_left (List.length_pos_of_ne_nil hnonempty)

/-- The complete blocks of a text, and the text that is left. -/
def blocks (text : List Char) : List (List Char) × List Char :=
  match _h : cut text with
  | none => ([], text)
  | some (raw, rest) => (raw :: (blocks rest).1, (blocks rest).2)
termination_by text.length
decreasing_by all_goals exact cut_shorter _h

/-- `parseSseEventBlock` -/
def parseSseEventBlock (payloads : Payloads) (raw : List Char) :
    Except DeepSeekStreamError (Option DeepSeekStreamFrame) :=
  let lines := JsString.splitLines [] raw
  match lines.filterMap Responses.dataOf, lines.filter (JsString.startsWith · ":") with
  | [], [] => .ok none
  | [], comments => .ok (some (.comment (JsString.join "\n" comments)))
  | data, _ =>
    let payload := JsString.join "\n" data
    if JsString.trim payload = "[DONE]" then .ok (some .done)
    else match payloads.parse payload with
      | none => .error ⟨"Upstream emitted malformed Chat Completions SSE JSON.", .malformedEvent⟩
      | some parsed =>
        match payloads.normalize parsed with
        | .error message =>
          .error ⟨"Upstream emitted an invalid Chat Completions chunk: " ++ message, .invalidChunk⟩
        | .ok value => .ok (some (.chunk value))

/-! ### Reading -/

/-- What a block gives: no frame, or one, or the end of the stream. -/
def yieldBlock (payloads : Payloads) (_ : Unit) (block : List Char) :
    Scanned DeepSeekStreamFrame Ending Unit :=
  match parseSseEventBlock payloads block with
  | .error error => .stop (.failed error)
  | .ok none => .pure ()
  | .ok (some .done) => ([.done], .error .done)
  | .ok (some frame) => ([frame], .ok ())

/-- `shift`, until the buffer has no complete block. -/
def shift (payloads : Payloads) (buffer : List Char) :
    Scanned DeepSeekStreamFrame Ending (List Char) :=
  (scan (yieldBlock payloads) () (blocks buffer).1).bind fun _ => .pure (blocks buffer).2

def tooLarge : DeepSeekStreamError :=
    ⟨"Upstream SSE frame exceeded the gateway bound.", .frameTooLarge⟩

/-- A chunk is pushed, and its frames are taken. -/
def push (payloads : Payloads) (buffer : List Char) (chunk : List (List Char)) :
    Scanned DeepSeekStreamFrame Ending (List Char) :=
  if maxDeepseekSseFrameBytes < units (buffer ++ chunk.flatten) then .stop (.failed tooLarge)
  else shift payloads (buffer ++ chunk.flatten)

/-- The frames of a decoded stream, and how it ends. -/
def session (payloads : Payloads) (buffer : List Char) (chunks : List (List (List Char))) :
    Scanned DeepSeekStreamFrame Ending Empty :=
  (scan (push payloads) buffer chunks).bind fun _ =>
    .stop (.failed ⟨"Upstream Chat Completions stream ended before [DONE].", .prematureEof⟩)

def iterateDeepSeekChatCompletionStream (decoder : TextDecoder) (payloads : Payloads)
    (chunks : List (List Byte)) : Scanned DeepSeekStreamFrame Ending Empty :=
  session payloads [] (decoder.decode [] chunks)

/-! ### Cutting does not depend on what follows -/

theorem boundary_append (more : List Char) (h : boundary text = some rest) :
    boundary (text ++ more) = some (rest ++ more) := by
  unfold boundary at h
  split at h <;> cases h <;> rfl

/-- A boundary that is completed later does not start before one that is there. -/
theorem boundary_append_none (more : List Char) (hno : boundary (c :: text) = none)
    (hfd : cut text = some cut_) : boundary (c :: text ++ more) = none := by
  match text with
  | [] => contradiction
  | [d] => simp [cut, boundary] at hfd
  | [d, e] =>
    unfold boundary
    split
    · simp_all [cut, boundary]
    all_goals simp_all [boundary]
  | d :: e :: f :: text =>
    unfold boundary
    split <;> simp_all [boundary]

theorem cut_append (more : List Char) (h : cut text = some (raw, rest)) :
    cut (text ++ more) = some (raw, rest ++ more) := by
  induction text generalizing raw with
  | nil => contradiction
  | cons c text ih =>
    rw [cut] at h
    rw [List.cons_append, cut]
    split at h
    · rename_i hfd
      cases h
      rw [← List.cons_append, boundary_append more hfd]
    · rename_i hno
      obtain ⟨found, hlat, heq⟩ := Option.map_eq_some_iff.mp h
      cases heq
      rw [← List.cons_append, boundary_append_none more hno hlat]
      show Option.map _ (cut (text ++ more)) = _
      rw [ih hlat]
      rfl

theorem blocks_of_cut (h : cut text = some (raw, rest)) :
    blocks text = (raw :: (blocks rest).1, (blocks rest).2) := by
  rw [blocks]
  split
  · rename_i hno
    rw [h] at hno
    contradiction
  · rename_i hfd
    rw [h] at hfd
    cases hfd
    rfl

theorem blocks_append (text more : List Char) : blocks (text ++ more) =
      ((blocks text).1 ++ (blocks ((blocks text).2 ++ more)).1,
        (blocks ((blocks text).2 ++ more)).2) := by
  fun_induction blocks text with
  | case1 => rfl
  | case2 text raw rest hfd ih =>
    rw [blocks_of_cut (cut_append more hfd), ih]
    rfl

theorem blocks_nil : blocks [] = ([], []) := by
  rw [blocks]
  rfl

theorem blocks_suffix (text : List Char) : ∃ front, text = front ++ (blocks text).2 := by
  fun_induction blocks text with
  | case1 text => exact ⟨[], rfl⟩
  | case2 text raw rest hfd ih =>
    obtain ⟨front, -, hwhl⟩ := cut_suffix hfd
    obtain ⟨more, heq⟩ := ih
    exact ⟨front ++ more, by rw [List.append_assoc, ← heq, hwhl]⟩

theorem units_append (a b : List Char) : units (a ++ b) = units a + units b := by
  unfold units
  rw [List.flatMap_append, List.length_append]

theorem units_blocks_le (text : List Char) : units (blocks text).2 ≤ units text := by
  obtain ⟨front, heq⟩ := blocks_suffix text
  conv_rhs => rw [heq, units_append]
  exact Nat.le_add_left _ _

section

theorem shift_bind (text : List Char) (f : List Char → Scanned DeepSeekStreamFrame Ending τ) :
    (shift payloads text).bind f =
      (scan (yieldBlock payloads) () (blocks text).1).bind fun _ => f (blocks text).2 := by
  unfold shift
  rw [Scanned.bind_assoc]
  rfl

/-- The frames of a text that arrives in two parts are those of the text. -/
theorem shift_append (text more : List Char) :
    ((shift payloads text).bind fun rest => shift payloads (rest ++ more)) = shift payloads
      (text ++ more) := by
  rw [shift_bind]
  unfold shift
  rw [blocks_append text more, scan_append, Scanned.bind_assoc]

theorem scan_push (parts : List (List (List Char))) (text : List Char)
    (hsml : units (text ++ parts.flatten.flatten) ≤ maxDeepseekSseFrameBytes) :
    ((shift payloads text).bind fun rest => scan (push payloads) rest parts) =
      shift payloads (text ++ parts.flatten.flatten) := by
  induction parts generalizing text with
  | nil =>
    rw [shift_bind]
    exact congrArg (shift payloads) (List.append_nil text).symm
  | cons part _ ih =>
    rw [List.flatten_cons, List.flatten_append, ← List.append_assoc] at hsml ⊢
    have hfit : ¬ maxDeepseekSseFrameBytes < units ((blocks text).2 ++ part.flatten) := by
      have hbd := units_blocks_le text
      simp only [units_append] at hsml ⊢
      omega
    have hfst : push payloads (blocks text).2 part = shift payloads
      ((blocks text).2 ++ part.flatten) :=
      if_neg hfit
    rw [← ih _ hsml, ← shift_append, Scanned.bind_assoc, shift_bind, shift_bind, scan, hfst]

/-- A block without a frame. -/
def Silent (payloads : Payloads) (block : List Char) :
    Prop := parseSseEventBlock payloads block = .ok none

theorem scan_silent (h : ∀ block ∈ texts, Silent payloads block) :
    scan (yieldBlock payloads) () texts = .pure () := by
  induction texts with
  | nil => rfl
  | cons block _ ih =>
    obtain ⟨hsil, hoths⟩ := List.forall_mem_cons.mp h
    have hfst : yieldBlock payloads () block = .pure () := by
      unfold yieldBlock
      rw [hsil]
    rw [scan, hfst, Scanned.pure_bind, ih hoths]

/-- A group of frames that is too large is refused. -/
theorem scan_push_refused (parts : List (List (List Char))) (text : List Char)
    (hcut : parts.flatten = pre ++ group :: post)
    (hsil : ∀ block ∈ (blocks (text ++ pre.flatten)).1, Silent payloads block)
    (hlrg : maxDeepseekSseFrameBytes < units (blocks (text ++ pre.flatten)).2 + units group) :
    scan (push payloads) (blocks text).2 parts = .stop (.failed tooLarge) := by
  induction parts generalizing text pre with
  | nil =>
    have := List.append_ne_nil_of_right_ne_nil pre (List.cons_ne_nil group post)
    exact absurd hcut.symm this
  | cons part parts ih =>
    have hlat : ∀ others, pre = part ++ others → parts.flatten = others ++ group :: post →
        scan (push payloads) (blocks text).2 (part :: parts) = .stop (.failed tooLarge) := by
      rintro others rfl hrest
      rw [scan, push]
      split_ifs
      · rfl
      · rw [List.flatten_append, ← List.append_assoc] at hsil hlrg
        have hwhl := blocks_append (text ++ part.flatten) others.flatten
        have hstr := blocks_append text part.flatten
        rw [shift_bind, scan_silent, Scanned.pure_bind, ← congrArg Prod.snd hstr]
        · exact ih _ hrest hsil hlrg
        · intro block hmem
          refine hsil block ?_
          rw [hwhl, hstr]
          exact List.mem_append_left _ (List.mem_append_right _ hmem)
    rw [List.flatten_cons] at hcut
    rcases List.append_eq_append_iff.mp hcut with ⟨others, hwhl, hrest⟩ | ⟨others, hwhl, hrest⟩
    · exact hlat others hwhl hrest
    · rcases List.cons_eq_append_iff.mp hrest with ⟨rfl, hrest⟩ | ⟨others', rfl, -⟩
      · exact hlat [] (by rw [hwhl, List.append_nil, List.append_nil]) hrest.symm
      · have hbd := units_blocks_le ((blocks text).2 ++ pre.flatten)
        rw [← congrArg Prod.snd (blocks_append text pre.flatten)] at hbd
        have hexceeds : maxDeepseekSseFrameBytes < units ((blocks text).2 ++ part.flatten) := by
          rw [hwhl, List.flatten_append, List.flatten_cons]
          simp only [units_append] at hbd ⊢
          omega
        rw [scan, push, if_pos hexceeds]
        rfl

theorem parse_error (h : parseSseEventBlock payloads block = .error error) :
    error.kind ≠ .frameTooLarge := by
  unfold parseSseEventBlock at h
  dsimp only at h
  split at h
  · contradiction
  · contradiction
  · split_ifs at h
    split at h
    · cases h
      nofun
    · split at h <;> cases h
      nofun

theorem silent_of_refused
    (h : (scan (yieldBlock payloads) () texts).bind f = .stop (.failed tooLarge)) :
    ∀ block ∈ texts, Silent payloads block := by
  induction texts with
  | nil => exact fun _ => (List.not_mem_nil · |>.elim)
  | cons block texts ih =>
    rw [scan, Scanned.bind_assoc] at h
    unfold yieldBlock at h
    split at h
    · rename_i error hfail
      cases h
      exact absurd rfl (parse_error hfail)
    · rename_i hsil
      exact List.forall_mem_cons.mpr ⟨hsil, ih h⟩
    · cases h
    · cases congrArg Prod.fst h

/-- The condition under which a stream is refused without a frame, however it is cut. -/
def Refused (payloads : Payloads) (text : List Char) (groups : List (List Char)) : Prop :=
  ∃ pre group post, groups = pre ++ group :: post ∧
    (∀ block ∈ (blocks (text ++ pre.flatten)).1, Silent payloads block) ∧
    maxDeepseekSseFrameBytes < units (blocks (text ++ pre.flatten)).2 + units group

theorem refused_of_session (text : List Char)
    (hsil : ∀ block ∈ (blocks text).1, Silent payloads block)
    (h : session payloads (blocks text).2 (groups.map ([·])) = .stop (.failed tooLarge)) :
    Refused payloads text groups := by
  induction groups generalizing text with
  | nil =>
    have hkinds := congrArg Prod.snd h
    cases congrArg DeepSeekStreamError.kind (Ending.failed.inj (Except.error.inj hkinds))
  | cons group groups ih =>
    by_cases hlrg : maxDeepseekSseFrameBytes < units ((blocks text).2 ++ group)
    · rw [units_append] at hlrg
      refine ⟨[], group, groups, rfl, ?_, ?_⟩
      · rwa [List.flatten_nil, List.append_nil]
      · rwa [List.flatten_nil, List.append_nil]
    · have hfst : push payloads (blocks text).2 [group] = shift payloads
        ((blocks text).2 ++ group) := by
        rw [push, List.flatten_singleton, if_neg hlrg]
      have hstr := blocks_append text group
      unfold session at h
      rw [List.map_cons, scan, hfst, Scanned.bind_assoc, shift_bind] at h
      have hmore := silent_of_refused h
      rw [scan_silent hmore, Scanned.pure_bind, ← congrArg Prod.snd hstr] at h
      have hsil' : ∀ block ∈ (blocks (text ++ group)).1, Silent payloads block := by
        rw [hstr]
        exact fun block hmem => (List.mem_append.mp hmem).elim (hsil block) (hmore block)
      obtain ⟨pre, group', post, rfl, hsil'', hlrg'⟩ := ih _ hsil' h
      refine ⟨group :: pre, group', post, rfl, ?_, ?_⟩
      · rwa [List.flatten_cons, ← List.append_assoc]
      · rwa [List.flatten_cons, ← List.append_assoc]

end

/-! ### Chunks -/

namespace TextDecoder

variable (decoder : TextDecoder) (before : List Byte)

theorem groups_append (a b : List Byte) :
    decoder.groups before (a ++ b) = decoder.groups before a ++ decoder.groups (before ++ a) b := by
  induction a generalizing before with
  | nil => rw [List.append_nil]; rfl
  | cons _ _ ih =>
    refine congrArg _ ((ih _).trans ?_)
    rw [List.append_assoc]
    rfl

/-- What is decoded does not depend on how the bytes are cut. -/
theorem decode_flatten (chunks : List (List Byte)) :
    ∃ parts, decoder.decode before chunks = parts ++ [[decoder.flush (before ++ chunks.flatten)]] ∧
      parts.flatten = decoder.groups before chunks.flatten := by
  induction chunks generalizing before with
  | nil => exact ⟨[], by rw [List.flatten_nil, List.append_nil]; rfl, rfl⟩
  | cons chunk _ ih =>
    obtain ⟨parts, hdecoded, hwhl⟩ := ih (before ++ chunk)
    refine ⟨decoder.groups before chunk :: parts, ?_, ?_⟩
    · rw [decode, hdecoded, List.append_assoc]
      rfl
    · rw [List.flatten_cons, List.flatten_cons, groups_append, hwhl]

theorem decode_singletons (bytes : List Byte) : decoder.decode before (bytes.map ([·])) =
      (decoder.groups before bytes ++ [decoder.flush (before ++ bytes)]).map ([·]) := by
  induction bytes generalizing before with
  | nil => rw [List.append_nil]; rfl
  | cons _ _ ih =>
    refine congrArg _ ((ih _).trans ?_)
    rw [List.append_assoc]
    rfl

end TextDecoder

/-- The frames of a stream, and how it ends, do not depend on how its bytes are cut if and only if
the text is within the bound, or a stretch without a boundary exceeds it and there is no frame
before. -/
theorem chunks_agree_iff (decoder : TextDecoder) (payloads : Payloads) (bytes : List Byte) :
    (∀ chunks chunks' : List (List Byte), chunks.flatten = bytes → chunks'.flatten = bytes →
      iterateDeepSeekChatCompletionStream decoder payloads chunks =
        iterateDeepSeekChatCompletionStream decoder payloads chunks') ↔
      units (decoder.groups [] bytes).flatten ≤ maxDeepseekSseFrameBytes ∨
        Refused payloads [] (decoder.groups [] bytes ++ [decoder.flush bytes]) := by
  constructor
  · intro hagr
    by_contra! hlrg
    have hwhl := hagr [bytes] (bytes.map ([·])) (by simp) (by simp [← List.flatMap_def])
    refine hlrg.2 (refused_of_session [] (by simp [blocks_nil]) ?_)
    rw [blocks_nil]
    refine (congrArg (session payloads []) (decoder.decode_singletons [] bytes)).symm.trans
      (hwhl.symm.trans ?_)
    show session payloads [] (_ :: _) = _
    rw [session, scan, push]
    split_ifs with hexceeds
    · rfl
    · exact absurd hlrg.1 hexceeds
  · rintro hcondition chunks chunks' rfl heq
    have hval : ∀ cut_ : List (List Byte), cut_.flatten = chunks.flatten →
        iterateDeepSeekChatCompletionStream decoder payloads cut_ =
          if units (decoder.groups [] chunks.flatten).flatten ≤ maxDeepseekSseFrameBytes then
            (shift payloads (decoder.groups [] chunks.flatten).flatten).bind fun rest =>
              session payloads rest [[decoder.flush chunks.flatten]]
          else .stop (.failed tooLarge) := by
      intro cut_ heq
      obtain ⟨parts, htext, hwhl⟩ := decoder.decode_flatten [] cut_
      rw [heq, List.nil_append] at htext
      rw [heq] at hwhl
      rw [← hwhl] at hcondition ⊢
      rw [iterateDeepSeekChatCompletionStream, htext]
      split_ifs with hsml
      · have hfst : (shift payloads []).bind _ = _ := scan_push parts [] hsml
        rw [shift_bind, blocks_nil, List.nil_append] at hfst
        rw [session, scan_append, ← hfst, Scanned.bind_assoc, Scanned.bind_assoc]
        rfl
      · obtain ⟨pre, group, post, hgrp, hsil, hexceeds⟩ := hcondition.resolve_left hsml
        have hstops := scan_push_refused (parts ++ [[_]]) []
          (by rw [List.flatten_append, ← hgrp]; rfl) hsil
          hexceeds
        rw [blocks_nil] at hstops
        rw [session, hstops]
        rfl
    rw [hval chunks rfl, hval chunks' heq]

/-- `TextDecoder` on ASCII bytes. -/
def ascii : TextDecoder := ⟨fun _ byte => [Char.ofNat byte], fun _ => []⟩

theorem length_le_units (text : List Char) : text.length ≤ units text := by
  unfold units
  rw [List.length_flatMap, ← List.length_map (f := fun c => (Utf16.ofChar c).length)]
  refine List.length_le_sum_of_one_le _ fun n hmem => ?_
  obtain ⟨c, -, rfl⟩ := List.mem_map.mp hmem
  exact List.length_pos_of_ne_nil (Utf16.ofChar_ne_nil c)

theorem ascii_length (before bytes : List Byte) :
    (ascii.groups before bytes).flatten.length = bytes.length := by
  induction bytes generalizing before with
  | nil => rfl
  | cons _ _ ih => exact congrArg (· + 1) (ih _)

theorem comment_alone (payloads : Payloads) (long : List Byte)
    (h : maxDeepseekSseFrameBytes < 3 + long.length) :
    iterateDeepSeekChatCompletionStream ascii payloads [[58, 10, 10], long] ≠
      iterateDeepSeekChatCompletionStream ascii payloads [[58, 10, 10] ++ long] := by
  have hexceeds : maxDeepseekSseFrameBytes < units
    (ascii.groups [] ([58, 10, 10] ++ long)).flatten := by
    refine lt_of_lt_of_le ?_ (length_le_units _)
    rw [ascii_length, List.length_append]
    exact h
  have href : push payloads [] (ascii.groups [] ([58, 10, 10] ++ long)) = .stop
    (.failed tooLarge) :=
    if_pos hexceeds
  have hcomment : push payloads [] (ascii.groups [] [58, 10, 10]) = ([.comment ":"], .ok []) := by
    show shift _ [':', '\n', '\n'] = _
    rw [shift, blocks_of_cut (show cut _ = some ([':'], []) from rfl), blocks_nil]
    rfl
  intro heq
  have hfrms := congrArg Prod.fst heq
  change (((push payloads [] (ascii.groups [] [58, 10, 10])).bind _).bind _).1 =
    (((push payloads [] (ascii.groups [] (_ ++ long))).bind _).bind _).1 at hfrms
  rw [href, Scanned.bind_assoc, hcomment, Scanned.bind_ok] at hfrms
  cases hfrms

/-- A comment and a comment of four mebibytes are read one after the other but refused together. -/
theorem chunks_agree_comments :
    ¬ ∀ (decoder : TextDecoder) (payloads : Payloads) (chunks chunks' : List (List Byte)),
      chunks.flatten = chunks'.flatten →
        iterateDeepSeekChatCompletionStream decoder payloads chunks =
          iterateDeepSeekChatCompletionStream decoder payloads chunks' := by
  intro hagr
  refine comment_alone ⟨fun _ => none, .ok⟩ (58 :: List.replicate 4194301 97 ++ [10, 10]) ?_
    (hagr _ _ _ _ ?_)
  · rw [List.length_append, List.length_cons, List.length_replicate]
    decide
  · rw [List.flatten_cons, List.flatten_singleton, List.flatten_singleton]

end UbqGateway.DeepSeek.FrameReader
