import UbqGateway.Responses.ResponsesStream

/-!
# The reader does not see how its bytes are cut

The framer looks at one byte after the other, but it buffers bytes only at a boundary and at the end
of a chunk.  `byteStep` is the reader that buffers every byte at once, and reading a chunk is
scanning its bytes with it (`takeEvents_eq_scan`).  What is read is then a scan of all bytes of the
stream, however they were cut.
-/

namespace UbqGateway.Responses

variable (decode : List Byte → String) (parse : String → Option Json) {segment : List Byte}

/-! ### One byte -/

namespace SseEventFramer

/-- Whether a framer has the bytes of a segment in its buffer that another one has still to
append. -/
structure Ahead (framer : SseEventFramer) (segment : List Byte) (ahead : SseEventFramer) :
    Prop where
  buffer : ahead.buffer = framer.buffer ++ segment
  third : ahead.thirdPreviousByte = framer.thirdPreviousByte
  second : ahead.secondPreviousByte = framer.secondPreviousByte
  previous : ahead.previousByte = framer.previousByte

theorem Ahead.refl (framer : SseEventFramer) : Ahead framer [] framer :=
  ⟨(List.append_nil _).symm, rfl, rfl, rfl⟩

theorem Ahead.eq (h : Ahead framer [] ahead) : ahead = framer := by
  obtain ⟨hbuffer, hthd, hsnd, hprev⟩ := h
  cases framer
  cases ahead
  simp only [List.append_nil] at hbuffer hthd hsnd hprev
  subst hbuffer hthd hsnd hprev
  rfl

section

variable (h : Ahead framer segment ahead)

include h

theorem Ahead.length : framer.buffer.length + segment.length = ahead.buffer.length := by
  rw [h.buffer, List.length_append]

theorem Ahead.isBoundary (byte : Byte) : ahead.isBoundary byte = framer.isBoundary byte := by
  unfold SseEventFramer.isBoundary
  rw [h.third, h.second, h.previous]

theorem Ahead.append : framer.append segment = .ok ahead := by
  have hsize : framer.buffer.length + segment.length ≤ maxResponsesSseEventBytes := by
    rw [h.length]
    exact ahead.bounded
  obtain ⟨hbuffer, hthd, hsnd, hprev⟩ := h
  unfold SseEventFramer.append
  rw [dif_pos hsize]
  cases framer
  cases ahead
  simp only at hbuffer hthd hsnd hprev
  subst hbuffer hthd hsnd hprev
  rfl

end

/-- A byte that ends no block goes to the buffer. -/
def absorb (framer : SseEventFramer) (byte : Byte)
    (h : framer.buffer.length + 1 ≤ maxResponsesSseEventBytes) : SseEventFramer where
  buffer := framer.buffer ++ [byte]
  thirdPreviousByte := framer.secondPreviousByte
  secondPreviousByte := framer.previousByte
  previousByte := some byte
  bounded := by
    rw [List.length_append]
    exact h

theorem Ahead.absorb (h : Ahead framer segment ahead) (byte : Byte)
    (hsize : ahead.buffer.length + 1 ≤ maxResponsesSseEventBytes) :
    Ahead (framer.advanceBoundaryState byte) (segment ++ [byte]) (ahead.absorb byte hsize) where
  buffer := by
    show ahead.buffer ++ [byte] = framer.buffer ++ (segment ++ [byte])
    rw [h.buffer, List.append_assoc]
  third := h.second
  second := h.previous
  previous := rfl

end SseEventFramer

open SseEventFramer

def byteStep (framer : SseEventFramer) (byte : Byte) :
    Scanned ResponsesStreamEvent Ending SseEventFramer :=
  if h : framer.buffer.length + 1 ≤ maxResponsesSseEventBytes then
    if framer.isBoundary byte = true then
      yieldBlock parse (decode (framer.buffer ++ [byte])) fresh
    else .pure (framer.absorb byte h)
  else .stop (.failed oversized)

/-! ### A chunk -/

theorem yieldBlock_bind (block : String) (s : σ) (f : σ → Scanned ResponsesStreamEvent Ending τ) :
    (yieldBlock parse block s).bind f = (yieldBlock parse block ()).bind fun _ => f s := by
  unfold yieldBlock
  cases parseEventBlock parse block with
  | error error => rfl
  | ok event =>
    cases event with
    | none => rfl
    | some event =>
      simp only [yieldEvent]
      by_cases hterm : event.terminal = true
      · rw [if_pos hterm, if_pos hterm]
        rfl
      · rw [if_neg hterm, if_neg hterm]
        rfl

/-- The events of blocks, and how their framer goes on. -/
def eventsOf (x : Scanned String ResponsesStreamError SseEventFramer) :
    Scanned ResponsesStreamEvent Ending SseEventFramer :=
  (scan (fun (_ : Unit) block => yieldBlock parse block ()) () x.1).bind fun _ =>
    ([], x.2.mapError .failed)

theorem eventsOf_block (block : String) (x : Scanned String ResponsesStreamError SseEventFramer) :
    eventsOf parse (block :: x.1, x.2) =
      (yieldBlock parse block ()).bind fun _ => eventsOf parse x := by
  unfold eventsOf
  rw [scan, Scanned.bind_assoc]

/-- The reader's loop does what the scan of single bytes does. -/
theorem framesLoop_eq_scan (rest : List Byte) (h : Ahead framer segment ahead) :
    eventsOf parse (framesLoop decode framer segment rest) =
      scan (byteStep decode parse) ahead rest := by
  induction rest generalizing framer segment ahead with
  | nil =>
    rw [framesLoop, scan]
    by_cases hemp : segment = []
    · subst hemp
      rw [if_pos rfl, h.eq]
      rfl
    · rw [if_neg hemp, h.append]
      rfl
  | cons byte rest ih =>
    have hsize : framer.buffer.length + (segment.length + 1) = ahead.buffer.length + 1 := by
      have := h.length
      omega
    rw [framesLoop, scan, byteStep, hsize]
    by_cases hfit : ahead.buffer.length + 1 ≤ maxResponsesSseEventBytes
    · rw [if_neg (Nat.not_lt.mpr hfit), dif_pos hfit, h.isBoundary]
      by_cases hboundary : framer.isBoundary byte = true
      · -- The block is complete: both go on with a framer without bytes.
        have htkn : framer.append (segment ++ [byte]) =
            .ok { framer with
              buffer := ahead.buffer ++ [byte]
              bounded := by rw [List.length_append]; exact hfit } := by
          unfold SseEventFramer.append
          rw [dif_pos (by rw [List.length_append, List.length_singleton]; omega)]
          simp only [h.buffer, List.append_assoc]
        rw [if_pos hboundary, if_pos hboundary, htkn, yieldBlock_bind]
        show eventsOf parse (_ :: (framesLoop decode fresh [] rest).1, _) = _
        rw [eventsOf_block, ih (Ahead.refl fresh)]
      · rw [if_neg hboundary, if_neg hboundary, Scanned.pure_bind]
        exact ih (h.absorb byte hfit)
    · rw [if_pos (Nat.not_le.mp hfit), dif_neg hfit]
      rfl

theorem takeEvents_eq_scan (framer : SseEventFramer) (chunk : List Byte) :
    takeEvents decode parse framer chunk = scan (byteStep decode parse) framer chunk :=
  framesLoop_eq_scan decode parse chunk (Ahead.refl framer)

/-! ### A stream -/

theorem scan_takeEvents (chunks : List (List Byte)) : scan (takeEvents decode parse) fresh chunks =
      scan (byteStep decode parse) fresh chunks.flatten := by
  rw [← scan_flatten]
  congr 1
  funext framer chunk
  exact takeEvents_eq_scan decode parse framer chunk

/-- Two ways to cut the same bytes give the same events, and the same end. -/
theorem readResponsesStream_cut (chunks chunks' : List (List Byte))
    (h : chunks.flatten = chunks'.flatten) :
    readResponsesStream decode parse chunks = readResponsesStream decode parse chunks' := by
  unfold readResponsesStream
  rw [scan_takeEvents, scan_takeEvents, h]

/-- A separator that is cut between its bytes. -/
theorem readResponsesStream_cut_separator :
    [[13, 10, 13], [], [10, 58]].flatten = [[13, 10], [13, 10, (58 : Byte)]].flatten ∧
      readResponsesStream (fun _ => ":") (fun _ => none) [[13, 10, 13], [], [10, 58]] =
        readResponsesStream (fun _ => ":") (fun _ => none) [[13, 10], [13, 10, 58]] :=
  ⟨rfl, readResponsesStream_cut (fun _ => ":") (fun _ => none) [[13, 10, 13], [], [10, 58]]
    [[13, 10], [13, 10, 58]] rfl⟩

end UbqGateway.Responses
