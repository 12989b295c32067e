import UbqGateway.Embeddings.Jobs
import UbqGateway.Library.Schedule
import UbqGateway.Library.Json

/-!
# The budget of the embeddings provider

`tryReserveVoyageBudget` (`embeddings/voyage.ts`) counts the requests of a minute and their tokens
in one stored row, which every worker reads and replaces by a checked transaction.  The row counts
what was granted in its window (`WindowExact`), whatever the workers do, and `chunkByTokenBudget`
cuts inputs that `measureEmbeddingsInputs` accepted into chunks that a new window has room for.
-/

namespace UbqGateway.Embeddings

/-! ### Inputs -/

/-- `text.length`, in UTF-16 code units. -/
def textLength (text : String) : ℕ :=
  (text.toList.map fun c => if c.toNat < 0x10000 then 1 else 2).sum

/-- The loop of `measureEmbeddingsInputs`, from the characters so far. -/
def measureTexts : ℕ → List String → Except String ℕ
  | totalChars, [] => .ok totalChars
  | totalChars, text :: texts =>
    if 20000 < textLength text then
      .error ("Input too large: " ++ toString (textLength text) ++ " chars (max 20000)")
    else if 100000 < totalChars + textLength text then
      .error ("Request too large: " ++ toString (totalChars + textLength text) ++
        " chars total (max 100000)")
    else if voyageRateLimitTpm < estimateTokens text then
      .error ("Input too large for embeddings provider: ~" ++ toString (estimateTokens text) ++
        " tokens (max 10000).")
    else measureTexts (totalChars + textLength text) texts

/-- The characters of the inputs, or the message of a 400 about `input`. -/
def measureEmbeddingsInputs (inputs : List String) : Except String ℕ :=
  if inputs = [] then .error "input must be a non-empty string or a non-empty array"
  else if maxInputsPerRequest < inputs.length then
    .error ("Too many inputs: " ++ toString inputs.length ++ " (max 128)")
  else measureTexts 0 inputs

def estimateTokenCount (texts : List String) : ℕ := (texts.map estimateTokens).sum

/-! ### The rate limit -/

def voyageRateLimitRpm : ℕ := 3

structure VoyageRateLimitState where
  windowStartMs : ℤ
  requests : ℤ
  tokens : ℤ

def VoyageRateLimitState.toJson (state : VoyageRateLimitState) : Json :=
  .obj [("window_start_ms", .int state.windowStartMs), ("requests", .int state.requests),
    ("tokens", .int state.tokens)]

/-- `Math.trunc` of a property that is a finite number. -/
def truncated? (value : Option Json) : Option ℤ :=
  (Json.number? value).map fun q => q.num.tdiv q.den

def normalizeVoyageRateLimitState (value : Json) : Option VoyageRateLimitState := do
  let windowStartMs ← truncated? (value.get "window_start_ms")
  let requests ← truncated? (value.get "requests")
  let tokens ← truncated? (value.get "tokens")
  if windowStartMs < 0 ∨ requests < 0 ∨ tokens < 0 then none
  else some ⟨windowStartMs, requests, tokens⟩

def wouldExceedVoyageRateLimit (limit wouldBeUsed : ℤ) : Bool :=
  decide (0 < limit ∧ limit < wouldBeUsed)

/-- Whether a window has no room for a request of so many tokens. -/
def exceeds (state : VoyageRateLimitState) (tokens : ℕ) : Bool :=
  wouldExceedVoyageRateLimit voyageRateLimitRpm (state.requests + 1) ||
    wouldExceedVoyageRateLimit voyageRateLimitTpm (state.tokens + tokens)

inductive BudgetReply
  | ok
  | wait (waitMs : ℤ)
deriving DecidableEq

/-- What a commit grants: tokens in a window. -/
structure Reservation where
  windowStartMs : ℤ
  tokens : ℕ

/-- The window at a time, from what is stored. -/
def windowAt (now : ℤ) : Option VoyageRateLimitState → VoyageRateLimitState
  | none => ⟨now, 0, 0⟩
  | some current => if 60000 ≤ now - current.windowStartMs then ⟨now, 0, 0⟩ else current

/-- The window with one more request in it. -/
def counted (state : VoyageRateLimitState) (tokens : ℕ) : VoyageRateLimitState :=
  { state with requests := state.requests + 1, tokens := state.tokens + tokens }

/-- `tryReserveVoyageBudget`; the store has the one key that it uses. -/
def tryReserveVoyageBudget (tokens : ℕ) : Prog Unit Json Reservation BudgetReply := do
  let now ← Prog.clock
  let entry ← Prog.get ()
  let state := windowAt now (entry.bind fun entry => normalizeVoyageRateLimitState entry.value)
  if exceeds state tokens then return .wait (max 0 (60000 - (now - state.windowStartMs)))
  if ← Prog.transaction ⟨state.windowStartMs, tokens⟩ [⟨(), entry⟩]
      [.set () (counted state tokens).toJson] then
    return .ok
  return .wait 0

abbrev BudgetWorld := World Unit Json Reservation

def storedWindow (kv : Kv Unit Json) : Option VoyageRateLimitState :=
  (kv.get ()).bind fun entry => normalizeVoyageRateLimitState entry.value

def granted (events : List (Event Unit Json Reservation)) (windowStartMs : ℤ) : List ℕ :=
  (events.filter fun e => e.label.windowStartMs = windowStartMs).map fun e => e.label.tokens

/-! ### What a commit does -/

theorem normalize_toJson (hstr : 0 ≤ state.windowStartMs) (hrequests : 0 ≤ state.requests)
    (htoks : 0 ≤ state.tokens) : normalizeVoyageRateLimitState state.toJson = some state := by
  have hwhl (n : ℤ) : truncated? (some (.int n)) = some n := congrArg some (Int.tdiv_one n)
  have hget_start : state.toJson.get "window_start_ms" = some (.int state.windowStartMs) := rfl
  have hget_requests : state.toJson.get "requests" = some (.int state.requests) := rfl
  have hget_tokens : state.toJson.get "tokens" = some (.int state.tokens) := rfl
  unfold normalizeVoyageRateLimitState
  rw [hget_start, hget_requests, hget_tokens, hwhl, hwhl, hwhl]
  exact if_neg (by omega)

theorem nonneg_of_storedWindow (h : storedWindow kv = some state) :
    0 ≤ state.windowStartMs ∧ 0 ≤ state.requests ∧ 0 ≤ state.tokens := by
  obtain ⟨entry, -, hread⟩ := Option.bind_eq_some_iff.mp h
  obtain ⟨start, -, hread⟩ := Option.bind_eq_some_iff.mp hread
  obtain ⟨requests, -, hread⟩ := Option.bind_eq_some_iff.mp hread
  obtain ⟨tokens, -, hread⟩ := Option.bind_eq_some_iff.mp hread
  split_ifs at hread with hneg
  cases hread
  simp only
  omega

/-- A commit counts one more request in the stored window, or in a later one that is empty. -/
structure Grants (w : BudgetWorld) (label : Reservation) (writes : List (Write Unit Json)) :
    Prop where
  made : ∃ state : VoyageRateLimitState, label.windowStartMs = state.windowStartMs ∧
    (storedWindow w.store = some state ∨ 0 ≤ state.windowStartMs ∧ state.requests = 0 ∧
      state.tokens = 0 ∧ ∀ old ∈ storedWindow w.store, old.windowStartMs < state.windowStartMs) ∧
    exceeds state label.tokens = false ∧ writes = [.set () (counted state label.tokens).toJson]

/-- A reservation commits grants only. -/
theorem tryReserveVoyageBudget_wp (hclk : ∀ time now, clockOk time now → 0 ≤ now) (tokens : ℕ)
    (w : BudgetWorld) :
    Wp clockOk I Grants (fun _ _ => True) (tryReserveVoyageBudget tokens) w := by
  refine Wp.clock_bind fun v _ _ now hsh => Wp.get_bind fun u _ _ entry hread => ?_
  dsimp only
  split
  · trivial
  next hroom =>
  refine Wp.transaction_bind (fun x hlat hrun hpss =>
    ⟨⟨_, rfl, ?_, ?_, rfl⟩, trivial⟩) fun _ _ _ =>
    trivial
  · -- the transaction passes, so the entry that was read is still stored
    have heq : x.store.get () = entry := hread.get_eq hlat hrun (hpss _ List.mem_cons_self)
    have hst : storedWindow x.store =
        entry.bind fun entry => normalizeVoyageRateLimitState entry.value := by
      unfold storedWindow
      rw [heq]
    rw [← hst]
    cases hcur : storedWindow x.store with
    | none => exact .inr ⟨hclk _ _ hsh, rfl, rfl, nofun⟩
    | some old =>
      unfold windowAt
      dsimp only
      split
      · next hpast =>
        refine .inr ⟨hclk _ _ hsh, rfl, rfl, ?_⟩
        rintro _ ⟨⟩
        show old.windowStartMs < now
        omega
      · exact .inl rfl
  · exact Bool.eq_false_iff.mpr hroom

/-! ### Runs -/

/-- The stored window counts what was granted in it, within the limits, and no later one was
granted. -/
structure WindowExact (events : List (Event Unit Json Reservation))
    (window : VoyageRateLimitState) :
    Prop where
  requests : window.requests = (granted events window.windowStartMs).length
  tokens : window.tokens = (granted events window.windowStartMs).sum
  requests_le : window.requests ≤ voyageRateLimitRpm
  tokens_le : window.tokens ≤ voyageRateLimitTpm
  latest : ∀ e ∈ events, e.label.windowStartMs ≤ window.windowStartMs

/-- The stored window is exact; without one nothing was granted. -/
def BudgetExact (w : BudgetWorld) : Prop :=
  match storedWindow w.store with
  | none => w.events = []
  | some window => WindowExact w.events window

/-- **The step**: a grant keeps the sums. -/
theorem BudgetExact.commit (h : BudgetExact w) (hgrants : Grants w label writes) :
    BudgetExact (w.commit label writes) := by
  obtain ⟨state, hstr, hfrom, hroom, rfl⟩ := hgrants
  -- before the commit the window of the reservation holds what was granted in it
  have hbef : 0 ≤ state.windowStartMs ∧ 0 ≤ state.requests ∧ 0 ≤ state.tokens ∧
      state.requests = (granted w.events state.windowStartMs).length ∧
      state.tokens = (granted w.events state.windowStartMs).sum ∧
      ∀ e ∈ w.events, e.label.windowStartMs ≤ state.windowStartMs := by
    unfold BudgetExact at h
    rcases hfrom with hst | ⟨hnn, hrequests, htoks, hlat⟩
    · rw [hst] at h
      obtain ⟨hnn, hnn', hnn''⟩ := nonneg_of_storedWindow hst
      exact ⟨hnn, hnn', hnn'', h.requests, h.tokens, h.latest⟩
    · have herl : ∀ e ∈ w.events, e.label.windowStartMs < state.windowStartMs := by
        intro e hmem
        cases hst : storedWindow w.store with
        | none =>
          rw [hst] at h
          rw [show w.events = [] from h] at hmem
          cases hmem
        | some old =>
          rw [hst] at h
          exact (h.latest e hmem).trans_lt (hlat old hst)
      have hnone_granted : granted w.events state.windowStartMs = [] := by
        unfold granted
        rw [List.filter_eq_nil_iff.mpr fun e hmem => by simp [(herl e hmem).ne], List.map_nil]
      rw [hnone_granted, hrequests, htoks]
      exact ⟨hnn, le_rfl, le_rfl, rfl, rfl, fun e hmem => (herl e hmem).le⟩
  obtain ⟨hnn, hnn', hnn'', hrequests, htoks, hlst⟩ := hbef
  have hst : storedWindow (w.store.apply [.set () (counted state label.tokens).toJson]) =
      some (counted state label.tokens) := by
    unfold storedWindow
    rw [Kv.get_apply]
    exact normalize_toJson hnn (Int.add_nonneg hnn' Int.one_nonneg)
      (Int.add_nonneg hnn'' (Int.natCast_nonneg _))
  have hmore (writes : List (Write Unit Json)) :
      granted (w.commit label writes).events state.windowStartMs =
        label.tokens :: granted w.events state.windowStartMs := by
    unfold granted World.commit
    rw [List.filter_cons_of_pos (by simp [hstr])]
    rfl
  unfold exceeds wouldExceedVoyageRateLimit voyageRateLimitRpm voyageRateLimitTpm at hroom
  simp only [Bool.or_eq_false_iff, decide_eq_false_iff_not] at hroom
  unfold BudgetExact
  rw [World.store_commit, hst]
  unfold counted
  refine ⟨?_, ?_, ?_, ?_, List.forall_mem_cons.mpr ⟨hstr.le, hlst⟩⟩
  · rw [hmore, List.length_cons, hrequests]
    rfl
  · rw [hmore, List.sum_cons, htoks]
    dsimp only
    omega
  · unfold voyageRateLimitRpm
    dsimp only
    omega
  · unfold voyageRateLimitTpm
    dsimp only
    omega

/-! ### Chunks -/

namespace Chunking

/-- A chunk is not empty, and within the limits. -/
structure Fits (itemLimit tokenLimit : ℕ) (chunk : List InputItem) : Prop where
  nonempty : chunk ≠ []
  items : chunk.length ≤ itemLimit
  tokens : estimateTokenCount (chunk.map InputItem.text) ≤ tokenLimit

/-- The chunks so far, of the items so far. -/
structure Cuts (itemLimit tokenLimit : ℕ) (c : Chunking) (items : List InputItem) : Prop where
  flatten : c.out.flatten ++ c.current = items
  out : ∀ chunk ∈ c.out, Fits itemLimit tokenLimit chunk
  current : c.current = [] ∨ Fits itemLimit tokenLimit c.current
  tokens : c.currentTokens = estimateTokenCount (c.current.map InputItem.text)

theorem Cuts.push (h : Cuts itemLimit tokenLimit c items) (hpos : 0 < itemLimit) (item : InputItem)
    (hsml : estimateTokens item.text ≤ tokenLimit) :
    Cuts itemLimit tokenLimit (c.push itemLimit tokenLimit item) (items ++ [item]) := by
  have hone : Fits itemLimit tokenLimit [item] := ⟨nofun, hpos, hsml⟩
  unfold Chunking.push
  split
  · next hfull =>
    have hfilled : c.current ≠ [] := List.ne_nil_of_length_pos (by omega)
    refine ⟨?_, List.forall_mem_append.mpr ⟨h.out, ?_⟩, .inr hone, rfl⟩
    · rw [← h.flatten, List.flatten_append, List.flatten_singleton]
    · exact List.forall_mem_singleton.mpr (h.current.resolve_left hfilled)
  · next hroom =>
    have htoks : c.currentTokens + estimateTokens item.text =
        estimateTokenCount ((c.current ++ [item]).map InputItem.text) := by
      simp [estimateTokenCount, h.tokens]
    refine ⟨by rw [← h.flatten, List.append_assoc], h.out, .inr ?_, htoks⟩
    rcases h.current with hemp | hfit
    · rw [hemp]
      exact hone
    · have hfilled := List.length_pos_iff.mpr hfit.nonempty
      refine ⟨List.append_ne_nil_of_right_ne_nil _ nofun, ?_, ?_⟩
      · rw [List.length_append, List.length_singleton]
        omega
      · rw [← htoks]
        omega

theorem Cuts.run (h : Cuts itemLimit tokenLimit c items) (hpos : 0 < itemLimit)
    (rest : List InputItem)
    (hsml : ∀ item ∈ rest, estimateTokens item.text ≤ tokenLimit) :
    Cuts itemLimit tokenLimit (rest.foldl (Chunking.push itemLimit tokenLimit) c)
      (items ++ rest) := by
  induction rest generalizing c items with
  | nil =>
    rw [List.append_nil]
    exact h
  | cons item _ ih =>
    obtain ⟨here, hlat⟩ := List.forall_mem_cons.mp hsml
    rw [List.append_cons]
    exact ih (h.push hpos item here) hlat

end Chunking

theorem small_of_measureTexts (h : measureTexts chars texts = .ok total) :
    ∀ text ∈ texts, estimateTokens text ≤ voyageRateLimitTpm := by
  induction texts generalizing chars with
  | nil => nofun
  | cons _ _ ih =>
    unfold measureTexts at h
    split_ifs at h with _ _ hlrg
    exact List.forall_mem_cons.mpr ⟨not_lt.mp hlrg, ih h⟩

theorem chunkByTokenBudget_fits (maxItems : ℕ)
    (hsml : ∀ item ∈ items, estimateTokens item.text ≤ voyageRateLimitTpm) :
    (chunkByTokenBudget items maxItems voyageRateLimitTpm).flatten = items ∧
      ∀ chunk ∈ chunkByTokenBudget items maxItems voyageRateLimitTpm,
        Chunking.Fits (max 1 maxItems) voyageRateLimitTpm chunk := by
  have hnone_cut : Chunking.Cuts (max 1 maxItems) voyageRateLimitTpm ⟨[], [], 0⟩ [] :=
    ⟨rfl, nofun, .inl rfl, rfl⟩
  have hcuts := hnone_cut.run (Nat.le_max_left 1 maxItems) items hsml
  have hlmt : max 1 voyageRateLimitTpm = voyageRateLimitTpm := rfl
  unfold chunkByTokenBudget
  rw [hlmt]
  dsimp only
  split
  · next hemp =>
    refine ⟨?_, hcuts.out⟩
    have hflat := hcuts.flatten
    rwa [hemp, List.append_nil] at hflat
  · next hfilled =>
    refine ⟨?_, List.forall_mem_append.mpr ⟨hcuts.out, ?_⟩⟩
    · rw [List.flatten_append, List.flatten_singleton]
      exact hcuts.flatten
    · exact List.forall_mem_singleton.mpr (hcuts.current.resolve_left hfilled)

/-- **The budget**: whatever the workers do, the stored window counts what was granted in it, within
both limits, and accepted inputs are cut into chunks that a new window has room for. -/
theorem voyage_budget {clockOk : ℤ → ℤ → Prop} (hclk : ∀ time now, clockOk time now → 0 ≤ now)
    (hnone_stored : storedWindow kv = none) {s : System Unit Json Reservation BudgetReply}
    (hs : Reachable clockOk (Set.range tryReserveVoyageBudget) kv s) :
    (∀ window, storedWindow s.world.store = some window →
      window.requests ≤ voyageRateLimitRpm ∧ window.tokens ≤ voyageRateLimitTpm ∧
      window.requests = (granted s.world.events window.windowStartMs).length ∧
      window.tokens = (granted s.world.events window.windowStartMs).sum) ∧
    ∀ (items : List InputItem) (maxItems total : ℕ),
      measureEmbeddingsInputs (items.map InputItem.text) = .ok total →
      (chunkByTokenBudget items maxItems voyageRateLimitTpm).flatten = items ∧
      ∀ chunk ∈ chunkByTokenBudget items maxItems voyageRateLimitTpm,
        Chunking.Fits (max 1 maxItems) voyageRateLimitTpm chunk ∧
        ∀ now, exceeds ⟨now, 0, 0⟩ (estimateTokenCount (chunk.map InputItem.text)) = false := by
  constructor
  · have hrun : Run (storedWindow · = none) Grants s.world := by
      refine hs.run hnone_stored ?_
      rintro _ ⟨tokens, rfl⟩ w -
      exact tryReserveVoyageBudget_wp hclk tokens w
    have hexc : BudgetExact s.world := by
      refine Run.invariant (P := BudgetExact) ?_ (fun _ _ h _ => h) (fun _ _ _ _ h => h.commit) hrun
      intro kv t hst
      unfold BudgetExact
      rw [show storedWindow (World.mk kv [] t : BudgetWorld).store = none from hst]
    intro window hst
    unfold BudgetExact at hexc
    rw [hst] at hexc
    exact ⟨hexc.requests_le, hexc.tokens_le, hexc.requests, hexc.tokens⟩
  · intro items maxItems total hmeasured
    unfold measureEmbeddingsInputs at hmeasured
    split_ifs at hmeasured
    obtain ⟨hflatten, hfit⟩ := chunkByTokenBudget_fits maxItems fun item hmem =>
      small_of_measureTexts hmeasured _ (List.mem_map_of_mem hmem)
    refine ⟨hflatten, fun chunk hmem => ⟨hfit chunk hmem, fun now => ?_⟩⟩
    have htoks := (hfit chunk hmem).tokens
    unfold exceeds wouldExceedVoyageRateLimit voyageRateLimitRpm
    simp only [Bool.or_eq_false_iff, decide_eq_false_iff_not]
    omega

/-- Four workers: the second one reads what the first one replaces, the fourth one finds no room. -/
def budgetSystem : System Unit Json Reservation BudgetReply :=
  System.runAll tryReserveVoyageBudget ⟨⟨Kv.empty, [], 0⟩, []⟩
    [.spawn 6000, .spawn 3000, .act 0 2, .act 1 3, .act 0 1, .spawn 4000, .act 0 3, .spawn 2000,
      .act 0 2]

def threeInputs : List InputItem := [⟨"1", "a"⟩, ⟨"2", "b"⟩, ⟨"3", "c"⟩]

theorem voyage_budget_workers :
    (budgetSystem.clients.map Client.ended =
      [some (.wait 60000), some .ok, some (.wait 0), some .ok] ∧
      (∃ window, storedWindow budgetSystem.world.store = some window ∧ window.tokens = 10000 ∧
        window.requests = (granted budgetSystem.world.events window.windowStartMs).length ∧
        window.tokens = (granted budgetSystem.world.events window.windowStartMs).sum)) ∧
    (chunkByTokenBudget threeInputs 2 voyageRateLimitTpm).map List.length = [2, 1] ∧
      (chunkByTokenBudget threeInputs 2 voyageRateLimitTpm).flatten = threeInputs := by
  have hrch : Reachable (fun _ now => 0 ≤ now) (Set.range tryReserveVoyageBudget) Kv.empty
      budgetSystem :=
    System.runAll_reachable (P := fun t => 0 ≤ t) (fun _ ht => ht) Set.mem_range_self _
      (by decide) _
      le_rfl (.start 0)
  obtain ⟨hwins, hchnk⟩ := voyage_budget (fun _ _ h => h) rfl hrch
  have hst : (storedWindow budgetSystem.world.store).map (·.tokens) = some 10000 := by
    decide +kernel
  obtain ⟨window, hwin, htoks⟩ := Option.map_eq_some_iff.mp hst
  obtain ⟨-, -, hreqs, hsum⟩ := hwins window hwin
  exact ⟨⟨by decide +kernel, window, hwin, htoks, hreqs, hsum⟩, by decide +kernel,
    (hchnk threeInputs 2 3 (by decide +kernel)).1⟩

/-- A limit of no items is a limit of one. -/
theorem chunkByTokenBudget_zero : measureEmbeddingsInputs ["a"] = .ok 1 ∧
    ¬∀ chunk ∈ chunkByTokenBudget [⟨"", "a"⟩] 0 voyageRateLimitTpm, chunk.length ≤ 0 := by
  decide +kernel

end UbqGateway.Embeddings
