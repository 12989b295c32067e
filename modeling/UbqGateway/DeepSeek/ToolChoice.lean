import UbqGateway.DeepSeek.ToolIdentity

/-!
# The choice of a tool

`chatToolName` and `toChatToolChoice` of `src/deepseek/chat-projection.ts`.  The names that tools
are advertised under are distinct and short, each leads back to the tool, and a choice of a tool by
its own name and namespace leads to the name that it is advertised under.
-/

namespace UbqGateway

/-! ### Candidates -/

theorem firstUnused_isSome [DecidableEq α] {used : List α}
    (hinjective : Function.Injective candidate)
    (hmore : used.length < count) : (firstUnused candidate used start count).isSome = true := by
  unfold firstUnused
  by_contra hno
  rw [Bool.not_eq_true, Option.isSome_eq_false_iff, Option.isNone_iff_eq_none,
    List.find?_eq_none] at hno
  have hsubset : (List.range' start count).map candidate ⊆ used := by
    intro value hmem
    obtain ⟨n, hins, rfl⟩ := List.mem_map.mp hmem
    simpa using hno n hins
  have hshr := (((List.nodup_range' (s := start) (n := count)).map hinjective).subperm
    hsubset).length_le
  rw [List.length_map, List.length_range'] at hshr
  exact absurd hmore (Nat.not_lt.mpr hshr)

namespace Utf16

theorem digit_toNat (h : d < 10) : (digit d).toNat = 48 + d := by
  unfold digit
  rw [UInt16.toNat_ofNat']
  exact Nat.mod_eq_of_lt (by omega)

theorem numeral_injective : Function.Injective numeral := by
  intro m n heq
  have hdgs (k : ℕ) : (numeral k).reverse.map (fun u => u.toNat - 48) = Nat.digits 10 k := by
    unfold numeral
    rw [← List.map_reverse, List.reverse_reverse, List.map_map]
    refine (List.map_congr_left fun d hmem => ?_).trans (List.map_id _)
    show (digit d).toNat - 48 = d
    rw [digit_toNat (Nat.digits_lt_base (by decide) hmem), Nat.add_sub_cancel_left]
  apply Nat.digits_inj_iff.mp
  rw [← hdgs m, ← hdgs n, heq]

theorem underscore_not_mem_numeral (n : ℕ) : underscore ∉ numeral n := by
  unfold numeral
  rw [List.mem_map]
  rintro ⟨d, hmem, heq⟩
  have hbelow := Nat.digits_lt_base (by decide) (List.mem_reverse.mp hmem)
  have hval := congrArg UInt16.toNat heq
  rw [digit_toNat hbelow] at hval
  have : underscore.toNat = 95 := rfl
  omega

end Utf16

namespace DeepSeek

open Responses ToolCollector

theorem suffixed_injective (name : Utf16) : Function.Injective (suffixed name) := by
  intro m n heq
  have hlast (k : ℕ) : (suffixed name k).reverse.takeWhile (· ≠ Utf16.underscore) =
    (Utf16.numeral k).reverse := by
    unfold suffixed
    rw [List.reverse_append, List.reverse_cons, List.append_assoc, List.takeWhile_append_of_pos]
    · rw [List.singleton_append, List.takeWhile_cons_of_neg (by simp), List.append_nil]
    · intro u hmem
      have hdg := Utf16.underscore_not_mem_numeral k
      exact decide_eq_true fun heq => hdg (heq ▸ List.mem_reverse.mp hmem)
  apply Utf16.numeral_injective
  rw [← List.reverse_inj, ← hlast m, ← hlast n, heq]

/-- The loop ends, unless there are more used names than its counter can count. -/
theorem uniqueChatName_isSome (used : List Utf16) (name : Utf16)
    (hcountable : used.length + 2 ≤ counterLimit) :
    (uniqueChatName used name).isSome = true := by
  unfold uniqueChatName
  split_ifs
  · rw [Option.isSome_map]
    exact firstUnused_isSome (suffixed_injective name) (lt_min (Nat.lt_succ_self _) (by omega))
  · rfl

/-! ### Choices -/

def chatToolName (name : Utf16) (space : Option Utf16) (toolNames : ToolNames) : Utf16 :=
  match toolNames.entries.find? fun entry => decide (entry.2 = ⟨name, space⟩) with
  | some entry => entry.1
  | none => if space = none then (originalTool name toolNames).name else name

inductive ChatToolChoice
  | mode (value : String)
  | function (name : Utf16)

def nestedFunction (value : Json) : Option Json :=
  (value.get "function").filter fun nested => isObject (some nested)

def choiceName (value : Json) : Option String :=
  (Json.string? (value.get "name")).or (Json.string? ((nestedFunction value).bind (·.get "name")))

def choiceSpace (value : Json) : Option String :=
  if value.get "namespace" = none then Json.string?
    ((nestedFunction value).bind (·.get "namespace"))
  else Json.string? (value.get "namespace")

def toChatToolChoice (value : Option Json) (toolNames : ToolNames) :
    Except ProjectionError (Option ChatToolChoice) :=
  match value with
  | none | some .null => .ok none
  | some (.str value) =>
    if value ∈ ["none", "auto", "required"] then .ok (some (.mode value))
    else .error (.failure "tool_choice" ("tool_choice '" ++ value ++ "' is not supported"))
  | some value =>
    if isObject (some value) = false then
      .error (.failure "tool_choice" "tool_choice must be a string or an object")
    else match choiceName value with
      | none | some "" => .error (.failure "tool_choice.name" "a named tool_choice requires a name")
      | some name =>
        .ok (some (.function (chatToolName (.ofString name) ((choiceSpace value).map .ofString)
          toolNames)))

/-- A choice gives the name and the namespace of a tool. -/
structure Chooses (value : Json) (identity : OriginalToolName) : Prop where
  object : isObject (some value) = true
  name : (choiceName value).map Utf16.ofString = some identity.name
  space : (choiceSpace value).map Utf16.ofString = identity.space

/-- An advertised name leads back to the tool. -/
theorem Adds.originals {tools : ToolCollector} (h : Adds .empty identities tools) :
    tools.tools.map (fun tool => originalTool tool.name tools.toolNames) = identities := by
  induction h with
  | none => rfl
  | @add _ mid _ hadds tool huniq _ _ _ _ horig _ ih =>
    have hcoll := hadds.collects
    show (mid.tools ++ [tool]).map _ = _
    rw [List.map_append, ← ih]
    congr 1
    · refine List.map_congr_left fun old hmem => ?_
      have hdiff : old.name ≠ tool.name := by
        intro heq
        rw [hcoll.used] at huniq
        exact huniq (heq ▸ List.mem_map_of_mem hmem)
      unfold originalTool
      rw [lookup_add_of_ne hdiff]
    · unfold originalTool
      rw [List.map_singleton, lookup_add_self (hcoll.fresh huniq), horig]

/-- Among tools of different identities the name of a tool is found by its identity. -/
theorem chatToolName_original {tools : ToolCollector} (h : Adds .empty identities tools)
    (hdist : identities.Nodup) (hmem : tool ∈ tools.tools)
    (horig : originalTool tool.name tools.toolNames = ⟨name, space⟩) :
    chatToolName name space tools.toolNames = tool.name := by
  have hcoll := h.collects
  rw [← h.originals] at hdist
  unfold chatToolName
  split
  · rename_i entry hfd
    have hin := List.mem_of_find?_eq_some hfd
    have heq : entry.2 = ⟨name, space⟩ := by simpa using List.find?_some hfd
    have hkn := (tools.toolNames.mem_entries_iff entry.1 entry.2).mp hin
    have hused := hcoll.keys _ _ hkn
    rw [hcoll.used] at hused
    obtain ⟨other, hmem', hadv⟩ := List.mem_map.mp hused
    have hal : originalTool other.name tools.toolNames =
      originalTool tool.name tools.toolNames := by
      rw [horig, ← heq, hadv]
      unfold originalTool
      rw [hkn]
      rfl
    rw [← hadv, List.inj_on_of_nodup_map hdist hmem' hmem hal]
  · rename_i hno
    -- A tool without an entry is advertised under its own name, and has no namespace.
    have habs : tools.toolNames.lookup tool.name = none := by
      cases hkn : tools.toolNames.lookup tool.name with
      | none => rfl
      | some found =>
        have hin := (tools.toolNames.mem_entries_iff tool.name found).mpr hkn
        unfold originalTool at horig
        rw [hkn] at horig
        exact absurd (decide_eq_true horig) (List.find?_eq_none.mp hno _ hin)
    have hitself : originalTool tool.name tools.toolNames = ⟨tool.name, none⟩ := by
      unfold originalTool
      rw [habs]
      rfl
    rw [hitself] at horig
    cases horig
    rw [if_pos rfl, hitself]

/-- The names that tools are advertised under can be inverted. -/
theorem toChatTools_invertible {value : Json} {tools : ToolCollector}
    (hok : toChatTools value = .ok tools) :
    (tools.tools.map ChatTool.name).Nodup ∧
      (∀ tool ∈ tools.tools, tool.name.length ≤ 128) ∧
      tools.tools.map (fun tool => originalTool tool.name tools.toolNames) =
        clientIdentities value ∧
      (∀ used name, used.length + 2 ≤ counterLimit → (uniqueChatName used name).isSome = true) ∧
      ((clientIdentities value).Nodup → ∀ tool ∈ tools.tools, ∀ choice,
        Chooses choice (originalTool tool.name tools.toolNames) →
          toChatToolChoice (some choice) tools.toolNames = .ok (some (.function tool.name))) := by
  have hadds := toChatTools_adds hok
  have hcoll := hadds.collects
  refine ⟨hcoll.used ▸ hcoll.nodup, fun tool hmem => ?_, hadds.originals, uniqueChatName_isSome, ?_⟩
  · refine hcoll.short _ ?_
    rw [hcoll.used]
    exact List.mem_map_of_mem hmem
  · intro hdist tool hmem choice hchooses
    have hname : (originalTool tool.name tools.toolNames).name ≠ [] := by
      refine hcoll.named _ (List.mem_map_of_mem ?_)
      rw [← hadds.originals]
      exact List.mem_map_of_mem hmem
    obtain ⟨name, hgvn, heq⟩ := Option.map_eq_some_iff.mp hchooses.name
    have hfd : chatToolName (.ofString name) ((choiceSpace choice).map .ofString)
        tools.toolNames = tool.name :=
      chatToolName_original hadds hdist hmem (by rw [heq, hchooses.space])
    have hnonempty : name ≠ "" := by
      rintro rfl
      exact hname heq.symm
    unfold toChatToolChoice
    split
    · contradiction
    · rename_i hnull
      cases hnull
      cases hchooses.object
    · rename_i htext
      cases htext
      cases hchooses.object
    · rename_i hsome
      cases hsome
      rw [if_neg (by rw [hchooses.object]; decide), hgvn]
      split
      · contradiction
      · rename_i hemp
        exact absurd (Option.some.inj hemp) hnonempty
      · rename_i hsome
        cases hsome
        rw [hfd]

/-- The two functions of one name get two names. -/
theorem toChatTools_invertible_namespaced :
    ∃ tools, toChatTools namespacedTools = .ok tools ∧ (tools.tools.map ChatTool.name).Nodup :=
  ⟨_, rfl, (@toChatTools_invertible namespacedTools _ rfl).1⟩

end DeepSeek

end UbqGateway
