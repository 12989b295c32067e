import UbqGateway.DeepSeek.ChatTools
import UbqGateway.Library.Results

/-!
# The names under which the model sees its own calls

A call that was made under an advertised name goes to the client under the client's name, and comes
back in the next request under that name.  So the model sees it under the advertised name if and
only if the tools are advertised under the client's names (`toChatTools_keepsNames_iff`).
-/

namespace UbqGateway.DeepSeek

open Responses ToolCollector

/-! ### Unique names -/

theorem length_suffixed_le (name : Utf16) (h : suffix < 10 ^ 17) :
    (suffixed name suffix).length ≤ chatFunctionNameLimit := by
  unfold suffixed
  have hshrt := Utf16.length_numeral_le h
  rw [List.length_append, List.length_take, List.length_cons]
  unfold chatFunctionNameLimit
  omega

structure UniqueFor (used : List Utf16) (name chatName : Utf16) : Prop where
  unused : chatName ∉ used
  short : chatName.length ≤ chatFunctionNameLimit
  nonempty : name ≠ [] → chatName ≠ []
  same : name ∉ used → name.length ≤ chatFunctionNameLimit → chatName = name

theorem uniqueChatName_uniqueFor {used : List Utf16}
    (h : uniqueChatName used name = some chatName) :
    UniqueFor used name chatName := by
  unfold uniqueChatName at h
  by_cases hfit : name.take chatFunctionNameLimit ∉ used
  · rw [if_pos hfit] at h
    cases h
    refine ⟨hfit, List.length_take_le _ _, fun hnonempty hemp => ?_, fun _ hshrt =>
      List.take_of_length_le hshrt⟩
    rw [List.take_eq_nil_iff] at hemp
    rcases hemp with hzero | hemp
    · cases hzero
    · exact hnonempty hemp
  · rw [if_neg hfit, Option.map_eq_some_iff] at h
    obtain ⟨suffix, hfd, rfl⟩ := h
    obtain ⟨hunused, hbd⟩ := firstUnused_not_mem hfd
    have hsml : suffix < 10 ^ 17 := by
      have hlmt := Nat.min_le_right (used.length + 1) (counterLimit - 1)
      have : counterLimit = 9007199254740992 := rfl
      omega
    refine ⟨hunused, length_suffixed_le name hsml, fun _ hemp => ?_, fun hnew hshrt => ?_⟩
    · unfold suffixed at hemp
      simp at hemp
    · rw [List.take_of_length_le hshrt] at hfit
      exact absurd hnew hfit

/-! ### Collected tools -/

/-- The names of the functions of a namespace. -/
def nestedNames (tools : List Json) : List Utf16 :=
  tools.filterMap fun nested =>
    if Json.string? (nested.get "type") ≠ some "function" then none
    else nonEmptyText (nested.get "name")

/-- The names of a tool that the client gives. -/
def namesOfTool (tool : Json) : List Utf16 :=
  if Json.string? (tool.get "type") = some "namespace" then
    nestedNames ((Json.items? (tool.get "tools")).getD [])
  else if Json.string? (tool.get "type") =
    some "custom" then (nonEmptyText (tool.get "name")).toList
  else if isObject (tool.get "function") = true then
    (nonEmptyText (((tool.get "function").getD .null).get "name")).toList
  else if Json.string? (tool.get "type") = some "function" then
    (nonEmptyText (tool.get "name")).toList
  else []

/-- The names of the functions and custom tools that the client gives, in order. -/
def clientNames (value : Json) : List Utf16 :=
  ((Json.items? (some value)).getD []).flatMap namesOfTool

/-- The identity of a function or custom tool, if it has a name. -/
def identityOf (space : Option Utf16) (tool : Json) : List OriginalToolName :=
  (nonEmptyText (tool.get "name")).toList.map fun name => ⟨name, space⟩

def nestedIdentities (space : Option Utf16) (tools : List Json) : List OriginalToolName :=
  tools.flatMap fun nested =>
    if Json.string? (nested.get "type") ≠ some "function" then [] else identityOf space nested

def identitiesOfTool (tool : Json) : List OriginalToolName :=
  if Json.string? (tool.get "type") = some "namespace" then
    nestedIdentities ((Json.string? (tool.get "name")).map Utf16.ofString)
      ((Json.items? (tool.get "tools")).getD [])
  else if Json.string? (tool.get "type") = some "custom" then identityOf none tool
  else if isObject (tool.get "function") = true then identityOf none
    ((tool.get "function").getD .null)
  else if Json.string? (tool.get "type") = some "function" then identityOf none tool
  else []

/-- The names and namespaces of the tools that the client gives, in order. -/
def clientIdentities (value : Json) : List OriginalToolName :=
  ((Json.items? (some value)).getD []).flatMap identitiesOfTool

theorem map_identityOf (space : Option Utf16) (tool : Json) :
    (identityOf space tool).map OriginalToolName.name =
      (nonEmptyText (tool.get "name")).toList := by
  unfold identityOf
  rw [List.map_map]
  exact List.map_id _

theorem map_nestedIdentities (space : Option Utf16) (tools : List Json) :
    (nestedIdentities space tools).map OriginalToolName.name = nestedNames tools := by
  unfold nestedIdentities nestedNames
  rw [List.map_flatMap, List.filterMap_eq_flatMap_toList]
  refine List.flatMap_congr fun nested _ => ?_
  split_ifs
  · rfl
  · exact map_identityOf space nested

theorem map_clientIdentities (value : Json) :
    (clientIdentities value).map OriginalToolName.name = clientNames value := by
  unfold clientIdentities clientNames
  rw [List.map_flatMap]
  refine List.flatMap_congr fun tool _ => ?_
  unfold identitiesOfTool namesOfTool
  split_ifs
  · exact map_nestedIdentities _ _
  · exact map_identityOf _ _
  · exact map_identityOf _ _
  · exact map_identityOf _ _
  · rfl

structure AdvertisedFor (toolNames : ToolNames) (tool : ChatTool) (name : Utf16) : Prop where
  original : (originalTool tool.name toolNames).name = name
  named : name ≠ []

structure Collects (collector : ToolCollector) (names : List Utf16) : Prop where
  advertised : List.Forall₂ (AdvertisedFor collector.toolNames) collector.tools names
  used : collector.used = collector.tools.map ChatTool.name
  nodup : collector.used.Nodup
  short : ∀ name ∈ collector.used, name.length ≤ chatFunctionNameLimit
  keys : ∀ name original, collector.toolNames.lookup name = some original → name ∈ collector.used
  same : names.Nodup → (∀ name ∈ names, name.length ≤ chatFunctionNameLimit) →
    collector.used = names

theorem Collects.empty : Collects .empty [] :=
  ⟨.nil, rfl, List.nodup_nil, List.forall_mem_nil _, nofun, fun _ _ => rfl⟩

theorem nonEmptyText_ne {value : Option Json} (h : nonEmptyText value = some name) : name ≠ [] := by
  unfold nonEmptyText at h
  rw [Option.map_eq_some_iff] at h
  obtain ⟨text, hfd, rfl⟩ := h
  rw [Option.filter_eq_some_iff] at hfd
  rw [ne_eq, Utf16.ofString_eq_nil]
  exact of_decide_eq_true hfd.2

theorem forall₂_imp_of_mem (h : List.Forall₂ R us vs) (himp : ∀ u ∈ us, ∀ v, R u v → S u v) :
    List.Forall₂ S us vs := by
  induction h with
  | nil => exact .nil
  | cons hrelated _ ih =>
    exact .cons (himp _ List.mem_cons_self _ hrelated)
      (ih fun u hmem => himp u (List.mem_cons_of_mem _ hmem))

theorem lookup_add_self (hfr : collector.toolNames.lookup tool.name = none) :
    (ToolCollector.add collector tool original custom).toolNames.lookup tool.name = original := by
  cases original with
  | none => exact hfr
  | some original => exact Record.lookup_insert_self ..

theorem lookup_add_of_ne (hdiff : other ≠ tool.name) :
    (ToolCollector.add collector tool original custom).toolNames.lookup other =
      collector.toolNames.lookup other := by
  cases original with
  | none => rfl
  | some original => exact Record.lookup_insert_of_ne _ _ hdiff

theorem Collects.fresh (h : Collects collector names) (huniq : chatName ∉ collector.used) :
    collector.toolNames.lookup chatName = none := by
  cases hfd : collector.toolNames.lookup chatName with
  | none => rfl
  | some known => exact absurd (h.keys _ _ hfd) huniq

/-- One more tool gets a name of its own. -/
theorem Collects.add (h : Collects collector names) (huniq : chatName ∉ collector.used)
    (hshrt : chatName.length ≤ chatFunctionNameLimit) (hname : name ≠ [])
    (heq : name ∉ collector.used → name.length ≤ chatFunctionNameLimit → chatName = name)
    (tool : ChatTool) (hadvertises : tool.name = chatName) {original : Option OriginalToolName}
    (horig : (original.getD ⟨chatName, none⟩).name = name) (custom : Bool) :
    Collects (collector.add tool original custom) (names ++ [name]) := by
  subst hadvertises
  refine ⟨?_, ?_, ?_, ?_, ?_, ?_⟩
  · refine List.rel_append ?_ (.cons ⟨?_, hname⟩ .nil)
    · refine forall₂_imp_of_mem h.advertised fun old hmem name hadv => ?_
      have hdiff : old.name ≠ tool.name := by
        intro heq
        rw [h.used] at huniq
        exact huniq (heq ▸ List.mem_map_of_mem hmem)
      refine ⟨?_, hadv.named⟩
      unfold originalTool
      rw [lookup_add_of_ne hdiff]
      exact hadv.original
    · unfold originalTool
      rw [lookup_add_self (h.fresh huniq)]
      exact horig
  · show collector.used ++ [tool.name] = (collector.tools ++ [tool]).map ChatTool.name
    rw [h.used, List.map_append]
    rfl
  · show (collector.used ++ [tool.name]).Nodup
    rw [List.nodup_append]
    refine ⟨h.nodup, List.nodup_singleton _, ?_⟩
    rintro one hmem two hmem' rfl
    rw [List.mem_singleton.mp hmem'] at hmem
    exact huniq hmem
  · intro one hmem
    rcases List.mem_append.mp hmem with hold | hnew
    · exact h.short one hold
    · rw [List.mem_singleton.mp hnew]
      exact hshrt
  · intro one known hfd
    by_cases hdiff : one = tool.name
    · rw [hdiff]
      exact List.mem_append_right _ (List.mem_singleton_self _)
    · rw [lookup_add_of_ne hdiff] at hfd
      exact List.mem_append_left _ (h.keys one known hfd)
  · intro hnd hallShort
    rw [List.nodup_append] at hnd
    have hused := h.same hnd.1 fun one hmem => hallShort one (List.mem_append_left _ hmem)
    have hnew : name ∉ collector.used := by
      rw [hused]
      exact fun hmem => hnd.2.2 name hmem name (List.mem_singleton_self _) rfl
    show collector.used ++ [tool.name] = names ++ [name]
    rw [heq hnew (hallShort name (List.mem_append_right _ (List.mem_singleton_self _))), hused]

/-- A collector that some tools are added to, one after the other. -/
inductive Adds (collector : ToolCollector) : List OriginalToolName → ToolCollector → Prop
  | none : Adds collector [] collector
  | add (hadds : Adds collector identities mid) (tool : ChatTool) (huniq : tool.name ∉ mid.used)
    (hshrt : tool.name.length ≤ chatFunctionNameLimit) (hname : identity.name ≠ [])
    (heq : identity.name ∉ mid.used → identity.name.length ≤ chatFunctionNameLimit →
      tool.name = identity.name)
    {original : Option OriginalToolName} (horig : original.getD ⟨tool.name, .none⟩ = identity)
    (custom : Bool) : Adds collector (identities ++ [identity]) (mid.add tool original custom)

theorem Adds.trans (h : Adds collector identities mid) (h' : Adds mid identities' collector') :
    Adds collector (identities ++ identities') collector' := by
  induction h' with
  | none =>
    rw [List.append_nil]
    exact h
  | add _ tool huniq hshrt hname heq horig custom ih =>
    rw [← List.append_assoc]
    exact ih.add tool huniq hshrt hname heq horig custom

theorem collectCustom_adds (hok : collector.collectCustom tool = .ok collector') :
    Adds collector (identityOf none tool) collector' := by
  unfold ToolCollector.collectCustom at hok
  unfold identityOf
  cases hname : nonEmptyText (tool.get "name") with
  | none =>
    rw [hname] at hok
    cases hok
  | some name =>
    rw [hname] at hok
    simp only at hok
    split at hok
    · cases hok
    next chatName hchosen =>
    cases hok
    have huniq := uniqueChatName_uniqueFor hchosen
    refine Adds.none.add _ huniq.unused huniq.short (nonEmptyText_ne hname) huniq.same ?_ true
    by_cases heq : chatName = name
    · rw [if_neg (not_not.mpr heq)]
      exact congrArg (OriginalToolName.mk · none) heq
    · rw [if_pos heq]
      rfl

theorem collectFunction_adds {fn : Json}
    (hok : collector.collectFunction fn space = .ok collector') :
    Adds collector (identityOf space fn) collector' := by
  unfold ToolCollector.collectFunction at hok
  unfold identityOf
  cases hname : nonEmptyText (fn.get "name") with
  | none =>
    rw [hname] at hok
    cases hok
  | some name =>
    rw [hname] at hok
    simp only at hok
    split at hok
    · cases hok
    next chatName hchosen =>
    cases hok
    have huniq := uniqueChatName_uniqueFor hchosen
    refine Adds.none.add _ huniq.unused huniq.short (nonEmptyText_ne hname) ?_ ?_ false
    · -- A name that is not used is preferred as it is.
      intro hnew hshrt
      have hpreferred : collector.preferredName space name = name := by
        unfold ToolCollector.preferredName
        cases space with
        | none => rfl
        | some space => exact if_neg hnew
      rw [hpreferred] at huniq
      exact huniq.same hnew hshrt
    · split_ifs with hrenamed
      · rfl
      · rw [not_or, not_not, not_not] at hrenamed
        rw [hrenamed.2]
        exact congrArg (OriginalToolName.mk · none) hrenamed.1

variable {tools : List Json}

theorem collectNested_adds (hok : collectNested space collector tools = .ok collector') :
    Adds collector (nestedIdentities space tools) collector' := by
  induction tools generalizing collector with
  | nil =>
    cases hok
    exact .none
  | cons _ _ ih =>
    rw [collectNested] at hok
    unfold nestedIdentities
    rw [List.flatMap_cons]
    split_ifs at hok with hobj hoth
    · rw [if_pos hoth]
      exact ih hok
    · rw [if_neg hoth]
      obtain ⟨mid, hone, hok⟩ := Results.of_bind hok
      exact (collectFunction_adds hone).trans (ih hok)

theorem collectTool_adds (hok : collector.collectTool tool = .ok collector') :
    Adds collector (identitiesOfTool tool) collector' := by
  unfold ToolCollector.collectTool at hok
  unfold identitiesOfTool
  split_ifs at hok ⊢
  · unfold ToolCollector.collectNamespace at hok
    cases hits : Json.items? (tool.get "tools") with
    | none =>
      rw [hits] at hok
      cases hok
    | some tools =>
      rw [hits] at hok
      exact collectNested_adds hok
  · exact collectCustom_adds hok
  · exact collectFunction_adds hok
  · exact collectFunction_adds hok
  · cases hok
    exact .none

theorem collectTools_adds (hok : collector.collectTools tools = .ok collector') :
    Adds collector (tools.flatMap identitiesOfTool) collector' := by
  induction tools generalizing collector with
  | nil =>
    cases hok
    exact .none
  | cons _ _ ih =>
    rw [collectTools] at hok
    obtain ⟨mid, hone, hok⟩ := Results.of_bind hok
    exact (collectTool_adds hone).trans (ih hok)

theorem toChatTools_adds {tools : ToolCollector} (hok : toChatTools value = .ok tools) :
    Adds .empty (clientIdentities value) tools := by
  unfold toChatTools at hok
  cases value with
  | arr => exact collectTools_adds hok
  | _ => cases hok

theorem Adds.collects (h : Adds .empty identities collector) :
    Collects collector (identities.map OriginalToolName.name) := by
  induction h with
  | none => exact .empty
  | add _ tool huniq hshrt hname heq horig custom ih =>
    rw [List.map_append]
    exact ih.add huniq hshrt hname heq tool rfl (congrArg OriginalToolName.name horig) custom

theorem toChatTools_collects {tools : ToolCollector} (hok : toChatTools value = .ok tools) :
    Collects tools (clientNames value) := by
  rw [← map_clientIdentities]
  exact (toChatTools_adds hok).collects

/-! ### Names across turns -/

/-- Every call under an advertised name goes to the client and comes back under that name, or as an
error if its arguments do not fit the next request. -/
def KeepsNames (tools : ToolCollector) : Prop :=
  ∀ (parse : Utf16 → Option Json) (bounded : Utf16 → Utf16 → Except ProjectionError Utf16)
    (stringify : Utf16 → Utf16) (id : Utf16) (call : ChatCall),
    call.name ∈ tools.tools.map ChatTool.name →
      ∃ text, chatToolCallItem bounded stringify (callItem parse tools id call) =
        (bounded call.id text).map fun arguments => ⟨call.id, call.name, arguments⟩

theorem required_of_ne (h : text ≠ []) : required (some text) = some text := by
  unfold required
  rw [Option.filter_some, if_pos (decide_eq_true h)]

theorem chatToolCallItem_callItem (parse : Utf16 → Option Json)
    (bounded : Utf16 → Utf16 → Except ProjectionError Utf16) (stringify : Utf16 → Utf16)
    (tools : ToolCollector) (id : Utf16) (call : ChatCall)
    (hname : (originalTool call.name tools.toolNames).name ≠ []) :
    ∃ text, chatToolCallItem bounded stringify (callItem parse tools id call) =
      (bounded call.id text).map fun arguments =>
        ⟨call.id, (originalTool call.name tools.toolNames).name, arguments⟩ := by
  unfold callItem
  split_ifs with hcus
  · refine ⟨stringify (freeformInputFromArguments parse call.arguments), ?_⟩
    unfold chatToolCallItem customToolCallItem
    simp only [Option.some_or, required_of_ne call.hasId, required_of_ne hname, if_true,
      Option.getD_some]
  · refine ⟨call.arguments, ?_⟩
    unfold chatToolCallItem functionCallItem
    simp only [Option.some_or, required_of_ne call.hasId, required_of_ne hname, Bool.false_eq_true,
      if_false, Option.getD_some]

theorem Collects.originals (h : Collects collector names) :
    collector.used.map (fun name => (originalTool name collector.toolNames).name) = names := by
  rw [h.used, List.map_map]
  have hadv := h.advertised
  clear h
  generalize collector.tools = tools at hadv
  induction hadv with
  | nil => rfl
  | cons hone _ ih => rw [List.map_cons, ih, Function.comp_apply, hone.original]

theorem Collects.named (h : Collects collector names) : ∀ name ∈ names, name ≠ [] := by
  have hadv := h.advertised
  clear h
  generalize collector.tools = tools at hadv
  induction hadv with
  | nil => exact List.forall_mem_nil _
  | cons hone _ ih => exact List.forall_mem_cons.mpr ⟨hone.named, ih⟩

/-- The model sees its calls under the names that it was offered if and only if the client's names
of the tools are distinct and short, so that they are offered themselves. -/
theorem toChatTools_keepsNames_iff {value : Json} {tools : ToolCollector}
    (hok : toChatTools value = .ok tools) : KeepsNames tools ↔
      (clientNames value).Nodup ∧
        ∀ name ∈ clientNames value, name.length ≤ chatFunctionNameLimit := by
  have hcoll := toChatTools_collects hok
  have hadv (name : Utf16) (hmem : name ∈ tools.used) :
      (originalTool name tools.toolNames).name ∈ clientNames value := by
    rw [← hcoll.originals]
    exact List.mem_map_of_mem hmem
  unfold KeepsNames
  rw [← hcoll.used]
  constructor
  · intro hkps
    have heq : tools.used.map (fun name => (originalTool name tools.toolNames).name) =
      tools.used := by
      conv_rhs => rw [← List.map_id tools.used]
      refine List.map_congr_left fun name hmem => ?_
      obtain ⟨text, hrpld⟩ := hkps (fun _ => none) (fun _ text => .ok text) id []
        ⟨[0], name, [], nofun⟩ hmem
      obtain ⟨text', hrpld'⟩ := chatToolCallItem_callItem (fun _ => none) (fun _ text =>
        .ok text) id
        tools [] ⟨[0], name, [], nofun⟩ (hcoll.named _ (hadv name hmem))
      rw [hrpld] at hrpld'
      exact (congrArg ChatToolCall.name (Except.ok.inj hrpld')).symm
    rw [← hcoll.originals, heq]
    exact ⟨hcoll.nodup, hcoll.short⟩
  · rintro ⟨hnd, hshrt⟩ parse bounded stringify id call hmem
    have hused := hcoll.same hnd hshrt
    have horig : (originalTool call.name tools.toolNames).name = call.name := by
      have hall := hcoll.originals
      rw [hused] at hall hmem
      exact List.map_inj_left.mp (hall.trans (List.map_id _).symm) _ hmem
    obtain ⟨text, hrpld⟩ := chatToolCallItem_callItem parse bounded stringify tools id call
      (hcoll.named _ (hadv _ hmem))
    refine ⟨text, ?_⟩
    rw [hrpld, horig]

/-- A function and a custom tool. -/
def distinctTools : Json :=
  .arr [.obj [("type", .str "function"), ("name", .str "search")],
    .obj [("type", .str "custom"), ("name", .str "patch")]]

theorem toChatTools_keepsNames_iff_distinct :
    ∃ tools, toChatTools distinctTools = .ok tools ∧ KeepsNames tools :=
  ⟨_, rfl, (@toChatTools_keepsNames_iff distinctTools _ rfl).mpr (by decide +kernel)⟩

/-- A function, and a function of the same name in a namespace. -/
def namespacedTools : Json :=
  .arr [.obj [("type", .str "function"), ("name", .str "search")],
    .obj [("type", .str "namespace"), ("name", .str "web"),
      ("tools", .arr [.obj [("type", .str "function"), ("name", .str "search")]])]]

/-- The function of the namespace is advertised as `web_search`, and a call of it comes back as a
call of the other function. -/
theorem toChatTools_not_keepsNames :
    ∃ tools, toChatTools namespacedTools = .ok tools ∧ ¬ KeepsNames tools ∧
      tools.tools.map ChatTool.name = [Utf16.ofString "search", Utf16.ofString "web_search"] ∧
      ∀ (parse : Utf16 → Option Json) (stringify : Utf16 → Utf16) (id : Utf16),
        chatToolCallItem (fun _ arguments => .ok arguments) stringify
          (callItem parse tools id ⟨Utf16.ofString "call", Utf16.ofString "web_search", [], nofun⟩)
            =
          .ok ⟨Utf16.ofString "call", Utf16.ofString "search", []⟩ := by
  refine ⟨_, rfl, ?_, by decide +kernel, fun _ _ _ => rfl⟩
  intro hkps
  obtain ⟨text, hrpld⟩ := hkps (fun _ => none) (fun _ text => .ok text) id []
    ⟨Utf16.ofString "call", Utf16.ofString "web_search", [], nofun⟩ (by decide +kernel)
  have heq : Utf16.ofString "search" = Utf16.ofString "web_search" :=
    congrArg ChatToolCall.name (Except.ok.inj hrpld)
  exact absurd heq (by decide +kernel)

end UbqGateway.DeepSeek
