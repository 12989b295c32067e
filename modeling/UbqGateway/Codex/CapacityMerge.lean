import UbqGateway.Codex.Capacity
import Mathlib.Data.List.Sort

/-!
# Merging capacity observations

`mergeCapacityObservations` keeps one observation of each account, the newest one, and lists them by
slot (`Merged`).  Where the times of an account's observations differ, this leaves no choice of the
observations; accounts of one slot are listed in the order in which they were met.
-/

namespace UbqGateway.Codex

/-- The body of the loop of `mergeCapacityObservations`. -/
def keepNewest (byAccount : Record String CodexCapacityRoutingObservation)
    (observation : CodexCapacityRoutingObservation) :
    Record String CodexCapacityRoutingObservation :=
  if (byAccount.lookup observation.accountIdHash).any (fun prior =>
      decide (observation.snapshotAtMs < prior.snapshotAtMs)) = true then byAccount
  else byAccount.insert observation.accountIdHash observation

def mergeCapacityObservations (sets : List (List CodexCapacityRoutingObservation)) :
    List CodexCapacityRoutingObservation :=
  ((sets.foldl (List.foldl keepNewest) Record.empty).values).insertionSort
    fun left right => left.slot ≤ right.slot

/-- An observation of an account in the first slot. -/
def sampleObservation (accountIdHash : String) (snapshotAtMs : ℤ) :
    CodexCapacityRoutingObservation :=
  ⟨0, accountIdHash, .available, none, snapshotAtMs, ⟨none, none⟩, []⟩

/-! ### What a merge is -/

/-- The newest of the given observations of each account, by slot. -/
structure Merged (given merged : List CodexCapacityRoutingObservation) : Prop where
  subset : ∀ r ∈ merged, r ∈ given
  newest : ∀ r ∈ merged, ∀ o ∈ given, o.accountIdHash = r.accountIdHash →
    o.snapshotAtMs ≤ r.snapshotAtMs
  covers : ∀ o ∈ given, ∃ r ∈ merged, r.accountIdHash = o.accountIdHash
  once : (merged.map (·.accountIdHash)).Nodup
  sorted : merged.Pairwise fun left right => left.slot ≤ right.slot

/-- Different observations of an account have different times. -/
def TimesDistinct (given : List CodexCapacityRoutingObservation) : Prop :=
  ∀ o ∈ given, ∀ o' ∈ given, o.accountIdHash = o'.accountIdHash →
    o.snapshotAtMs = o'.snapshotAtMs → o = o'

instance (given : List CodexCapacityRoutingObservation) : Decidable (TimesDistinct given) :=
  inferInstanceAs (Decidable (∀ o ∈ given, ∀ o' ∈ given, _ → _ → _))

/-- Different accounts have different slots. -/
def SlotsDistinct (given : List CodexCapacityRoutingObservation) : Prop :=
  ∀ o ∈ given, ∀ o' ∈ given, o.slot = o'.slot → o.accountIdHash = o'.accountIdHash

theorem Merged.mem (h : Merged given merged) (h' : Merged given' merged')
    (htms : TimesDistinct given) (heq : ∀ o, o ∈ given ↔ o ∈ given') (hr : r ∈ merged) :
    r ∈ merged' := by
  have hgvn : r ∈ given := h.subset r hr
  obtain ⟨r', hr', hkey⟩ := h'.covers r ((heq r).mp hgvn)
  have hgvn' : r' ∈ given := (heq r').mpr (h'.subset r' hr')
  have hle : r'.snapshotAtMs ≤ r.snapshotAtMs := h.newest r hr r' hgvn' hkey
  have hge : r.snapshotAtMs ≤ r'.snapshotAtMs :=
    h'.newest r' hr' r ((heq r).mp hgvn) hkey.symm
  rw [htms r hgvn r' hgvn' hkey.symm (le_antisymm hge hle)]
  exact hr'

theorem TimesDistinct.congr (h : TimesDistinct given) (heq : ∀ o, o ∈ given ↔ o ∈ given') :
    TimesDistinct given' := fun o ho o' ho' =>
  h o ((heq o).mpr ho) o' ((heq o').mpr ho')

section

variable (h : Merged given merged) (h' : Merged given' merged') (htms : TimesDistinct given)

include h h' htms

/-- A merge has no choice but the order. -/
theorem Merged.perm (heq : ∀ o, o ∈ given ↔ o ∈ given') : merged.Perm merged' := by
  rw [List.perm_ext_iff_of_nodup (List.Nodup.of_map _ h.once) (List.Nodup.of_map _ h'.once)]
  intro r
  exact ⟨h.mem h' htms heq, h'.mem h (htms.congr heq) fun o => (heq o).symm⟩

/-- Where the accounts have slots of their own, it has no choice at all. -/
theorem Merged.eq (hslt : SlotsDistinct given) (heq : ∀ o, o ∈ given ↔ o ∈ given') :
    merged = merged' := by
  have hperm := h.perm h' htms heq
  refine hperm.eq_of_pairwise (fun r r' hr hr' hle hge => ?_) h.sorted h'.sorted
  have hmem : r' ∈ merged := hperm.mem_iff.mpr hr'
  have hkey : r.accountIdHash = r'.accountIdHash :=
    hslt r (h.subset r hr) r' (h.subset r' hmem) (le_antisymm hle hge)
  exact List.inj_on_of_nodup_map h.once hr hmem hkey

end

/-- What is merged may have been merged in groups before. -/
theorem Merged.regroup {groups : List γ} (hgrp : ∀ g ∈ groups, Merged (members g) (f g))
    (h : Merged (groups.flatMap f) merged) : Merged (groups.flatMap members) merged where
  subset r hr := by
    obtain ⟨g, hg, hmem⟩ := List.mem_flatMap.mp (h.subset r hr)
    exact List.mem_flatMap.mpr ⟨g, hg, (hgrp g hg).subset r hmem⟩
  newest r hr o ho hkey := by
    obtain ⟨g, hg, hmem⟩ := List.mem_flatMap.mp ho
    obtain ⟨r', hr', hkey'⟩ := (hgrp g hg).covers o hmem
    have hfst : o.snapshotAtMs ≤ r'.snapshotAtMs := (hgrp g hg).newest r' hr' o hmem hkey'.symm
    exact hfst.trans (h.newest r hr r' (List.mem_flatMap.mpr ⟨g, hg, hr'⟩) (hkey'.trans hkey))
  covers o ho := by
    obtain ⟨g, hg, hmem⟩ := List.mem_flatMap.mp ho
    obtain ⟨r', hr', hkey'⟩ := (hgrp g hg).covers o hmem
    obtain ⟨r, hr, hkey⟩ := h.covers r' (List.mem_flatMap.mpr ⟨g, hg, hr'⟩)
    exact ⟨r, hr, hkey.trans hkey'⟩
  once := h.once
  sorted := h.sorted

/-! ### The merge of the source -/

/-- The map of the loop holds the newest observation of each account seen. -/
structure Newest (given : List CodexCapacityRoutingObservation)
    (byAccount : Record String CodexCapacityRoutingObservation) : Prop where
  held : ∀ k r, byAccount.lookup k = some r → r.accountIdHash = k ∧ r ∈ given ∧
    ∀ o ∈ given, o.accountIdHash = k → o.snapshotAtMs ≤ r.snapshotAtMs
  covers : ∀ o ∈ given, (byAccount.lookup o.accountIdHash).isSome = true

theorem Newest.empty : Newest [] .empty where
  held k r h := by cases h
  covers o h := absurd h List.not_mem_nil

/-- One more observation is kept if it is the newest of its account. -/
theorem Newest.keep (h : Newest given byAccount) :
    Newest (given ++ [observation]) (keepNewest byAccount observation) := by
  unfold keepNewest
  split_ifs with hnewer
  · obtain ⟨prior, hpri, hlt⟩ : ∃ prior, byAccount.lookup observation.accountIdHash = some prior ∧
        observation.snapshotAtMs < prior.snapshotAtMs := by
      cases hpri : byAccount.lookup observation.accountIdHash with
      | none =>
        rw [hpri] at hnewer
        cases hnewer
      | some prior =>
        rw [hpri] at hnewer
        exact ⟨prior, rfl, of_decide_eq_true hnewer⟩
    refine ⟨fun k r hr => ?_, fun o ho => ?_⟩
    · obtain ⟨hkey, hmem, hle⟩ := h.held k r hr
      refine ⟨hkey, List.mem_append_left _ hmem, fun o ho hk => ?_⟩
      rcases List.mem_append.mp ho with ho | ho
      · exact hle o ho hk
      · obtain rfl := List.mem_singleton.mp ho
        rw [hk, hr] at hpri
        cases hpri
        exact hlt.le
    · rcases List.mem_append.mp ho with ho | ho
      · exact h.covers o ho
      · obtain rfl := List.mem_singleton.mp ho
        rw [hpri]
        rfl
  · refine ⟨fun k r hr => ?_, fun o ho => ?_⟩
    · rw [Record.lookup_insert] at hr
      split_ifs at hr with hk
      · cases hr
        refine ⟨hk.symm, List.mem_append_right _ (List.mem_singleton_self _), fun o ho hok => ?_⟩
        rcases List.mem_append.mp ho with ho | ho
        · obtain ⟨prior, hpri⟩ := Option.isSome_iff_exists.mp (h.covers o ho)
          have hle := (h.held _ prior hpri).2.2 o ho rfl
          rw [hok, hk] at hpri
          rw [hpri, Option.any_some, decide_eq_true_iff] at hnewer
          exact hle.trans (not_lt.mp hnewer)
        · obtain rfl := List.mem_singleton.mp ho
          exact le_rfl
      · obtain ⟨hkey, hmem, hle⟩ := h.held k r hr
        refine ⟨hkey, List.mem_append_left _ hmem, fun o ho hok => ?_⟩
        rcases List.mem_append.mp ho with ho | ho
        · exact hle o ho hok
        · obtain rfl := List.mem_singleton.mp ho
          exact absurd hok.symm hk
    · rw [Record.lookup_insert]
      split_ifs with hk
      · rfl
      · rcases List.mem_append.mp ho with ho | ho
        · exact h.covers o ho
        · obtain rfl := List.mem_singleton.mp ho
          exact absurd rfl hk

theorem Newest.foldl (h : Newest given byAccount) (set : List CodexCapacityRoutingObservation) :
    Newest (given ++ set) (set.foldl keepNewest byAccount) := by
  induction set generalizing given byAccount with
  | nil =>
    rw [List.append_nil]
    exact h
  | cons _ _ ih =>
    rw [List.append_cons]
    exact ih h.keep

theorem Newest.isMerged (h : Newest given byAccount) : Merged given
    (byAccount.values.insertionSort fun left right => left.slot ≤ right.slot) := by
  have hmem : ∀ r, r ∈ byAccount.values.insertionSort (fun left right => left.slot ≤ right.slot) ↔
      byAccount.lookup r.accountIdHash = some r := by
    intro r
    rw [List.mem_insertionSort, Record.mem_values_iff]
    constructor
    · rintro ⟨k, hk⟩
      rw [(h.held k r hk).1]
      exact hk
    · exact fun hr => ⟨_, hr⟩
  refine ⟨fun r hr => ?_, fun r hr o ho hkey => ?_, fun o ho => ?_, ?_, ?_⟩
  · exact (h.held _ r ((hmem r).mp hr)).2.1
  · exact (h.held _ r ((hmem r).mp hr)).2.2 o ho hkey
  · obtain ⟨r, hr⟩ := Option.isSome_iff_exists.mp (h.covers o ho)
    have hkey := (h.held _ r hr).1
    exact ⟨r, (hmem r).mpr (by rw [hkey]; exact hr), hkey⟩
  · rw [((List.perm_insertionSort _ _).map _).nodup_iff]
    have hkeys : byAccount.values.map (·.accountIdHash) = byAccount.entries.map Prod.fst := by
      rw [Record.values, List.map_map]
      refine List.map_congr_left fun e he => ?_
      exact (h.held e.1 e.2 ((byAccount.mem_entries_iff e.1 e.2).mp he)).1
    rw [hkeys]
    exact byAccount.nodup
  · exact List.pairwise_insertionSort _ _

theorem merged_mergeCapacityObservations (sets : List (List CodexCapacityRoutingObservation)) :
    Merged sets.flatten (mergeCapacityObservations sets) := by
  unfold mergeCapacityObservations
  rw [← List.foldl_flatten]
  exact (List.nil_append sets.flatten ▸ Newest.empty.foldl sets.flatten).isMerged

theorem values_foldl_keepNewest : ∀ (set : List CodexCapacityRoutingObservation)
    (byAccount : Record String CodexCapacityRoutingObservation),
    (set.map (·.accountIdHash)).Nodup →
    (∀ o ∈ set, byAccount.lookup o.accountIdHash = none) →
    (set.foldl keepNewest byAccount).values = byAccount.values ++ set := by
  intro set
  induction set with
  | nil => exact fun byAccount _ _ => (List.append_nil _).symm
  | cons o _ ih =>
    intro byAccount honce hfr
    obtain ⟨hhead, hrest⟩ := List.nodup_cons.mp honce
    have hnew := hfr o List.mem_cons_self
    have hkeep : keepNewest byAccount o = byAccount.insert o.accountIdHash o := by
      unfold keepNewest
      rw [hnew]
      exact if_neg Bool.false_ne_true
    rw [List.foldl_cons, hkeep, ih _ hrest fun o' ho' => ?_]
    · rw [Record.values, Record.entries_insert_of_new hnew, List.map_append, List.append_assoc]
      rfl
    · have hne : o'.accountIdHash ≠ o.accountIdHash := by
        intro heq
        have hmem := List.mem_map_of_mem (f := fun o => o.accountIdHash) ho'
        rw [heq] at hmem
        exact hhead hmem
      rw [Record.lookup_insert_of_ne _ _ hne]
      exact hfr o' (List.mem_cons_of_mem _ ho')

theorem Merged.merge_self (h : Merged given merged) :
    mergeCapacityObservations [merged] = merged := by
  show (List.insertionSort _ (merged.foldl keepNewest Record.empty).values) = merged
  rw [values_foldl_keepNewest merged .empty h.once fun o _ => rfl]
  exact h.sorted.insertionSort_eq

/-! ### Order and grouping -/

/-- **The merge does not depend on order and grouping.**  It returns the same observations, the
newest of each account, listed by slot; accounts that share a slot may change places. -/
theorem mergeCapacityObservations_order_free
    {sets sets' : List (List CodexCapacityRoutingObservation)}
    (groups : List (List (List CodexCapacityRoutingObservation)))
    (htms : TimesDistinct sets.flatten)
    (heq : ∀ o, o ∈ sets.flatten ↔ o ∈ sets'.flatten) (hgrp : groups.flatten = sets) :
    Merged sets.flatten (mergeCapacityObservations sets) ∧
      (mergeCapacityObservations sets).Perm (mergeCapacityObservations sets') ∧
      (mergeCapacityObservations sets).Perm
        (mergeCapacityObservations (groups.map mergeCapacityObservations)) ∧
      (SlotsDistinct sets.flatten →
        mergeCapacityObservations sets = mergeCapacityObservations sets' ∧
        mergeCapacityObservations sets =
          mergeCapacityObservations (groups.map mergeCapacityObservations)) ∧
      mergeCapacityObservations [mergeCapacityObservations sets] =
        mergeCapacityObservations sets := by
  have hmgd := merged_mergeCapacityObservations sets
  have hmgd' := merged_mergeCapacityObservations sets'
  have hregrouped : Merged sets.flatten
      (mergeCapacityObservations (groups.map mergeCapacityObservations)) := by
    have hflat : sets.flatten = groups.flatMap List.flatten := by
      rw [← hgrp, List.flatMap, List.flatten_flatten]
    rw [hflat]
    refine Merged.regroup (f := mergeCapacityObservations)
      (fun g _ => merged_mergeCapacityObservations g) ?_
    exact merged_mergeCapacityObservations (groups.map mergeCapacityObservations)
  refine ⟨hmgd, hmgd.perm hmgd' htms heq,
    hmgd.perm hregrouped htms fun _ => Iff.rfl, fun hslt => ⟨?_, ?_⟩, ?_⟩
  · exact hmgd.eq hmgd' htms hslt heq
  · exact hmgd.eq hregrouped htms hslt fun _ => Iff.rfl
  · exact hmgd.merge_self

theorem mergeCapacityObservations_order_free_two :
    (mergeCapacityObservations [[sampleObservation "a" 1], [sampleObservation "a" 2]]).Perm
      (mergeCapacityObservations [[sampleObservation "a" 2, sampleObservation "a" 1]]) :=
  (mergeCapacityObservations_order_free
    [[[sampleObservation "a" 1]], [[sampleObservation "a" 2]]] (by decide)
    (fun o => by simp [or_comm]) rfl).2.1

/-- Two accounts whose observations name the same slot are listed as they were met. -/
theorem mergeCapacityObservations_order :
    TimesDistinct [sampleObservation "a" 1, sampleObservation "b" 1] ∧
      mergeCapacityObservations [[sampleObservation "a" 1], [sampleObservation "b" 1]] ≠
        mergeCapacityObservations [[sampleObservation "b" 1], [sampleObservation "a" 1]] := by
  decide

end UbqGateway.Codex
