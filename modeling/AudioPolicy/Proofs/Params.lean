-- SUMMARY: Lookups in parameters, and the parameters of an action that is given by pairs.
import AudioPolicy.Action
import Mathlib.Data.List.Nodup

/-! # Lookups in parameters

Insertion is described by its effect on every lookup. Where the keys of a list of pairs
are distinct, each pair can be read back from the parameters made of the list. -/

namespace AudioPolicy

namespace Params

theorem lookup_cons_eq_ite (entry : String × String) (entries : List (String × String))
    (k : String) :
    (entry :: entries).lookup k = if k = entry.1 then some entry.2 else entries.lookup k := by
  rw [List.lookup_cons]
  by_cases hk : k = entry.1
  · rw [beq_iff_eq.2 hk, if_pos hk]
  · rw [beq_eq_false_iff_ne.2 hk, if_neg hk]

theorem lookup_insertEntry (key value : String) (entries : List (String × String)) (k : String) :
    (insertEntry key value entries).lookup k =
      if k = key then some value else entries.lookup k := by
  induction entries with
  | nil => exact lookup_cons_eq_ite (key, value) [] k
  | cons entry entries ih =>
    rw [insertEntry]
    split
    next => exact lookup_cons_eq_ite (key, value) (entry :: entries) k
    next =>
      split
      next hkey =>
        -- The new entry takes the place of one with the same key.
        rw [lookup_cons_eq_ite, lookup_cons_eq_ite entry, ← hkey]
        split <;> rfl
      next hkey =>
        rw [lookup_cons_eq_ite, lookup_cons_eq_ite entry, ih]
        by_cases hk : k = entry.1
        · have hne : k ≠ key := fun h => hkey (h.symm.trans hk)
          rw [if_pos hk, if_pos hk, if_neg hne]
        · rw [if_neg hk, if_neg hk]

@[simp] theorem get?_empty (k : String) : empty.get? k = none := rfl

theorem get?_insert (ps : Params) (key value k : String) :
    (ps.insert key value).get? k = if k = key then some value else ps.get? k :=
  lookup_insertEntry key value ps.entries k

theorem get?_insertIfNew (ps : Params) (key value k : String) :
    (ps.insertIfNew key value).get? k =
      if k = key then (ps.get? k).or (some value) else ps.get? k := by
  unfold insertIfNew has
  split
  next hsome =>
    obtain ⟨old, hold⟩ := Option.isSome_iff_exists.1 hsome
    by_cases hk : k = key <;> simp [hk, hold]
  next hnone =>
    rw [Option.not_isSome_iff_eq_none] at hnone
    by_cases hk : k = key <;> simp [get?_insert, hk, hnone]

theorem get?_foldl_insert (ps : Params) (pairs : List (String × String)) (k : String) :
    (pairs.foldl (fun ps (key, value) => ps.insert key value) ps).get? k =
      (pairs.reverse.lookup k).or (ps.get? k) := by
  induction pairs generalizing ps with
  | nil => simp
  | cons pair pairs ih =>
    rw [List.foldl_cons, ih, get?_insert, List.reverse_cons, List.lookup_append,
      List.lookup_singleton, Option.or_assoc]
    congr 1
    by_cases hk : k = pair.1 <;> simp [hk]

/-- Of several pairs with one key the last counts. -/
theorem get?_ofList (pairs : List (String × String)) (k : String) :
    (ofList pairs).get? k = pairs.reverse.lookup k := by
  rw [ofList, get?_foldl_insert, get?_empty, Option.or_none]

/-- Under distinct keys every pair can be read back. -/
theorem get?_ofList_of_mem {pairs : List (String × String)} (h : (pairs.map Prod.fst).Nodup)
    {key value : String} (hmem : (key, value) ∈ pairs) :
    (ofList pairs).get? key = some value := by
  rw [get?_ofList, List.lookup_eq_some_iff]
  obtain ⟨before, behind, rfl⟩ := List.append_of_mem hmem
  refine ⟨behind.reverse, before.reverse, by simp, fun pair hpair => ?_⟩
  have hkeys := (List.nodup_append.1 (List.map_append ▸ h)).2.1
  rw [List.map_cons, List.nodup_cons] at hkeys
  have hne : key ≠ pair.1 := fun heq =>
    hkeys.1 (List.mem_map.2 ⟨pair, List.mem_reverse.1 hpair, heq.symm⟩)
  simpa using hne

theorem nodup_keys (ps : Params) : (ps.entries.map Prod.fst).Nodup := by
  rw [List.nodup_iff_pairwise_ne, List.pairwise_map]
  refine ps.increasing.imp fun hlt heq => ?_
  rw [heq] at hlt
  exact String.lt_irrefl _ hlt

/-- Where each value becomes what `change` makes of it, so does the value under a key. -/
theorem get?_ofList_map (ps : Params) (change : String → String → String) (key : String) :
    (ofList (ps.entries.map fun entry => (entry.1, change entry.1 entry.2))).get? key =
      (ps.get? key).map (change key) := by
  let changed := ps.entries.map fun entry => (entry.1, change entry.1 entry.2)
  have hkeys : changed.map Prod.fst = ps.entries.map Prod.fst := by
    rw [List.map_map]
    rfl
  cases hold : ps.get? key with
  | some old =>
    obtain ⟨before, behind, hentries, -⟩ := List.lookup_eq_some_iff.1 hold
    have hmem : (key, old) ∈ ps.entries := by
      rw [hentries]
      exact List.mem_append_right _ List.mem_cons_self
    exact get?_ofList_of_mem (hkeys ▸ ps.nodup_keys) (List.mem_map.2 ⟨(key, old), hmem, rfl⟩)
  | none =>
    rw [get?_ofList, Option.map_none, List.lookup_eq_none_iff]
    intro entry hentry
    obtain ⟨source, hsource, rfl⟩ := List.mem_map.1 (List.mem_reverse.1 hentry)
    exact List.lookup_eq_none_iff.1 hold source hsource

end Params

namespace Action

theorem param?_ofPairs_of_mem (kind : Kind) {pairs : List (String × String)}
    (h : (pairs.map Prod.fst).Nodup) {key value : String} (hmem : (key, value) ∈ pairs) :
    (ofPairs kind pairs).param? key = some value :=
  Params.get?_ofList_of_mem h hmem

theorem param?_ofPairs_eq_none (kind : Kind) {pairs : List (String × String)} {key : String}
    (h : key ∉ pairs.map Prod.fst) : (ofPairs kind pairs).param? key = none := by
  have hlookup : pairs.reverse.lookup key = none := by
    rw [List.lookup_eq_none_iff]
    intro pair hpair
    have hne : key ≠ pair.1 := fun heq =>
      h (List.mem_map.2 ⟨pair, List.mem_reverse.1 hpair, heq.symm⟩)
    simpa using hne
  exact (Params.get?_ofList pairs key).trans hlookup

end Action
end AudioPolicy
