-- SUMMARY: Which policies are candidates for a trigger, and the order in which they are tried.
import AudioPolicy.Engine
import Mathlib.Data.Prod.Lex
import Mathlib.Order.Basic

/-! # Candidates

The lookup filters the policies and sorts them by priority. The sort is stable, so the
index of a policy decides between equal priorities. To say this without the sort, a
policy is kept together with its index, and `rank` is the pair of the priority and the
index under the lexicographic order. The candidates are then the reacting policies in
strictly increasing rank. -/

namespace AudioPolicy

/-! ## Reacting to a trigger -/

/-- No trigger is of a catch-all kind, so its kind has an origin. -/
theorem Trigger.origin?_kind (t : Trigger) : t.kind.origin? = some t.origin := by
  cases t <;> rfl

/-- A declared kind covers a trigger if it is its kind or a catch-all for its origin. -/
theorem Trigger.Kind.covers_kind_iff (declared : Trigger.Kind) (t : Trigger) :
    declared.covers t.kind = true ↔
      declared = .any ∨ (declared = .userAll ∧ t.origin = .user) ∨
        (declared = .systemAll ∧ t.origin = .system) ∨ declared = t.kind := by
  have hany : t.kind ≠ .any := by cases t <;> exact Trigger.Kind.noConfusion
  have huser : t.kind ≠ .userAll := by cases t <;> exact Trigger.Kind.noConfusion
  have hsystem : t.kind ≠ .systemAll := by cases t <;> exact Trigger.Kind.noConfusion
  cases declared
  case any => simp [covers]
  case userAll => simp [covers, t.origin?_kind, huser.symm]
  case systemAll => simp [covers, t.origin?_kind, hsystem.symm]
  all_goals simp [covers]

/-- An enabled policy reacts to the triggers of the kinds it declares. A catch-all stands
    for every kind of its origin. -/
structure Policy.Reacts (p : Policy) (t : Trigger) : Prop where
  enabled : p.enabled = true
  declares : ∃ declared ∈ p.triggers,
    declared = .any ∨ (declared = .userAll ∧ t.origin = .user) ∨
      (declared = .systemAll ∧ t.origin = .system) ∨ declared = t.kind

theorem Policy.isCandidate_kind_iff {p : Policy} {t : Trigger} :
    p.isCandidate t.kind = true ↔ p.Reacts t := by
  simp only [Policy.isCandidate, Policy.covers, Bool.and_eq_true, List.any_eq_true,
    Trigger.Kind.covers_kind_iff]
  exact ⟨fun ⟨henabled, hdeclares⟩ => ⟨henabled, hdeclares⟩,
    fun h => ⟨h.enabled, h.declares⟩⟩

instance (p : Policy) (t : Trigger) : Decidable (p.Reacts t) :=
  decidable_of_iff _ Policy.isCandidate_kind_iff

/-! ## Ranks -/

/-- The place of an indexed policy in the order of the lookup: lower priority values go
    first, and lower indices among equal ones. -/
def rank (x : Policy × Nat) : Int ×ₗ Nat := toLex (x.1.priority.toInt, x.2)

/-- The comparison by which the lookup sorts. -/
def tryFirst (p q : Policy) : Bool := p.priority.toInt ≤ q.priority.toInt

theorem tryFirst_trans (p q r : Policy) : tryFirst p q → tryFirst q r → tryFirst p r := by
  simp only [tryFirst, decide_eq_true_eq]
  exact Int.le_trans

theorem tryFirst_total (p q : Policy) : tryFirst p q || tryFirst q p := by
  simp only [tryFirst, Bool.or_eq_true, decide_eq_true_eq]
  exact Int.le_total _ _

theorem rank_ne_of_lt {x y : Policy × Nat} (h : x.2 < y.2) : rank x ≠ rank y := fun heq =>
  Nat.ne_of_lt h (congrArg (fun r => (ofLex r).2) heq)

/-- For an earlier policy the rank compares as the priority does. -/
theorem rank_le_iff_of_lt {x y : Policy × Nat} (h : x.2 < y.2) :
    rank x ≤ rank y ↔ tryFirst x.1 y.1 = true := by
  simp only [rank, tryFirst, Prod.Lex.toLex_le_toLex, decide_eq_true_eq]
  omega

/-- The indexed policies in order of rank. -/
def byRank (xs : List (Policy × Nat)) : List (Policy × Nat) :=
  xs.mergeSort fun x y => decide (rank x ≤ rank y)

theorem rankLe_trans (x y z : Policy × Nat) :
    decide (rank x ≤ rank y) → decide (rank y ≤ rank z) → decide (rank x ≤ rank z) := by
  simp only [decide_eq_true_eq]
  exact le_trans

theorem rankLe_total (x y : Policy × Nat) :
    decide (rank x ≤ rank y) || decide (rank y ≤ rank x) := by
  simp only [Bool.or_eq_true, decide_eq_true_eq]
  exact le_total _ _

@[simp] theorem mem_byRank {x : Policy × Nat} {xs : List (Policy × Nat)} :
    x ∈ byRank xs ↔ x ∈ xs := List.mem_mergeSort

/-- Sorting policies whose indices are distinct leaves no two of equal rank. -/
theorem byRank_increasing {xs : List (Policy × Nat)} (h : xs.Pairwise fun x y => x.2 < y.2) :
    (byRank xs).Pairwise fun x y => rank x < rank y := by
  have hle : (byRank xs).Pairwise fun x y => rank x ≤ rank y :=
    (List.pairwise_mergeSort rankLe_trans rankLe_total xs).imp of_decide_eq_true
  have hne : (byRank xs).Pairwise fun x y => rank x ≠ rank y :=
    ((List.mergeSort_perm xs _).pairwise_iff Ne.symm).2 (h.imp rank_ne_of_lt)
  exact (hle.and hne).imp fun ⟨hle, hne⟩ => lt_of_le_of_ne hle hne

/-! ## The sort of the lookup -/

/-- A list has only one cut with a property false before it and true behind it. -/
theorem cut_unique {α : Type} (holds : α → Bool) {l₁ l₂ m₁ m₂ : List α}
    (h : l₁ ++ l₂ = m₁ ++ m₂)
    (hl₁ : ∀ a ∈ l₁, holds a = false) (hl₂ : ∀ a ∈ l₂, holds a = true)
    (hm₁ : ∀ a ∈ m₁, holds a = false) (hm₂ : ∀ a ∈ m₂, holds a = true) :
    l₁ = m₁ ∧ l₂ = m₂ := by
  have hbehind : l₂ = m₂ := by
    have hfilter := congrArg (List.filter holds) h
    have hbefore : l₁.filter holds = [] := List.filter_eq_nil_iff.2 (by simpa using hl₁)
    have hbefore' : m₁.filter holds = [] := List.filter_eq_nil_iff.2 (by simpa using hm₁)
    rwa [List.filter_append, List.filter_append, hbefore, hbefore', List.filter_eq_self.2 hl₂,
      List.filter_eq_self.2 hm₂] at hfilter
  subst hbehind
  exact ⟨List.append_cancel_right h, rfl⟩

/-- Sorting by rank and forgetting the indices is the stable sort by priority. -/
theorem map_fst_byRank {xs : List (Policy × Nat)} (h : xs.Pairwise fun x y => x.2 < y.2) :
    (byRank xs).map Prod.fst = (xs.map Prod.fst).mergeSort tryFirst := by
  induction xs with
  | nil => simp [byRank]
  | cons x xs ih =>
    obtain ⟨hx, hxs⟩ := List.pairwise_cons.1 h
    -- Both sorts put the first policy somewhere into the sorted others. The places agree
    -- since its index is the least: by rank or by priority, the same ones go before it.
    obtain ⟨l₁, l₂, hcons, hrest, hbefore⟩ :=
      List.mergeSort_cons rankLe_trans rankLe_total x xs
    obtain ⟨m₁, m₂, hcons', hrest', hbefore'⟩ :=
      List.mergeSort_cons tryFirst_trans tryFirst_total x.1 (xs.map Prod.fst)
    have hmem : ∀ y ∈ l₁ ++ l₂, x.2 < y.2 := fun y hy =>
      hx y (List.mem_mergeSort.1 (hrest ▸ hy))
    have hsorted := List.pairwise_mergeSort rankLe_trans rankLe_total (x :: xs)
    have hsorted' := List.pairwise_mergeSort tryFirst_trans tryFirst_total (x.1 :: xs.map Prod.fst)
    rw [hcons] at hsorted
    rw [hcons'] at hsorted'
    have hcut : l₁.map Prod.fst = m₁ ∧ l₂.map Prod.fst = m₂ := by
      refine cut_unique (tryFirst x.1) ?_ ?_ ?_ ?_ ?_
      · rw [← List.map_append, ← hrest, ← hrest']
        exact ih hxs
      · intro p hp
        obtain ⟨y, hy, rfl⟩ := List.mem_map.1 hp
        have hnot : ¬ rank x ≤ rank y := by simpa using hbefore y hy
        rw [rank_le_iff_of_lt (hmem y (List.mem_append_left _ hy))] at hnot
        exact Bool.eq_false_iff.2 hnot
      · intro p hp
        obtain ⟨y, hy, rfl⟩ := List.mem_map.1 hp
        have hle : rank x ≤ rank y :=
          of_decide_eq_true (List.rel_of_pairwise_cons (List.pairwise_append.1 hsorted).2.1 hy)
        exact (rank_le_iff_of_lt (hmem y (List.mem_append_right _ hy))).1 hle
      · intro p hp
        simpa using hbefore' p hp
      · intro p hp
        exact List.rel_of_pairwise_cons (List.pairwise_append.1 hsorted').2.1 hp
    rw [byRank, hcons, List.map_cons, hcons', List.map_append, List.map_cons, hcut.1, hcut.2]

/-! ## The lookup -/

/-- The indexed policies that react to a trigger, in the order in which they are tried. -/
def ranked (ps : List Policy) (t : Trigger) : List (Policy × Nat) :=
  byRank (ps.zipIdx.filter fun x => x.1.isCandidate t.kind)

theorem zipIdx_increasing {α : Type} (as : List α) (n : Nat) :
    (as.zipIdx n).Pairwise fun x y => x.2 < y.2 := by
  induction as generalizing n with
  | nil => exact List.Pairwise.nil
  | cons a as ih =>
    refine List.pairwise_cons.2 ⟨fun y hy => ?_, ih (n + 1)⟩
    exact (List.mem_zipIdx hy).1

theorem mem_ranked_iff {ps : List Policy} {t : Trigger} {x : Policy × Nat} :
    x ∈ ranked ps t ↔ ps[x.2]? = some x.1 ∧ x.1.Reacts t := by
  rw [ranked, mem_byRank, List.mem_filter, List.mem_zipIdx_iff_getElem?,
    Policy.isCandidate_kind_iff]

theorem ranked_increasing (ps : List Policy) (t : Trigger) :
    (ranked ps t).Pairwise fun x y => rank x < rank y :=
  byRank_increasing ((zipIdx_increasing ps 0).filter _)

/-- The candidates are the reacting policies in order of rank. -/
theorem Store.candidates_eq_ranked {store : Store} (h : store.reason? = none) (t : Trigger) :
    store.candidates t.kind = .ok ((ranked store.policies t).map Prod.fst) := by
  cases store with
  | unavailable reason => cases h
  | loaded c distinct =>
    have hfilter : (c.policies.zipIdx.filter fun x => x.1.isCandidate t.kind).map Prod.fst =
        c.policies.filter (Policy.isCandidate t.kind) := by
      calc (c.policies.zipIdx.filter (Policy.isCandidate t.kind ∘ Prod.fst)).map Prod.fst
          = (c.policies.zipIdx.map Prod.fst).filter (Policy.isCandidate t.kind) :=
            List.filter_map.symm
        _ = c.policies.filter (Policy.isCandidate t.kind) := by rw [List.zipIdx_map_fst]
    rw [ranked, map_fst_byRank ((zipIdx_increasing _ 0).filter _)]
    exact congrArg (fun ps => Except.ok (ps.mergeSort tryFirst)) hfilter.symm

/-- A strict lookup that finds no policy is rejected. -/
def LookupRejected (store : Store) (t : Trigger) : Prop :=
  store.options.strictLookup = true ∧ ∀ p ∈ store.policies, ¬ p.Reacts t

instance (store : Store) (t : Trigger) : Decidable (LookupRejected store t) :=
  inferInstanceAs (Decidable (_ ∧ _))

theorem ranked_eq_nil_iff {ps : List Policy} {t : Trigger} :
    ranked ps t = [] ↔ ∀ p ∈ ps, ¬ p.Reacts t := by
  rw [List.eq_nil_iff_forall_not_mem]
  constructor
  · intro h p hp hreacts
    obtain ⟨i, hi⟩ := List.mem_iff_getElem?.1 hp
    exact h (p, i) (mem_ranked_iff.2 ⟨hi, hreacts⟩)
  · intro h x hx
    obtain ⟨hx, hreacts⟩ := mem_ranked_iff.1 hx
    exact h x.1 (List.mem_of_getElem? hx) hreacts

/-- The lookup of a loaded store is rejected or gives the ranked policies. -/
theorem Engine.candidates_loaded {store : Store} (h : store.reason? = none) (t : Trigger) :
    candidates store t.kind =
      if LookupRejected store t then .error (.noPolicy t.kind)
      else .ok ((ranked store.policies t).map Prod.fst) := by
  have hempty : ((ranked store.policies t).map Prod.fst).isEmpty = true ↔
      ∀ p ∈ store.policies, ¬ p.Reacts t := by
    rw [List.isEmpty_iff, List.map_eq_nil_iff, ranked_eq_nil_iff]
  rw [candidates, Store.candidates_eq_ranked h]
  refine if_congr ?_ rfl rfl
  rw [Bool.and_eq_true, hempty, and_comm]
  exact Iff.rfl

end AudioPolicy
