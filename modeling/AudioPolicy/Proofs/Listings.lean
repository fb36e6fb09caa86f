-- SUMMARY: A listing of connections holds what is selected, each once, in the order asked for.
import AudioPolicy.Graph
import Mathlib.Data.List.Nodup

/-! # Listings of connections

The graph keeps its connections in the order in which they were made. A token says in which
order they are listed instead. Orders by priority are stable sorts, so the older one of two
connections with the same priority comes first under both of them. `Precedes` says this for two
connections, and `Listing` for a whole listing. -/

namespace AudioPolicy

/-- In a list that is sorted by a key what comes first has the lesser key, or it has the same key
    and came first before. -/
theorem pairwise_mergeSort_key {α : Type} (key : α → Int) (as : List α) :
    (as.mergeSort fun a b => key a ≤ key b).Pairwise fun a b =>
      key a < key b ∨ key a = key b ∧ [a, b].Sublist as := by
  have htrans (a b c : α) : decide (key a ≤ key b) → decide (key b ≤ key c) →
      decide (key a ≤ key c) := by
    simp only [decide_eq_true_eq]
    exact Int.le_trans
  have htotal (a b : α) : (decide (key a ≤ key b) || decide (key b ≤ key a)) = true := by
    simp only [Bool.or_eq_true, decide_eq_true_eq]
    exact Int.le_total _ _
  induction as with
  | nil => simp
  | cons first as ih =>
    -- The first element gets behind those with lesser keys, and before all others.
    obtain ⟨lesser, rest, hcons, hsort, hlesser⟩ := List.mergeSort_cons htrans htotal first as
    have hsorted := List.pairwise_mergeSort htrans htotal (first :: as)
    rw [hsort] at ih
    rw [hcons] at hsorted ⊢
    have hothers : (lesser ++ rest).Pairwise fun a b =>
        key a < key b ∨ key a = key b ∧ [a, b].Sublist (first :: as) :=
      ih.imp fun h => h.imp_right fun ⟨heq, holder⟩ => ⟨heq, holder.cons first⟩
    obtain ⟨hbefore, hbehind, hacross⟩ := List.pairwise_append.1 hothers
    refine List.pairwise_append.2 ⟨hbefore, List.pairwise_cons.2 ⟨fun b hb => ?_, hbehind⟩, ?_⟩
    · have hle : key first ≤ key b :=
        of_decide_eq_true (List.rel_of_pairwise_cons (List.pairwise_append.1 hsorted).2.1 hb)
      have hmem : b ∈ as := List.mem_mergeSort.1 (hsort ▸ List.mem_append_right lesser hb)
      exact (Int.lt_or_eq_of_le hle).imp_right fun heq =>
        ⟨heq, (List.singleton_sublist.2 hmem).cons_cons first⟩
    · intro a ha b hb
      rcases List.mem_cons.1 hb with rfl | hb
      · exact .inl (by simpa using hlesser a ha)
      · exact hacross a ha b hb

/-! ## Orders -/

namespace Graph

/-- The graph has both connections, and the first one was made before the second. -/
def Older (g : Graph) (a b : Connection) : Prop := [a, b].Sublist g.connections

/-- Under a token the first connection is listed before the second. -/
inductive Precedes (g : Graph) : String → Connection → Connection → Prop
  | unordered {a b : Connection} : g.Older a b → g.Precedes "O_UNORDERED" a b
  | oldest {a b : Connection} : g.Older a b → g.Precedes "O_OLDEST" a b
  | newest {a b : Connection} : g.Older b a → g.Precedes "O_NEWEST" a b
  | higher {a b : Connection} : a.priority < b.priority → g.Precedes "O_HIGH_PRIORITY" a b
  | higherTied {a b : Connection} : a.priority = b.priority → g.Older a b →
      g.Precedes "O_HIGH_PRIORITY" a b
  | lower {a b : Connection} : b.priority < a.priority → g.Precedes "O_LOW_PRIORITY" a b
  | lowerTied {a b : Connection} : a.priority = b.priority → g.Older a b →
      g.Precedes "O_LOW_PRIORITY" a b

/-- The connections of the graph with a property, each once and in the order of a token. -/
structure Listing (g : Graph) (token : String) (P : Connection → Prop)
    (cs : List Connection) : Prop where
  mem_iff : ∀ c, c ∈ cs ↔ c ∈ g.connections ∧ P c
  once : cs.Nodup
  ordered : cs.Pairwise (g.Precedes token)

theorem Listing.congr {g : Graph} {token : String} {P Q : Connection → Prop}
    {cs : List Connection} (h : g.Listing token P cs) (hiff : ∀ c, P c ↔ Q c) :
    g.Listing token Q cs :=
  ⟨fun c => (h.mem_iff c).trans (and_congr_right fun _ => hiff c), h.once, h.ordered⟩

section
variable {g : Graph} (selects : Connection → Bool)

theorem pairwise_older_filter : (g.connections.filter selects).Pairwise g.Older :=
  List.pairwise_iff_forall_sublist.2 fun h => h.trans List.filter_sublist

/-- The listing of the selected connections is in the order that its token stands for. -/
theorem pairwise_arrange (order : Connection.Order) :
    (order.arrange (g.connections.filter selects)).Pairwise (g.Precedes (Spelled.word order)) := by
  have holder := pairwise_older_filter (g := g) selects
  cases order with
  | unordered => exact holder.imp .unordered
  | oldest => exact holder.imp .oldest
  | newest => exact List.pairwise_reverse.2 (holder.imp .newest)
  | highPriority =>
    refine (pairwise_mergeSort_key (fun c : Connection => c.priority.toInt) _).imp ?_
    rintro a b (hlt | ⟨heq, hsublist⟩)
    · exact .higher (Int32.lt_iff_toInt_lt.2 hlt)
    · exact .higherTied (Int32.toInt_inj.1 heq) (hsublist.trans List.filter_sublist)
  | lowPriority =>
    have hkey : (fun a b : Connection => decide (b.priority.toInt ≤ a.priority.toInt)) =
        fun a b => decide (-a.priority.toInt ≤ -b.priority.toInt) := by
      simp only [Int.neg_le_neg_iff]
    rw [Connection.Order.arrange, hkey]
    refine (pairwise_mergeSort_key (fun c : Connection => -c.priority.toInt) _).imp ?_
    rintro a b (hlt | ⟨heq, hsublist⟩)
    · exact .lower (Int32.lt_iff_toInt_lt.2 (Int.neg_lt_neg_iff.1 hlt))
    · exact .lowerTied (Int32.toInt_inj.1 (Int.neg_inj.1 heq)) (hsublist.trans List.filter_sublist)

theorem arrange_perm (order : Connection.Order) (cs : List Connection) :
    (order.arrange cs).Perm cs := by
  cases order with
  | unordered | oldest => exact .refl cs
  | newest => exact List.reverse_perm cs
  | highPriority | lowPriority => exact List.mergeSort_perm cs _

/-- Under distinct names a listing is exact. -/
theorem listing_connectionsBy (h : (g.connections.map (·.name)).Nodup)
    (filter : Connection.Filter) (order : Connection.Order) :
    g.Listing (Spelled.word order) (fun c => filter.selects c = true)
      (g.connectionsBy filter order) := by
  have hperm := arrange_perm order (g.connections.filter filter.selects)
  refine ⟨fun c => ?_, ?_, pairwise_arrange filter.selects order⟩
  · exact hperm.mem_iff.trans List.mem_filter
  · exact hperm.nodup_iff.2 ((h.of_map _).filter _)

end
end Graph
end AudioPolicy
