-- SUMMARY: Reordered declarations answer every lookup alike and list the same names.
import AudioPolicy.Proofs.Store
import AudioPolicy.Query
import Mathlib.Data.List.Sort

/-! # Reordered declarations

A configuration may declare the same elements in another order. Since names are unique, a
lookup by name finds the same declaration whatever the order is. Sorted lists do not depend
on it either. What remains of the order is the order in which the names are listed. -/

namespace AudioPolicy

/-! ## Reordered lists -/

section
variable {as bs : List String}

/-- Sorted texts do not depend on the order in which they were given. -/
theorem mergeSort_eq_of_perm (h : as.Perm bs) :
    as.mergeSort (fun a b => decide (a ≤ b)) = bs.mergeSort fun a b => decide (a ≤ b) := by
  have hperm (cs : List String) : (cs.mergeSort fun a b => decide (a ≤ b)).Perm cs :=
    List.mergeSort_perm cs _
  have hsorted (cs : List String) :
      (cs.mergeSort fun a b => decide (a ≤ b)).Pairwise fun a b => a ≤ b :=
    List.pairwise_mergeSort' (fun a b => a ≤ b) cs
  exact ((hperm as).trans (h.trans (hperm bs).symm)).eq_of_pairwise' (hsorted as) (hsorted bs)

/-- A list without two different elements has only one order. -/
theorem eq_of_perm_of_same {α : Type} {as bs : List α} (h : as.Perm bs)
    (hsame : ∀ a ∈ as, ∀ b ∈ as, a = b) : as = bs := by
  have hpairwise (cs : List α) : cs.Pairwise fun _ _ => True :=
    List.pairwise_of_forall fun _ _ => trivial
  exact h.eq_of_pairwise (fun a b ha hb _ _ => hsame a ha b (h.mem_iff.2 hb)) (hpairwise as)
    (hpairwise bs)

theorem nodup_eraseDups (as : List String) : as.eraseDups.Nodup := by
  induction hlength : as.length using Nat.strong_induction_on generalizing as with
  | h n ih =>
    cases as with
    | nil => exact List.nodup_nil
    | cons a as =>
      have hrest : (as.filter fun b => !b == a).length < n := by
        have hle := List.length_filter_le (fun b => !b == a) as
        simp at hlength
        omega
      simp only [List.eraseDups_cons, List.nodup_cons, List.mem_eraseDups]
      exact ⟨by simp, ih _ hrest _ rfl⟩

theorem eraseDups_eq_self (h : as.Nodup) : as.eraseDups = as := by
  induction as with
  | nil => rfl
  | cons a as ih =>
    obtain ⟨ha, has⟩ := List.nodup_cons.1 h
    have hfilter : as.filter (fun b => !b == a) = as :=
      List.filter_eq_self.2 fun b hb => by simpa using ne_of_mem_of_not_mem hb ha
    rw [List.eraseDups_cons, hfilter, ih has]

theorem perm_eraseDups (h : as.Perm bs) : as.eraseDups.Perm bs.eraseDups := by
  simp [List.perm_ext_iff_of_nodup (nodup_eraseDups as) (nodup_eraseDups bs), h.mem_iff]

end

/-- Among things with distinct names a search by name does not depend on the order. -/
theorem find?_name_of_perm {α : Type} {name : α → String} {as bs : List α} (h : as.Perm bs)
    (hnodup : (as.map name).Nodup) (n : String) :
    as.find? (fun a => name a == n) = bs.find? fun a => name a == n := by
  have hnodup' : (bs.map name).Nodup := (h.map name).nodup_iff.1 hnodup
  apply Option.ext
  intro a
  simp only [find?_name_eq_some_iff hnodup, find?_name_eq_some_iff hnodup', h.mem_iff]

/-! ## Configurations and stores -/

/-- The configurations differ at most in the order of their declarations. -/
structure Configuration.Permuted (c c' : Configuration) : Prop where
  sources : c.sources.Perm c'.sources
  sinks : c.sinks.Perm c'.sinks
  domains : c.domains.Perm c'.domains
  gateways : c.gateways.Perm c'.gateways
  classes : c.classes.Perm c'.classes
  policies : c.policies = c'.policies
  systemProperties : c.systemProperties = c'.systemProperties
  options : c.options = c'.options

namespace Configuration

theorem duplicate?_eq_none_iff {c : Configuration} :
    c.duplicate? = none ↔ ∀ kind, (c.declaredNames kind).Nodup := by
  refine ⟨nodup_declaredNames, fun h => ?_⟩
  unfold duplicate?
  simp only [List.findSome?_eq_none_iff, Option.map_eq_none_iff, firstRepeated?_eq_none_iff]
  exact fun kind _ => ⟨h kind, fun _ _ => List.not_mem_nil⟩

theorem Permuted.symm {c c' : Configuration} (h : c.Permuted c') : c'.Permuted c :=
  ⟨h.sources.symm, h.sinks.symm, h.domains.symm, h.gateways.symm, h.classes.symm,
    h.policies.symm, h.systemProperties.symm, h.options.symm⟩

/-- The order of the declarations does not matter to whether a configuration is valid. -/
theorem Permuted.duplicate?_eq_none {c c' : Configuration} (h : c.Permuted c')
    (hvalid : c.duplicate? = none) : c'.duplicate? = none := by
  simp only [duplicate?_eq_none_iff] at hvalid ⊢
  intro kind
  have hnames : (c.declaredNames kind).Perm (c'.declaredNames kind) := by
    cases kind with
    | sink => exact h.sinks.map _
    | source => exact h.sources.map _
    | domain => exact h.domains.map _
    | gateway => exact h.gateways.map _
    | class_ => exact h.classes.map _
    | connection => exact .refl _
  exact hnames.nodup_iff.1 (hvalid kind)

/-- The configuration with all declarations in reverse order. -/
def reversed (c : Configuration) : Configuration :=
  { c with
    sources := c.sources.reverse
    sinks := c.sinks.reverse
    domains := c.domains.reverse
    gateways := c.gateways.reverse
    classes := c.classes.reverse }

theorem permuted_reversed (c : Configuration) : c.Permuted c.reversed where
  sources := (List.reverse_perm _).symm
  sinks := (List.reverse_perm _).symm
  domains := (List.reverse_perm _).symm
  gateways := (List.reverse_perm _).symm
  classes := (List.reverse_perm _).symm
  policies := rfl
  systemProperties := rfl
  options := rfl

end Configuration

theorem Store.names_reversed {c : Configuration} (h : c.duplicate? = none)
    (h' : c.reversed.duplicate? = none) (kind : ElementKind) :
    (loaded c.reversed h').names kind = ((loaded c h).names kind).reverse := by
  cases kind <;>
    simp [names, sinks, sources, domains, gateways, classes, configuration,
      Configuration.reversed]

/-- The stores hold configurations that differ at most in the order of their declarations. -/
def Store.Permuted (s s' : Store) : Prop := s.configuration.Permuted s'.configuration

namespace Store

theorem Permuted.refl (s : Store) : s.Permuted s :=
  ⟨.refl _, .refl _, .refl _, .refl _, .refl _, rfl, rfl, rfl⟩

variable {s s' : Store} (h : s.Permuted s')

include h

namespace Permuted

theorem sinks_perm : s.sinks.Perm s'.sinks := h.sinks.filter _

theorem sources_perm : s.sources.Perm s'.sources := h.sources.filter _

theorem names_perm (kind : ElementKind) : (s.names kind).Perm (s'.names kind) := by
  cases kind with
  | sink => exact h.sinks_perm.map _
  | source => exact h.sources_perm.map _
  | domain => exact (h.domains.filter _).map _
  | gateway => exact (h.gateways.filter _).map _
  | class_ => exact (h.classes.filter _).map _
  | connection => exact .refl _

theorem sink?_eq : s.sink? = s'.sink? :=
  funext (find?_name_of_perm h.sinks_perm (s.nodup_names .sink))

theorem source?_eq : s.source? = s'.source? :=
  funext (find?_name_of_perm h.sources_perm (s.nodup_names .source))

theorem gateway?_eq : s.gateway? = s'.gateway? :=
  funext (find?_name_of_perm (h.gateways.filter _) (s.nodup_names .gateway))

theorem declaredClass?_eq : s.declaredClass? = s'.declaredClass? :=
  funext (find?_name_of_perm (h.classes.filter _) (s.nodup_names .class_))

theorem classOf?_eq : s.classOf? = s'.classOf? := by
  funext kind name
  cases kind <;> simp [classOf?, h.sink?_eq, h.source?_eq]

theorem domainOf?_eq : s.domainOf? = s'.domainOf? := by
  funext kind name
  cases kind <;> simp [domainOf?, h.sink?_eq, h.source?_eq, h.gateway?_eq]

end Permuted
end Store
end AudioPolicy
