-- SUMMARY: A condition and its complement are never both true, and one is if both sides compare.
import AudioPolicy.Proofs.Membership
import AudioPolicy.Proofs.NumericConditions

/-! # Complementary conditions

Every operator has a complement that accepts what it does not accept. A condition that cannot
be decided is false, and so is its complement. Where both sides have values that the operator
can compare, one of the two is true and the other is false. -/

namespace AudioPolicy

open Numeral (Canonical)
open AudioPolicy.Symbol (Denotes number?_eq_some_iff)

/-! ## Operators -/

namespace Operator

/-- The operator that says the contrary. -/
def complement : Operator → Operator
  | .equal => .notEqual
  | .notEqual => .equal
  | .greater => .lessEqual
  | .lessEqual => .greater
  | .less => .greaterEqual
  | .greaterEqual => .less
  | .includes => .excludes
  | .excludes => .includes

variable {op : Operator}

@[simp] theorem complement_complement : op.complement.complement = op := by
  cases op <;> rfl

@[simp] theorem isMembership_complement : op.complement.isMembership = op.isMembership := by
  cases op <;> rfl

theorem accepts_complement (h : op.isMembership = false) (o : Ordering) :
    op.complement.accepts o = !op.accepts o := by
  cases op with
  | includes | excludes => cases h
  | _ => cases o <;> rfl

/-! ## Comparisons -/

/-- The operator can compare values with a text. Only membership can do without a value, and
    only membership among numbers can do without a number. -/
structure Compares (op : Operator) (type : ValueType) (values : List String) (text : String) :
    Prop where
  some_value : op.isMembership = false → values ≠ []
  number : op.isMembership = false → type = .numeric → ∃ n, Denotes text n

variable {type : ValueType} {values : List String} {text : String}

theorem compares_complement_iff :
    op.complement.Compares type values text ↔ op.Compares type values text := by
  have himp {op : Operator} (h : op.Compares type values text) :
      op.complement.Compares type values text :=
    ⟨fun hop => h.some_value (isMembership_complement ▸ hop),
      fun hop => h.number (isMembership_complement ▸ hop)⟩
  refine ⟨fun h => ?_, himp⟩
  have htwice := himp h
  rwa [complement_complement] at htwice

theorem compare_eq_order (h : op.isMembership = false) (first : String) (others : List String) :
    op.compare type (first :: others) text = (type.order first text).map op.accepts := by
  cases op with
  | includes | excludes => cases h
  | _ => rfl

theorem compare_nil (h : op.isMembership = false) : op.compare type [] text = .ok false := by
  cases op with
  | includes | excludes => cases h
  | _ => rfl

theorem compare_membership (h : op.isMembership = true) :
    ∃ result, op.compare type values text = .ok result ∧
      op.complement.compare type values text = .ok !result := by
  cases op with
  | includes => exact ⟨_, rfl, rfl⟩
  | excludes => exact ⟨_, rfl, congrArg Except.ok (Bool.not_not _).symm⟩
  | _ => cases h

/-- Where values can be compared with a text, complementary operators have contrary results. -/
theorem Compares.compare_complement (h : op.Compares type values text)
    (hcanonical : type = .numeric → ∀ v ∈ values, Canonical v) :
    ∃ result, op.compare type values text = .ok result ∧
      op.complement.compare type values text = .ok !result := by
  cases hop : op.isMembership with
  | true => exact compare_membership hop
  | false =>
    have hcomplement : op.complement.isMembership = false := isMembership_complement.trans hop
    cases values with
    | nil => exact absurd rfl (h.some_value hop)
    | cons first others =>
      have horder : ∃ o, type.order first text = .ok o := by
        cases type with
        | text => exact ⟨_, rfl⟩
        | numeric =>
          obtain ⟨m, hfirst, -⟩ := hcanonical rfl first List.mem_cons_self
          obtain ⟨n, hn⟩ := h.number hop rfl
          simp only [ValueType.order, hfirst, number?_eq_some_iff.2 hn]
          exact ⟨_, rfl⟩
      obtain ⟨o, ho⟩ := horder
      refine ⟨op.accepts o, ?_, ?_⟩
      · rw [compare_eq_order hop, ho]
        rfl
      · rw [compare_eq_order hcomplement, ho, ← accepts_complement hop]
        rfl

/-- Values that cannot be compared with a text never compare as true with it. -/
theorem compares_of_compare (h : op.compare type values text = .ok true) :
    op.Compares type values text := by
  cases hop : op.isMembership with
  | true => exact ⟨fun hnot => absurd hop (by simp [hnot]), fun hnot => absurd hop (by simp [hnot])⟩
  | false =>
    cases values with
    | nil =>
      rw [compare_nil hop] at h
      cases h
    | cons first others =>
      refine ⟨fun _ => List.cons_ne_nil _ _, fun _ hnumeric => ?_⟩
      subst hnumeric
      rw [compare_eq_order hop] at h
      cases hnumber : Symbol.number? text with
      | some n => exact ⟨n, number?_eq_some_iff.1 hnumber⟩
      | none =>
        simp only [ValueType.order, hnumber] at h
        cases hleft : Symbol.number? first <;> simp [hleft, Except.map] at h

end Operator

/-! ## Sides of a condition -/

namespace Evaluation

variable {scope : Scope} {left : Call} {op : Operator} {right : Operand} {text : String}

/-- The text of the right side of a condition. A call has its first value as its text, if it
    has any. -/
inductive HasText (scope : Scope) : Operand → String → Prop
  | quoted {text : String} : HasText scope (.literal ⟨text, true⟩) text
  | plain {text : String} :
      HasText scope (.literal ⟨text, false⟩) (Placeholder.substitute scope.trigger text)
  | call {call : Call} {value : String} {others : List String} :
      outcome (values scope call) = .ok (value :: others) → HasText scope (.call call) value

theorem hasText_iff :
    HasText scope right text ↔ outcome (rightValue scope right) = .ok (some text) := by
  constructor
  · intro h
    cases h with
    | quoted => rfl
    | plain => rfl
    | call hvalues =>
      rw [rightValue, outcome_bind, hvalues]
      rfl
  · intro h
    cases right with
    | literal a =>
      obtain ⟨written, quoted⟩ := a
      cases quoted with
      | true =>
        obtain rfl : written = text := by simpa [rightValue] using h
        exact .quoted
      | false =>
        have hresolved : outcome (rightValue scope (.literal ⟨written, false⟩)) =
            .ok (some (Placeholder.substitute scope.trigger written)) := rfl
        rw [hresolved] at h
        cases h
        exact .plain
    | call call =>
      rw [rightValue, outcome_bind] at h
      cases hvalues : outcome (values scope call) with
      | error f => simp [hvalues, bind, Except.bind] at h
      | ok values =>
        cases values with
        | nil => simp [hvalues, bind, Except.bind] at h
        | cons value others =>
          obtain rfl : value = text := by simpa [hvalues, bind, Except.bind] using h
          exact .call hvalues

theorem exists_functionOf {values : List String}
    (h : outcome (Evaluation.values scope left) = .ok values) :
    ∃ function, functionOf left = .ok function := by
  rw [outcome_values_eq_answer] at h
  unfold queryOf at h
  cases hfunction : functionOf left with
  | ok function => exact ⟨function, rfl⟩
  | error f => simp [hfunction, bind, Except.bind] at h

/-- Both sides of a condition have values, and its operator can compare them. -/
inductive Comparable (scope : Scope) (left : Call) (op : Operator) (right : Operand) : Prop
  | intro {function : Function} {values : List String} {text : String} :
      functionOf left = .ok function → outcome (Evaluation.values scope left) = .ok values →
      HasText scope right text → op.Compares function.valueType values text →
      Comparable scope left op right

/-- A condition on sides that have values is decided by comparing these. -/
theorem outcome_decide_of_values {function : Function} {values : List String}
    (hfunction : functionOf left = .ok function)
    (hvalues : outcome (Evaluation.values scope left) = .ok values)
    (htext : HasText scope right text) :
    outcome (decide scope ⟨left, op, right⟩) = op.compare function.valueType values text := by
  rw [outcome_decide, hvalues, hasText_iff.1 htext, hfunction]
  rfl

/-- Only what can be compared holds. -/
theorem comparable_of_holds (h : (holds scope ⟨left, op, right⟩).value = true) :
    Comparable scope left op right := by
  rw [value_holds_iff] at h
  cases hvalues : outcome (values scope left) with
  | error f =>
    rw [outcome_decide, hvalues] at h
    cases h
  | ok values =>
    obtain ⟨function, hfunction⟩ := exists_functionOf hvalues
    cases hright : outcome (rightValue scope right) with
    | error f =>
      rw [outcome_decide, hvalues, hright] at h
      cases h
    | ok text? =>
      cases text? with
      | none =>
        rw [outcome_decide, hvalues, hright] at h
        cases h
      | some text =>
        have htext := hasText_iff.2 hright
        rw [outcome_decide_of_values hfunction hvalues htext] at h
        exact .intro hfunction hvalues htext (Operator.compares_of_compare h)

theorem comparable_complement_iff :
    Comparable scope left op.complement right ↔ Comparable scope left op right := by
  constructor
  all_goals
    rintro ⟨hfunction, hvalues, htext, hcompares⟩
    refine .intro hfunction hvalues htext ?_
  · exact Operator.compares_complement_iff.1 hcompares
  · exact Operator.compares_complement_iff.2 hcompares

theorem Comparable.value_holds_complement (h : Comparable scope left op right)
    (hbounded : ∀ q, queryOf scope left = .ok q → q.Bounded scope) :
    (holds scope ⟨left, op.complement, right⟩).value =
      !(holds scope ⟨left, op, right⟩).value := by
  obtain ⟨hfunction, hvalues, htext, hcompares⟩ := h
  have hcanonical := (yields_values hbounded).of_eq_ok hvalues
  obtain ⟨result, hresult, hcontrary⟩ :=
    hcompares.compare_complement (hcanonical _ hfunction)
  rw [value_holds, value_holds, outcome_decide_of_values hfunction hvalues htext,
    outcome_decide_of_values hfunction hvalues htext, hresult, hcontrary]
  rfl

/-- Two conditions with the same sides and complementary operators are never both true. Exactly
one is true if both sides have values that can be compared, and else neither is. -/
theorem holds_or_complement_iff_comparable (op : Operator) (right : Operand)
    (hbounded : ∀ q, queryOf scope left = .ok q → q.Bounded scope) :
    let holdsWith (op : Operator) : Prop := (holds scope ⟨left, op, right⟩).value = true
    ¬ (holdsWith op ∧ holdsWith op.complement) ∧
      (Xor (holdsWith op) (holdsWith op.complement) ↔ Comparable scope left op right) ∧
      (¬ Comparable scope left op right → ¬ holdsWith op ∧ ¬ holdsWith op.complement) := by
  intro holdsWith
  have hneither (hnot : ¬ Comparable scope left op right) :
      ¬ holdsWith op ∧ ¬ holdsWith op.complement :=
    ⟨fun h => hnot (comparable_of_holds h),
      fun h => hnot (comparable_complement_iff.1 (comparable_of_holds h))⟩
  have hone (h : Comparable scope left op right) : holdsWith op.complement ↔ ¬ holdsWith op := by
    change (holds scope ⟨left, op.complement, right⟩).value = true ↔ _
    rw [h.value_holds_complement hbounded, Bool.not_eq_true', ← Bool.not_eq_true]
  by_cases h : Comparable scope left op right
  · have hcontrary := hone h
    refine ⟨fun ⟨hop, hcomplement⟩ => hcontrary.1 hcomplement hop, iff_of_true ?_ h,
      fun hnot => absurd h hnot⟩
    by_cases hop : holdsWith op
    · exact Or.inl ⟨hop, fun hcomplement => hcontrary.1 hcomplement hop⟩
    · exact Or.inr ⟨hcontrary.2 hop, hop⟩
  · obtain ⟨hop, hcomplement⟩ := hneither h
    refine ⟨fun hboth => hop hboth.1, iff_of_false ?_ h, fun _ => ⟨hop, hcomplement⟩⟩
    rintro (⟨hholds, -⟩ | ⟨hholds, -⟩)
    · exact hop hholds
    · exact hcomplement hholds

/-- A volume is compared with a count. -/
theorem holds_or_complement_iff_comparable_of_two_calls :
    let scope : Scope :=
      { store := .empty
        graph := { sinks := [{ name := "Speaker", mainVolume := -5 },
                             { name := "Headset", mainVolume := 30 }] }
        trigger := .userSetSinkMuteState "Headset" .muted }
    let left : Call :=
      { function := "mainVolume", category := "SINK", mandatory := ⟨"Headset", true⟩ }
    let right : Operand :=
      .call { function := "count", category := "SINK", mandatory := ⟨"Speaker", true⟩ }
    (∀ q, queryOf scope left = .ok q → q.Bounded scope) ∧
      Comparable scope left .greater right ∧
      ¬ ((holds scope ⟨left, .greater, right⟩).value = true ∧
        (holds scope ⟨left, .lessEqual, right⟩).value = true) ∧
      Xor ((holds scope ⟨left, .greater, right⟩).value = true)
        ((holds scope ⟨left, .lessEqual, right⟩).value = true) := by
  intro scope left right
  have hquery : queryOf scope left =
      .ok { function := .mainVolume, category := .sink, selector := .name "Headset" } := by
    rfl
  have hbounded : ∀ q, queryOf scope left = .ok q → q.Bounded scope := by
    intro q hq
    obtain rfl := Except.ok.inj (hquery.symm.trans hq)
    exact Query.bounded_of_targets ["Headset"] rfl rfl
  have hvalues : outcome (values scope left) = .ok ["30"] := by
    rw [outcome_values_eq_answer, hquery]
    rfl
  have hright : outcome (rightValue scope right) = .ok (some "1") := by
    rfl
  have htext : HasText scope right "1" := hasText_iff.2 hright
  have hnumber : Denotes "1" 1 := number?_eq_some_iff.1 rfl
  have hcompares : Operator.Compares .greater .numeric ["30"] "1" :=
    ⟨fun _ => List.cons_ne_nil _ _, fun _ _ => ⟨1, hnumber⟩⟩
  have hcomparable : Comparable scope left .greater right :=
    have hfunction : functionOf left = .ok .mainVolume := rfl
    .intro hfunction hvalues htext hcompares
  obtain ⟨hnotBoth, hone, -⟩ := holds_or_complement_iff_comparable .greater right hbounded
  exact ⟨hbounded, hcomparable, hnotBoth, hone.2 hcomparable⟩

end Evaluation
end AudioPolicy
