-- SUMMARY: A text is a member of numeric values if and only if it equals one of them as a number.
import AudioPolicy.Comparison
import AudioPolicy.Proofs.Denotation
import AudioPolicy.Proofs.NumericValues

/-! # Numeric membership

Equality compares numbers. Membership compares texts: it translates the right value into a
written number and looks for that among the left values as they stand. The values of a numeric
function are written numbers, so membership is equality with one of them, however the right
value is spelled. -/

namespace AudioPolicy

open Numeral (Canonical)
open AudioPolicy.Symbol (Denotes number?_eq_some_iff)

/-! ## Comparing numbers -/

section
variable {values : List String} {v right : String} {n : Int}

theorem ValueType.needle_of_denotes (h : Denotes right n) :
    ValueType.numeric.needle right = toString n := by
  simp only [needle, number?_eq_some_iff.2 h]

theorem ValueType.needle_of_not_denotes (h : ∀ n, ¬ Denotes right n) :
    ValueType.numeric.needle right = right := by
  cases hnumber : Symbol.number? right with
  | none => simp only [needle, hnumber]
  | some n => exact absurd (number?_eq_some_iff.1 hnumber) (h n)

namespace Operator

theorem compare_includes_iff (hvalues : ∀ v ∈ values, Canonical v) :
    includes.compare .numeric values right = .ok true ↔
      ∃ n, Denotes right n ∧ toString n ∈ values := by
  have hcontains : includes.compare .numeric values right = .ok true ↔
      ValueType.numeric.needle right ∈ values := by
    simp [compare]
  rw [hcontains]
  by_cases hdenotes : ∃ n, Denotes right n
  · obtain ⟨n, hn⟩ := hdenotes
    rw [ValueType.needle_of_denotes hn]
    refine ⟨fun hmem => ⟨n, hn, hmem⟩, ?_⟩
    rintro ⟨m, hm, hmem⟩
    have hneedle := ValueType.needle_of_denotes hm
    rw [ValueType.needle_of_denotes hn] at hneedle
    exact hneedle ▸ hmem
  · push Not at hdenotes
    rw [ValueType.needle_of_not_denotes hdenotes]
    constructor
    · -- A member of the values denotes a number, and the right value does not.
      intro hmem
      obtain ⟨n, hnumber, -⟩ := hvalues right hmem
      exact absurd (number?_eq_some_iff.1 hnumber) (hdenotes n)
    · rintro ⟨n, hn, -⟩
      exact absurd hn (hdenotes n)

theorem compare_equal_iff (hv : Canonical v) :
    equal.compare .numeric [v] right = .ok true ↔ ∃ n, Denotes right n ∧ toString n = v := by
  obtain ⟨m, hleft, rfl⟩ := hv
  simp only [compare, ValueType.order, hleft, Numeral.toString_integer_inj, ← number?_eq_some_iff]
  cases Symbol.number? right with
  | none => simp [Except.map]
  | some n =>
    have hequal : Ord.compare m n = .eq ↔ n = m := Std.compare_eq_iff_eq.trans eq_comm
    simp [Except.map, accepts, hequal]

/-- Only the number that a right value denotes matters to any comparison. -/
theorem compare_of_denotes (h : Denotes right n) (op : Operator) (values : List String) :
    op.compare .numeric values right = op.compare .numeric values (toString n) := by
  have hright := number?_eq_some_iff.2 h
  have hwritten : Symbol.number? (toString n) = some n := Symbol.number?_toString h.fits64
  have hneedle : ValueType.numeric.needle right = ValueType.numeric.needle (toString n) := by
    simp only [ValueType.needle, hright, hwritten]
  have horder (left : String) :
      ValueType.numeric.order left right = ValueType.numeric.order left (toString n) := by
    simp only [ValueType.order, hright, hwritten]
    cases Symbol.number? left <;> rfl
  unfold compare
  simp only [hneedle, horder]

theorem compare_excludes (type : ValueType) (values : List String) (right : String) :
    ∃ found, includes.compare type values right = .ok found ∧
      excludes.compare type values right = .ok !found :=
  ⟨values.contains (type.needle right), rfl, rfl⟩

end Operator
end

/-! ## Values of numeric functions -/

/-- For the values of a numeric function membership is equality with one of them, and exclusion
the contrary. All spellings of a number compare like its written form, and a text that denotes
no number is not a member. -/
theorem Query.includes_iff_equals_member {scope : Scope} {q : Query} {values : List String}
    (hnumeric : q.function.valueType = .numeric) (hbounded : q.Bounded scope)
    (hanswer : q.answer scope = .ok values) (right : String) :
    (Operator.includes.compare .numeric values right = .ok true ↔
        ∃ v ∈ values, Operator.equal.compare .numeric [v] right = .ok true) ∧
      (∃ found, Operator.includes.compare .numeric values right = .ok found ∧
        Operator.excludes.compare .numeric values right = .ok !found) ∧
      (∀ n, Denotes right n → ∀ (op : Operator) (left : List String),
        op.compare .numeric left right = op.compare .numeric left (toString n)) ∧
      ((∀ n, ¬ Denotes right n) →
        Operator.includes.compare .numeric values right = .ok false) := by
  have hvalues : ∀ v ∈ values, Canonical v :=
    yields_answer.of_eq_ok hanswer hnumeric hbounded
  have hincludes : Operator.includes.compare .numeric values right = .ok true ↔
      ∃ n, Denotes right n ∧ toString n ∈ values := Operator.compare_includes_iff hvalues
  refine ⟨?_, Operator.compare_excludes _ _ _, fun n hn => Operator.compare_of_denotes hn, ?_⟩
  · rw [hincludes]
    constructor
    · rintro ⟨n, hn, hmem⟩
      exact ⟨_, hmem, (Operator.compare_equal_iff (hvalues _ hmem)).2 ⟨n, hn, rfl⟩⟩
    · rintro ⟨v, hmem, hequal⟩
      obtain ⟨n, hn, rfl⟩ := (Operator.compare_equal_iff (hvalues v hmem)).1 hequal
      exact ⟨n, hn, hmem⟩
  · intro hnone
    obtain ⟨found, hfound, -⟩ := Operator.compare_excludes .numeric values right
    cases found with
    | false => exact hfound
    | true =>
      obtain ⟨n, hn, -⟩ := hincludes.1 hfound
      exact absurd hn (hnone n)

/-- Thirty is one of two volumes, here behind a blank, a plus and two zeros. -/
theorem Query.includes_iff_equals_member_of_padded_number :
    let scope : Scope :=
      { store := .empty
        graph := { sinks := [{ name := "Speaker", mainVolume := -5 },
                             { name := "Headset", mainVolume := 30 }] }
        trigger := .userSetSinkMuteState "Headset" .muted }
    let q : Query := { function := .mainVolume, category := .sink, selector := .all }
    let values := ["-5", "30"]
    q.function.valueType = .numeric ∧ q.Bounded scope ∧ q.answer scope = .ok values ∧
      Denotes " +0030" 30 ∧
      (Operator.includes.compare .numeric values " +0030" = .ok true ↔
        ∃ v ∈ values, Operator.equal.compare .numeric [v] " +0030" = .ok true) ∧
      Operator.includes.compare .numeric values " +0030" =
        Operator.includes.compare .numeric values "30" := by
  intro scope q values
  have hbounded : q.Bounded scope := bounded_of_targets ["Speaker", "Headset"] rfl rfl
  have hanswer : q.answer scope = .ok values := by
    rfl
  have hblank : Text.IsBlanks " " := by
    simp [Text.IsBlanks, Text.isBlank]
  have hnone : Text.IsBlanks "" := by
    simp [Text.IsBlanks]
  have hword : Numeral.IsDecimal "+0030".toList 30 := .plus 2 30
  have hdenotes : Denotes " +0030" 30 := .blanks hblank hnone (.decimal hword rfl)
  obtain ⟨hmember, -, hspelled, -⟩ :=
    includes_iff_equals_member (q := q) rfl hbounded hanswer " +0030"
  exact ⟨rfl, hbounded, hanswer, hdenotes, hmember, hspelled 30 hdenotes .includes values⟩

end AudioPolicy
