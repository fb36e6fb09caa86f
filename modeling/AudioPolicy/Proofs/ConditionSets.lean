-- SUMMARY: A set of conditions reports up to its first false one and counts one failure at most.
import AudioPolicy.Proofs.Outcomes
import AudioPolicy.Proofs.Reports
import AudioPolicy.Proofs.Rules

/-! # Sets of conditions

The conditions of a set are evaluated in their order until one is false, so the set reports
what these report and nothing of the others. A condition counts its own failure and nothing
else: the calls in it count nothing, however deep they are nested. As a failure makes the
condition false, the only one in a set that can fail is the last one that is evaluated. -/

namespace AudioPolicy

/-! ## Counts -/

/-- The amounts that are added to counters, in the order in which this happens. -/
def Event.counts (events : List Event) : List (Counter × Nat) :=
  events.filterMap fun
    | .warning _ => none
    | .count c amount => some (c, amount)

namespace Event

theorem counts_append (before behind : List Event) :
    counts (before ++ behind) = counts before ++ counts behind :=
  List.filterMap_append

theorem counts_eq_nil {events : List Event} (h : ∀ e ∈ events, e.OfPlaceholder) :
    counts events = [] := by
  refine List.filterMap_eq_nil_iff.2 fun e he => ?_
  cases h e he <;> rfl

end Event

namespace Evaluation

variable {scope : Scope} {c : Condition} {cs : List Condition}

/-! ## One condition -/

/-- Why a condition cannot be decided, if it cannot. -/
def failure? (scope : Scope) (c : Condition) : Option Failure :=
  match outcome (decide scope c) with
  | .ok _ => none
  | .error f => some f

theorem counts_reportFailure (c : Condition) (f : Failure) :
    Event.counts (reportFailure c f).events = [(.failures f.reason, 1)] := by
  unfold reportFailure
  by_cases h : f.reason ≠ .notFound
  · simp [h, Logged.warn, Logged.count, Event.counts]
  · simp [h, Logged.count, Event.counts]

/-- A condition counts nothing but its own failure. -/
theorem counts_holds (scope : Scope) (c : Condition) :
    Event.counts (holds scope c).events =
      (failure? scope c).toList.map fun f => (.failures f.reason, 1) := by
  have hdecide : Event.counts (decide scope c).run.events = [] :=
    Event.counts_eq_nil (reports_decide scope c)
  unfold holds failure? outcome
  rw [Logged.events_bind, Event.counts_append, hdecide, List.nil_append]
  cases (decide scope c).run.value with
  | ok result => rfl
  | error f =>
    dsimp only
    rw [Logged.events_bind, Logged.events_pure, List.append_nil, counts_reportFailure]
    rfl

/-- A condition that fails does not hold. -/
theorem failure?_eq_none_of_holds (h : (holds scope c).value = true) : failure? scope c = none := by
  rw [failure?, value_holds_iff.1 h]

/-! ## The first false condition -/

/-- The first condition of a set that does not hold. -/
def firstFalse? (scope : Scope) (cs : List Condition) : Option Condition :=
  cs.find? fun c => !(holds scope c).value

/-- The conditions of a set up to and including the first one that does not hold. -/
def examined (scope : Scope) (cs : List Condition) : List Condition :=
  (cs.takeWhile fun c => (holds scope c).value) ++ (firstFalse? scope cs).toList

theorem firstFalse?_cons_of_holds (h : (holds scope c).value = true) :
    firstFalse? scope (c :: cs) = firstFalse? scope cs := by
  simp [firstFalse?, h]

theorem firstFalse?_cons_of_not_holds (h : (holds scope c).value = false) :
    firstFalse? scope (c :: cs) = some c := by
  simp [firstFalse?, h]

theorem examined_cons_of_holds (h : (holds scope c).value = true) :
    examined scope (c :: cs) = c :: examined scope cs := by
  simp [examined, firstFalse?_cons_of_holds h, h]

theorem examined_cons_of_not_holds (h : (holds scope c).value = false) :
    examined scope (c :: cs) = [c] := by
  simp [examined, firstFalse?_cons_of_not_holds h, h]

/-! ## All conditions -/

theorem events_allHold_cons_of_holds (h : (holds scope c).value = true) :
    (allHold scope (c :: cs)).events = (holds scope c).events ++ (allHold scope cs).events := by
  rw [allHold, Logged.events_bind, h, if_pos rfl]

theorem events_allHold_cons_of_not_holds (h : (holds scope c).value = false) :
    (allHold scope (c :: cs)).events = (holds scope c).events := by
  rw [allHold, Logged.events_bind, h, if_neg Bool.false_ne_true, Logged.events_pure,
    List.append_nil]

theorem events_allHold (scope : Scope) (cs : List Condition) :
    (allHold scope cs).events = (examined scope cs).flatMap fun c => (holds scope c).events := by
  induction cs with
  | nil => rfl
  | cons c cs ih =>
    cases h : (holds scope c).value with
    | true =>
      rw [events_allHold_cons_of_holds h, examined_cons_of_holds h, List.flatMap_cons, ih]
    | false =>
      rw [events_allHold_cons_of_not_holds h, examined_cons_of_not_holds h,
        List.flatMap_singleton]

/-- Only the first false condition can add to what is counted. -/
theorem counts_allHold (scope : Scope) (cs : List Condition) :
    Event.counts (allHold scope cs).events =
      ((firstFalse? scope cs).bind (failure? scope)).toList.map fun f =>
        (.failures f.reason, 1) := by
  induction cs with
  | nil => rfl
  | cons c cs ih =>
    cases h : (holds scope c).value with
    | true =>
      rw [events_allHold_cons_of_holds h, Event.counts_append, counts_holds,
        failure?_eq_none_of_holds h, firstFalse?_cons_of_holds h, ih]
      rfl
    | false =>
      rw [events_allHold_cons_of_not_holds h, counts_holds, firstFalse?_cons_of_not_holds h]
      rfl

theorem firstFalse?_eq_none_iff :
    firstFalse? scope cs = none ↔ (allHold scope cs).value = true := by
  rw [value_allHold_iff, firstFalse?, List.find?_eq_none]
  simp only [Bool.not_eq_true', Bool.not_eq_false]

/-- A set holds if all its conditions do. It reports what the conditions up to and including
the first false one report. It counts the failure of that condition, if there is one, and
otherwise nothing, so a set that holds counts nothing. -/
theorem allHold_ends_with_first_false (scope : Scope) (cs : List Condition) :
    ((allHold scope cs).value = true ↔ ∀ c ∈ cs, (holds scope c).value = true) ∧
      (allHold scope cs).events =
        ((examined scope cs).flatMap fun c => (holds scope c).events) ∧
      Event.counts (allHold scope cs).events =
        (((firstFalse? scope cs).bind (failure? scope)).toList.map fun f =>
          (.failures f.reason, 1)) ∧
      (Event.counts (allHold scope cs).events).length ≤ 1 ∧
      ((allHold scope cs).value = true → Event.counts (allHold scope cs).events = []) := by
  have hcounts := counts_allHold scope cs
  refine ⟨value_allHold_iff scope cs, events_allHold scope cs, hcounts, ?_, fun hall => ?_⟩
  · rw [hcounts, List.length_map]
    cases (firstFalse? scope cs).bind (failure? scope) <;> simp
  · rw [hcounts, firstFalse?_eq_none_iff.2 hall]
    rfl

/-- The second of three conditions asks for a function that there is not. -/
example :
    let scope : Scope :=
      { store := .empty, graph := {}, trigger := .userSetVolume "Speaker" 5 false }
    let call (function : String) : Call :=
      { function, category := "USER", mandatory := ⟨"X", true⟩ }
    let unknown : Condition :=
      { left := call "loudness", operator := .equal, right := .literal ⟨"5", true⟩ }
    allHold scope [{ unknown with left := call "mainVolume" }, unknown, unknown] =
      { value := false
        events := [.warning (.conditionFailed unknown (.unknownFunction "loudness")),
          .count (.failures .notPossible) 1] } := by
  rfl

end Evaluation
end AudioPolicy
