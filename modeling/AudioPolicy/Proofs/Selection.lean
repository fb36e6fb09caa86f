-- SUMMARY: A value that is supplied at run time is a name, unless it is one of the selector words.
import AudioPolicy.Proofs.Outcomes
import AudioPolicy.Proofs.Placeholders
import AudioPolicy.Proofs.Words
import Mathlib.Data.List.TakeWhile

/-! # Selection by supplied values

The trigger or another call may supply the mandatory argument of a call. The supplied text
is never read as a call or as a placeholder again, but it is still looked at as a selector.
So it is a name, as if it stood there in quotes, unless it is one of the two words that
select something else. Such a word then selects as if it had been written. -/

namespace AudioPolicy

theorem Call.not_isWrittenAs {text : String}
    (h : ∀ c ∈ text.toList, Text.isWordChar c = true) : isWrittenAs text = false := by
  unfold isWrittenAs Expression.Cursor.atCall Expression.Cursor.skipBlanks Expression.Cursor.skip
  rw [Expression.Cursor.skipFrom_rest]
  have hnil : ((Expression.Cursor.start text).rest.dropWhile Text.isBlank).dropWhile
      Text.isWordChar = [] := by
    rw [List.dropWhile_eq_nil_iff]
    intro c hc
    exact h c ((List.dropWhile_sublist _).mem hc)
  rw [hnil]
  exact Bool.and_false _

/-! ## Selector words -/

namespace Selector

/-- The texts that select something else than the element with that name. -/
def words : List String := ["REQUESTING", "ALL"]

theorem ofText_eq_name {text : String} (h : text ∉ words) (quoted : Bool) :
    ofText text quoted = .name text := by
  simp only [words, List.mem_cons, List.not_mem_nil, or_false, not_or] at h
  unfold ofText
  rw [if_neg h.1, if_neg h.2, ite_self]

theorem isWordChar_of_mem_words {word : String} (h : word ∈ words) :
    ∀ c ∈ word.toList, Text.isWordChar c = true := by
  have hall : ∀ word ∈ words, word.toList.all Text.isWordChar = true := by
    simp only [words, List.forall_mem_cons]
    exact ⟨rfl, rfl, fun _ hnone => absurd hnone List.not_mem_nil⟩
  exact List.all_eq_true.1 (hall word h)

theorem isWord_of_mem_words {word : String} (h : word ∈ words) : Text.IsWord word := by
  refine Text.isWord_of_isWordChar ?_ (isWordChar_of_mem_words h)
  rintro rfl
  simp [words] at h

theorem substitute_of_mem_words {word : String} (h : word ∈ words) (t : Trigger) :
    Placeholder.substitute t word = word := by
  simp only [words, List.mem_cons, List.not_mem_nil, or_false] at h
  rcases h with rfl | rfl <;> rfl

end Selector

namespace Evaluation

variable {scope : Scope} {call : Call} {a : Argument} {text : String}

/-! ## Supplied texts -/

/-- The text that the mandatory argument of a call stands for. -/
def mandatoryText (scope : Scope) (call : Call) : Except Failure String :=
  outcome (resolve (valuesWithin scope Failure.maxDepth) scope.trigger call.mandatory)

/-- A placeholder stands for its value. -/
theorem mandatoryText_of_word {p : Placeholder} (hplain : call.mandatory.quoted = false)
    (hword : call.mandatory.text = Spelled.word p) (hvalue : p.value? scope.trigger = some text) :
    mandatoryText scope call = .ok text := by
  have hcall : Call.isWrittenAs call.mandatory.text = false := by
    refine Call.not_isWrittenAs fun c hc => ?_
    rw [hword] at hc
    exact Placeholder.isWordChar_of_mem_chars hc
  unfold mandatoryText
  rw [outcome_resolve_of_plain hplain hcall, hword, Placeholder.substitute_word hvalue]

/-- A selector word stands for itself. -/
theorem mandatoryText_of_mem_words (hplain : call.mandatory.quoted = false)
    (hword : call.mandatory.text ∈ Selector.words) :
    mandatoryText scope call = .ok call.mandatory.text := by
  have hcall : Call.isWrittenAs call.mandatory.text = false :=
    Call.not_isWrittenAs (Selector.isWordChar_of_mem_words hword)
  unfold mandatoryText
  rw [outcome_resolve_of_plain hplain hcall, Selector.substitute_of_mem_words hword]

/-- The argument is a placeholder for which the trigger has a text as its value, or a call
    that has this text as its only value. -/
inductive Supplies (scope : Scope) (a : Argument) (text : String) : Prop
  | placeholder {p : Placeholder} : a.text = Spelled.word p → p.value? scope.trigger = some text →
      Supplies scope a text
  | call {inner : Call} : Call.ofText a.text = .ok inner →
      outcome (valuesWithin scope Failure.maxDepth inner) = .ok [text] → Supplies scope a text

/-- A plain argument that stands for a selector word is that word, or it is supplied with it. -/
theorem eq_or_supplies_of_mem_words (hplain : a.quoted = false) (hword : text ∈ Selector.words)
    (h : outcome (resolve (valuesWithin scope Failure.maxDepth) scope.trigger a) = .ok text) :
    a.text = text ∨ Supplies scope a text := by
  cases hcall : Call.isWrittenAs a.text with
  | false =>
    rw [outcome_resolve_of_plain hplain hcall, Except.ok.injEq] at h
    rcases Placeholder.eq_or_value_of_substitute_eq (Selector.isWordChar_of_mem_words hword) h with
      htext | ⟨p, htext, hvalue⟩
    · exact Or.inl htext
    · exact Or.inr (.placeholder htext hvalue)
  | true =>
    rw [outcome_resolve_of_call hplain hcall] at h
    cases hinner : Call.ofText a.text with
    | error e => simp [hinner] at h
    | ok inner =>
      cases hvalues : outcome (valuesWithin scope Failure.maxDepth inner) with
      | error f => simp [hinner, hvalues, Except.map] at h
      | ok values =>
        have hjoined : Text.unwords values = text := by
          simpa [hinner, hvalues, Except.map] using h
        have hsingle := Text.eq_singleton_of_unwords_eq (Selector.isWord_of_mem_words hword) hjoined
        exact Or.inr (.call hinner (hsingle ▸ hvalues))

/-! ## Selections -/

/-- The text of the mandatory argument counts only as the selector that it makes. -/
theorem outcome_values (h : mandatoryText scope call = .ok text) :
    outcome (values scope call) = (do
      let function ← functionOf call
      let category ← categoryOf call
      let optional ← call.optional.mapM fun a =>
        outcome (resolve (valuesWithin scope Failure.maxDepth) scope.trigger a)
      Query.answer scope
        { function, category, optional,
          selector := Selector.ofText text call.mandatory.quoted }) := by
  unfold mandatoryText at h
  unfold values
  rw [outcome_valuesWithin_succ, h]
  rfl

theorem functionOf_eq_ok {function : Function} (h : call.function = Spelled.word function) :
    functionOf call = .ok function := by
  have hword : Spelled.ofWord? (Spelled.word function) = some function := by
    cases function <;> rfl
  rw [functionOf, h, hword]

theorem categoryOf_eq_ok {category : Category} (h : call.category = Spelled.word category) :
    categoryOf call = .ok category := by
  have hword : Spelled.ofWord? (Spelled.word category) = some category := by
    cases category <;> rfl
  rw [categoryOf, h, hword]

/-- A call that spells a function and a category asks for them. -/
theorem outcome_values_of_words (function : Function) (category : Category)
    (hfunction : call.function = Spelled.word function)
    (hcategory : call.category = Spelled.word category)
    (h : mandatoryText scope call = .ok text) :
    outcome (values scope call) = (do
      let optional ← call.optional.mapM fun a =>
        outcome (resolve (valuesWithin scope Failure.maxDepth) scope.trigger a)
      Query.answer scope
        { function, category, optional,
          selector := Selector.ofText text call.mandatory.quoted }) := by
  rw [outcome_values h, functionOf_eq_ok hfunction, categoryOf_eq_ok hcategory]
  rfl

/-- Two mandatory arguments that stand for one text select alike if they make one selector
    of it. -/
theorem outcome_values_congr (h : mandatoryText scope call = .ok text)
    (ha : mandatoryText scope { call with mandatory := a } = .ok text)
    (hselector : Selector.ofText text call.mandatory.quoted = Selector.ofText text a.quoted) :
    outcome (values scope call) = outcome (values scope { call with mandatory := a }) := by
  rw [outcome_values h, outcome_values ha, hselector]
  rfl

/-- Let a plain argument stand for a text. If that is no selector word, the call has the
    same outcome as with the text in quotes. If it is one, the call has the same outcome as
    with the bare word, and the word was supplied by the trigger or by another call. -/
theorem supplied_text_selects (hplain : call.mandatory.quoted = false)
    (hwritten : call.mandatory.text ∉ Selector.words)
    (h : mandatoryText scope call = .ok text) :
    (text ∉ Selector.words →
        outcome (values scope call) =
          outcome (values scope { call with mandatory := ⟨text, true⟩ })) ∧
      (text ∈ Selector.words →
        outcome (values scope call) =
            outcome (values scope { call with mandatory := ⟨text, false⟩ }) ∧
          Supplies scope call.mandatory text) := by
  refine ⟨fun hname => ?_, fun hword => ⟨?_, ?_⟩⟩
  · have htext : mandatoryText scope { call with mandatory := ⟨text, true⟩ } = .ok text := by
      unfold mandatoryText
      rw [outcome_resolve_of_quoted (a := ⟨text, true⟩) rfl]
    refine outcome_values_congr h htext ?_
    rw [Selector.ofText_eq_name hname, Selector.ofText_eq_name hname]
  · have hcall := Call.not_isWrittenAs (Selector.isWordChar_of_mem_words hword)
    have htext : mandatoryText scope { call with mandatory := ⟨text, false⟩ } = .ok text := by
      unfold mandatoryText
      rw [outcome_resolve_of_plain (a := ⟨text, false⟩) rfl hcall,
        Selector.substitute_of_mem_words hword]
    refine outcome_values_congr h htext ?_
    rw [hplain]
  · rcases eq_or_supplies_of_mem_words hplain hword h with htext | hsupplies
    · exact absurd (htext ▸ hword) hwritten
    · exact hsupplies

/-- The trigger names a sink that looks like a call. -/
theorem supplied_text_selects_of_call_name :
    let scope : Scope :=
      { store := .empty
        graph := { sinks := [{ name := "count(SINK, ALL)" }, { name := "Headset" }] }
        trigger := .userSetSinkMuteState "count(SINK, ALL)" .muted }
    let call : Call :=
      { function := "isRegistered", category := "SINK", mandatory := ⟨"REQ_SINK_NAME", false⟩ }
    let text := "count(SINK, ALL)"
    call.mandatory.quoted = false ∧ call.mandatory.text ∉ Selector.words ∧
      mandatoryText scope call = .ok text ∧
      (text ∉ Selector.words →
        outcome (values scope call) =
          outcome (values scope { call with mandatory := ⟨text, true⟩ })) ∧
      (text ∈ Selector.words →
        outcome (values scope call) =
            outcome (values scope { call with mandatory := ⟨text, false⟩ }) ∧
          Supplies scope call.mandatory text) := by
  intro scope call text
  have hwritten : call.mandatory.text ∉ Selector.words := by decide
  have htext : mandatoryText scope call = .ok text :=
    mandatoryText_of_word rfl (show _ = Spelled.word Placeholder.sinkName from rfl) rfl
  exact ⟨rfl, hwritten, htext, supplied_text_selects rfl hwritten htext⟩

/-- A sink that is named like a selector word makes the call select every sink. -/
theorem supplied_word_widens_selection :
    ¬ ∀ (scope : Scope) (call : Call) (text : String), call.mandatory.quoted = false →
      (Call.isWrittenAs call.mandatory.text = true ∨
        ∃ p, .word p ∈ Placeholder.parts call.mandatory.text ∧
          (p.value? scope.trigger).isSome = true) →
      mandatoryText scope call = .ok text →
        outcome (values scope call) =
          outcome (values scope { call with mandatory := ⟨text, true⟩ }) := by
  intro h
  let scope : Scope :=
    { store := .empty
      graph := { sinks := [{ name := "Speaker" }, { name := "Headset" }] }
      trigger := .userSetSinkMuteState "ALL" .muted }
  let call : Call :=
    { function := "name", category := "SINK", mandatory := ⟨"REQ_SINK_NAME", false⟩ }
  have hparts : .word .sinkName ∈ Placeholder.parts call.mandatory.text := by
    change _ ∈ Placeholder.parts (Spelled.word Placeholder.sinkName)
    rw [Placeholder.parts_word]
    exact List.mem_singleton_self _
  have htext : mandatoryText scope call = .ok "ALL" :=
    mandatoryText_of_word rfl (show _ = Spelled.word Placeholder.sinkName from rfl) rfl
  have hall : outcome (values scope call) = .ok ["Speaker", "Headset"] := by
    rw [outcome_values htext]
    cbv
  have hname : outcome (values scope { call with mandatory := ⟨"ALL", true⟩ }) = .ok ["ALL"] := by
    rw [outcome_values (outcome_resolve_of_quoted rfl)]
    cbv
  have hsame := h scope call "ALL" rfl (Or.inr ⟨.sinkName, hparts, rfl⟩) htext
  rw [hall, hname] at hsame
  exact absurd hsame (by simp)

end Evaluation
end AudioPolicy
