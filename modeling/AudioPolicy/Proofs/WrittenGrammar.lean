-- SUMMARY: The written grammar, stated apart from the reader, is what reads back.
import AudioPolicy.Proofs.RoundTrip

/-! # The written grammar

What may be written is said here without the reader. A text stands as an argument without
quotes if it is balanced: whatever is opened in it is closed, and commas stand inside of
parentheses only. Calls, right sides and conditions are built from such texts.

The reader does not build this structure. It scans with a counter and passes over inner calls
as they stand. Both come to the same, so a condition is read back from its written form
exactly if it belongs to the grammar. -/

namespace AudioPolicy

namespace Expression

variable {inside : Bool} {depth : Nat} {cs text rest piece : List Char}

/-! ## Balanced texts -/

/-- A text in which each quote and each parenthesis has its counterpart. A comma may stand in
    it only if the text itself stands inside of parentheses. -/
inductive Balanced : (inside : Bool) → List Char → Prop
  | nil {inside : Bool} : Balanced inside []
  | char {inside : Bool} {c : Char} {rest : List Char} :
      c ∉ ['"', '(', ')', ','] → Balanced inside rest → Balanced inside (c :: rest)
  | comma {rest : List Char} : Balanced true rest → Balanced true (',' :: rest)
  | quoted {inside : Bool} {text rest : List Char} :
      '"' ∉ text → Balanced inside rest → Balanced inside ('"' :: (text ++ '"' :: rest))
  | parenthesized {inside : Bool} {text rest : List Char} :
      Balanced true text → Balanced inside rest → Balanced inside ('(' :: (text ++ ')' :: rest))

/-- The text closes `depth` parentheses that are open in front of it, and is balanced apart
    from that. -/
def Closing : Nat → List Char → Prop
  | 0, cs => Balanced false cs
  | depth + 1, cs => ∃ text rest, cs = text ++ ')' :: rest ∧ Balanced true text ∧ Closing depth rest

namespace Closing

/-- A piece that may stand in front of any balanced text may also stand in front of one that
    closes parentheses. -/
theorem prepend
    (hpiece : ∀ {inside rest}, Balanced inside rest → Balanced inside (piece ++ rest))
    (h : Closing depth rest) : Closing depth (piece ++ rest) := by
  cases depth with
  | zero => exact hpiece h
  | succ depth =>
    obtain ⟨text, rest, rfl, htext, hrest⟩ := h
    exact ⟨piece ++ text, rest, (List.append_assoc ..).symm, hpiece htext, hrest⟩

theorem char {c : Char} (hc : c ∉ ['"', '(', ')', ',']) (h : Closing depth cs) :
    Closing depth (c :: cs) := by
  change Closing depth ([c] ++ cs)
  exact h.prepend (.char hc)

theorem comma (hdepth : depth ≠ 0) (h : Closing depth cs) : Closing depth (',' :: cs) := by
  obtain ⟨outer, rfl⟩ := Nat.exists_eq_succ_of_ne_zero hdepth
  obtain ⟨text, rest, rfl, htext, hrest⟩ := h
  exact ⟨',' :: text, rest, rfl, .comma htext, hrest⟩

theorem quoted (htext : '"' ∉ text) (h : Closing depth rest) :
    Closing depth ('"' :: (text ++ '"' :: rest)) := by
  have hpiece : Closing depth (('"' :: (text ++ ['"'])) ++ rest) :=
    h.prepend fun hrest => by simpa using Balanced.quoted htext hrest
  simpa using hpiece

theorem opened (h : Closing (depth + 1) cs) : Closing depth ('(' :: cs) := by
  obtain ⟨text, rest, rfl, htext, hrest⟩ := h
  have hpiece : Closing depth (('(' :: (text ++ [')'])) ++ rest) :=
    hrest.prepend fun hrest => by simpa using htext.parenthesized hrest
  simpa using hpiece

theorem closed (hdepth : depth ≠ 0) (h : Closing (depth - 1) cs) : Closing depth (')' :: cs) := by
  obtain ⟨outer, rfl⟩ := Nat.exists_eq_succ_of_ne_zero hdepth
  exact ⟨[], cs, rfl, .nil, h⟩

end Closing

theorem closes_of_not_special {c : Char} (hc : c ∉ ['"', '(', ')', ',']) :
    closes false depth (c :: cs) = closes false depth cs := by
  simp only [List.mem_cons, List.not_mem_nil, or_false, not_or] at hc
  simp [closes, hc]

theorem closes_quoted (h : '"' ∉ text) (depth : Nat) (rest : List Char) :
    closes true depth (text ++ '"' :: rest) = closes false depth rest := by
  induction text with
  | nil => simp [closes]
  | cons c text ih =>
    obtain ⟨hc, htext⟩ := not_or.1 (mt List.mem_cons.2 h)
    simpa [closes, Ne.symm hc] using ih htext

/-- The scan comes out of a balanced text as it went in. -/
theorem Balanced.closes_append (h : Balanced inside text) (hinside : inside = true → 0 < depth)
    (rest : List Char) : closes false depth (text ++ rest) = closes false depth rest := by
  induction h generalizing depth rest with
  | nil => rfl
  | char hc _ ih => rw [List.cons_append, closes_of_not_special hc, ih hinside]
  | comma _ ih =>
    have hdepth : depth ≠ 0 := (hinside rfl).ne'
    rw [List.cons_append, ← ih hinside rest]
    simp [closes, hdepth]
  | @quoted _ text behind htext _ ih =>
    have hopen : closes false depth ('"' :: (text ++ '"' :: (behind ++ rest))) =
        closes true depth (text ++ '"' :: (behind ++ rest)) := by
      simp [closes]
    rw [List.cons_append, List.append_assoc, List.cons_append, hopen, closes_quoted htext,
      ih hinside]
  | @parenthesized _ text behind _ _ ihtext ih =>
    have hopen : closes false depth ('(' :: (text ++ ')' :: (behind ++ rest))) =
        closes false (depth + 1) (text ++ ')' :: (behind ++ rest)) := by
      simp [closes]
    have hclose : closes false (depth + 1) (')' :: (behind ++ rest)) =
        closes false depth (behind ++ rest) := by
      simp [closes]
    rw [List.cons_append, List.append_assoc, List.cons_append, hopen,
      ihtext fun _ => Nat.succ_pos depth, hclose, ih hinside]

/-- The scan accepts only what closes the parentheses that it has counted. Inside of quotes it
    goes on with that behind the next quote. -/
theorem closing_of_closes (cs : List Char) :
    (∀ depth, closes false depth cs = true → Closing depth cs) ∧
      ∀ depth, closes true depth cs = true →
        ∃ text rest, cs = text ++ '"' :: rest ∧ '"' ∉ text ∧ Closing depth rest := by
  induction cs with
  | nil =>
    refine ⟨fun depth h => ?_, fun depth h => nomatch h⟩
    obtain rfl : depth = 0 := by simpa [closes] using h
    exact .nil
  | cons c cs ih =>
    obtain ⟨houtside, hinside⟩ := ih
    refine ⟨fun depth h => ?_, fun depth h => ?_⟩
    · rw [closes_outside] at h
      split at h
      next hquote =>
        subst hquote
        obtain ⟨text, rest, rfl, htext, hrest⟩ := hinside depth h
        exact hrest.quoted htext
      next hquote =>
        split at h
        next hopen =>
          subst hopen
          exact (houtside (depth + 1) h).opened
        next hopen =>
          split at h
          next => cases h
          next hend =>
            split at h
            next hclose =>
              subst hclose
              exact (houtside (depth - 1) h).closed fun hzero => hend ⟨hzero, Or.inl rfl⟩
            next hclose =>
              by_cases hcomma : c = ','
              · subst hcomma
                exact (houtside depth h).comma fun hzero => hend ⟨hzero, Or.inr rfl⟩
              · exact (houtside depth h).char (by simp [hquote, hopen, hclose, hcomma])
    · by_cases hquote : c = '"'
      · subst hquote
        have hcs : closes false depth cs = true := by simpa [closes] using h
        exact ⟨[], cs, rfl, List.not_mem_nil, houtside depth hcs⟩
      · have hcs : closes true depth cs = true := by simpa [closes, hquote] using h
        obtain ⟨text, rest, rfl, htext, hrest⟩ := hinside depth hcs
        exact ⟨c :: text, rest, rfl, List.not_mem_cons_of_ne_of_not_mem (Ne.symm hquote) htext,
          hrest⟩

/-- Scanning with a counter accepts the balanced texts. -/
theorem closes_iff_balanced : closes false 0 cs = true ↔ Balanced false cs := by
  constructor
  · exact (closing_of_closes cs).1 0
  · intro h
    have hscan : closes false 0 (cs ++ []) = closes false 0 [] :=
      h.closes_append (fun hinside => nomatch hinside) []
    rw [List.append_nil] at hscan
    rw [hscan]
    rfl

/-- The text begins like a call: with a name, then perhaps blanks, then a parenthesis. -/
def BeginsCall (cs : List Char) : Prop :=
  ∃ name blanks inside, name ≠ [] ∧ (∀ c ∈ name, Text.isWordChar c = true) ∧
    (∀ c ∈ blanks, Text.isBlank c = true) ∧ cs = name ++ (blanks ++ '(' :: inside)

end Expression

/-! ## The grammar -/

/-- A text that may stand as an argument without quotes. -/
structure Argument.Bare (text : String) : Prop where
  trimmed : Text.trim text = text
  unquoted : text.toList.head? ≠ some '"'
  balanced : Expression.Balanced false text.toList

/-- An argument of the grammar. -/
inductive Argument.Grammatical : Argument → Prop
  | quoted {text : String} : '"' ∉ text.toList → Grammatical ⟨text, true⟩
  | bare {text : String} : Bare text → Grammatical ⟨text, false⟩

/-- A call of the grammar. -/
structure Call.Grammatical (c : Call) : Prop where
  named : c.function ≠ ""
  word : ∀ d ∈ c.function.toList, Text.isWordChar d = true
  category : Argument.Bare c.category
  mandatory : c.mandatory.Grammatical
  optional : ∀ a ∈ c.optional, a.Grammatical
  few : c.optional.length ≤ maxOptional

/-- A right side of the grammar. A literal without quotes need not be balanced, but it may not
    begin like a call. -/
inductive Operand.Grammatical : Operand → Prop
  | call {c : Call} : c.Grammatical → Grammatical (.call c)
  | quoted {text : String} : '"' ∉ text.toList → Grammatical (.literal ⟨text, true⟩)
  | bare {text : String} : text ≠ "" → Text.trim text = text → text.toList.head? ≠ some '"' →
      ¬ Expression.BeginsCall text.toList → Grammatical (.literal ⟨text, false⟩)

/-- A condition of the grammar. -/
structure Condition.Grammatical (c : Condition) : Prop where
  left : c.left.Grammatical
  right : c.right.Grammatical

/-! ## The grammar and the reader -/

theorem Text.trim_eq_self_iff {text : String} :
    trim text = text ↔ trimChars text.toList = text.toList := by
  rw [trim, ← String.toList_inj, String.toList_ofList]

theorem Argument.bare_iff_isPlain {text : String} : Bare text ↔ IsPlain text := by
  constructor
  · rintro ⟨htrimmed, hunquoted, hbalanced⟩
    exact ⟨Text.trim_eq_self_iff.1 htrimmed, hunquoted, Expression.closes_iff_balanced.2 hbalanced⟩
  · rintro ⟨htrimmed, hunquoted, hclosed⟩
    exact ⟨Text.trim_eq_self_iff.2 htrimmed, hunquoted, Expression.closes_iff_balanced.1 hclosed⟩

theorem Argument.grammatical_iff_wellFormed {a : Argument} : a.Grammatical ↔ a.WellFormed := by
  constructor
  · rintro (hquote | hbare)
    · exact ⟨fun _ => hquote, fun hplain => nomatch hplain⟩
    · exact ⟨fun hquoted => (nomatch hquoted), fun _ => bare_iff_isPlain.1 hbare⟩
  · intro h
    obtain ⟨text, quoted⟩ := a
    cases quoted with
    | true => exact .quoted (h.quoted rfl)
    | false => exact .bare (bare_iff_isPlain.2 (h.plain rfl))

theorem Call.grammatical_iff_wellFormed {c : Call} :
    c.Grammatical ↔ c.WellFormed ∧ Argument.IsPlain c.category := by
  have hargument (a : Argument) : a.Grammatical ↔ a.WellFormed :=
    Argument.grammatical_iff_wellFormed
  constructor
  · rintro ⟨hnamed, hword, hcategory, hmandatory, hoptional, hfew⟩
    exact ⟨⟨hnamed, hword, (hargument _).1 hmandatory,
      fun a ha => (hargument a).1 (hoptional a ha), hfew⟩, Argument.bare_iff_isPlain.1 hcategory⟩
  · rintro ⟨⟨hnamed, hword, hmandatory, hoptional, hfew⟩, hcategory⟩
    exact ⟨hnamed, hword, Argument.bare_iff_isPlain.2 hcategory, (hargument _).2 hmandatory,
      fun a ha => (hargument a).2 (hoptional a ha), hfew⟩

/-- The look-ahead recognises the texts that begin like a call. -/
theorem Call.isWrittenAs_iff_beginsCall {text : String}
    (htrimmed : Text.trimChars text.toList = text.toList) :
    isWrittenAs text = true ↔ Expression.BeginsCall text.toList := by
  have hrest : (Expression.Cursor.start text).skipBlanks.rest = text.toList := by
    rw [Expression.skipBlanks_rest]
    exact Text.trimStart_eq_self (Text.head?_of_trimmed htrimmed)
  rw [isWrittenAs, Expression.atCall_iff, hrest]
  rfl

theorem Operand.grammatical_iff_wellFormed {right : Operand} :
    right.Grammatical ↔
      right.WellFormed ∧ ∀ c, right = .call c → Argument.IsPlain c.category := by
  constructor
  · rintro (hcall | hquote | ⟨hnonempty, htrimmed, hunquoted, huncalled⟩)
    · obtain ⟨hwell, hcategory⟩ := Call.grammatical_iff_wellFormed.1 hcall
      exact ⟨.call hwell, fun c hc => by cases hc; exact hcategory⟩
    · exact ⟨.quoted hquote, fun c hc => nomatch hc⟩
    · have htrimmed := Text.trim_eq_self_iff.1 htrimmed
      refine ⟨.plain ⟨hnonempty, htrimmed, hunquoted, ?_⟩, fun c hc => nomatch hc⟩
      rw [← Bool.not_eq_true, Call.isWrittenAs_iff_beginsCall htrimmed]
      exact huncalled
  · rintro ⟨hcall | hquote | ⟨hnonempty, htrimmed, hunquoted, huncalled⟩, hcategory⟩
    · exact .call (Call.grammatical_iff_wellFormed.2 ⟨hcall, hcategory _ rfl⟩)
    · exact .quoted hquote
    · refine .bare hnonempty (Text.trim_eq_self_iff.2 htrimmed) hunquoted ?_
      rw [← Call.isWrittenAs_iff_beginsCall htrimmed, huncalled]
      exact Bool.false_ne_true

/-! ## Reading back -/

namespace Condition

open Expression

/-- The left call and the operator are taken off a written condition. -/
theorem exists_front {c : Condition} (hleft : c.left.WellFormed)
    (hcategory : Argument.IsPlain c.left.category) :
    ∃ next behind, call (Cursor.start c.written) = .ok (c.left, next) ∧
      Expression.operator next = .ok (c.operator, ⟨behind, ' ' :: c.right.written.toList⟩) := by
  rw [Cursor.start, written_toList]
  have hnone : ∀ d ∈ ([] : List Char), Text.isBlank d = true := List.forall_mem_nil _
  obtain ⟨first, hcall⟩ := reads_call hleft hcategory hnone 0
  obtain ⟨second, hoperator⟩ := reads_operator c.operator c.right.written.toList first
  exact ⟨_, second, hcall, hoperator⟩

/-- The categories of a condition that is read back from its written form need no quotes. -/
theorem isPlain_category_of_ofText_written {c : Condition} (h : ofText c.written = .ok c) :
    Argument.IsPlain c.left.category ∧
      ∀ right, c.right = .call right → Argument.IsPlain right.category := by
  obtain ⟨next₁, next₂, next₃, hcall, hoperator, hoperand, -⟩ := ofText_eq_ok_iff.1 h
  have hleft : c.left.WellFormed := wellFormed_of_call hcall
  have hright : c.right.WellFormed := wellFormed_of_operand hoperand
  have hnone : ∀ d ∈ ([] : List Char), Text.isBlank d = true := List.forall_mem_nil _
  have hcategory : Argument.IsPlain c.left.category := by
    rw [Cursor.start, written_toList] at hcall
    exact isPlain_category_of_call hleft hnone hcall
  refine ⟨hcategory, fun right heq => ?_⟩
  obtain ⟨_, _, hcall', hoperator'⟩ := exists_front hleft hcategory
  obtain ⟨-, rfl⟩ := Prod.mk.inj (Except.ok.inj (hcall.symm.trans hcall'))
  obtain ⟨-, rfl⟩ := Prod.mk.inj (Except.ok.inj (hoperator.symm.trans hoperator'))
  rw [heq] at hright hoperand
  cases hright with
  | call hright =>
    obtain ⟨_, hiff⟩ := operand_call hright _
    exact isPlain_category_of_call hright hnone ((hiff _).1 hoperand)

/-- The conditions that are read back from their written form are those of the grammar. -/
theorem reads_back_iff_grammatical (c : Condition) : ofText c.written = .ok c ↔ c.Grammatical := by
  constructor
  · intro h
    obtain ⟨_, _, _, hcall, -, hoperand, -⟩ := ofText_eq_ok_iff.1 h
    obtain ⟨hcategory, hcategories⟩ := isPlain_category_of_ofText_written h
    exact ⟨Call.grammatical_iff_wellFormed.2 ⟨wellFormed_of_call hcall, hcategory⟩,
      Operand.grammatical_iff_wellFormed.2 ⟨wellFormed_of_operand hoperand, hcategories⟩⟩
  · rintro ⟨hleft, hright⟩
    obtain ⟨hleft, hcategory⟩ := Call.grammatical_iff_wellFormed.1 hleft
    obtain ⟨hright, hcategories⟩ := Operand.grammatical_iff_wellFormed.1 hright
    obtain ⟨_, behind, hcall, hoperator⟩ := exists_front hleft hcategory
    obtain ⟨_, hoperand⟩ := reads_operand hright hcategories behind
    exact ofText_eq_ok_iff.2 ⟨_, _, _, hcall, hoperator, hoperand, rfl⟩

end Condition
end AudioPolicy
