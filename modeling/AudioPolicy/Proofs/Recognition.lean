-- SUMMARY: A text is recognised as a call exactly if reading it gets as far as its arguments.
import AudioPolicy.Proofs.Nesting
import AudioPolicy.Proofs.Reports

/-! # Recognising calls

Whether a text is written as a call is decided by a look ahead, and the call is read by a
cursor afterwards. The two agree on every text. Reading fails in front of the arguments, for
want of a text, a name or a parenthesis, exactly if the look ahead says no.

Evaluation reads nothing as a call that was not recognised before, so none of these three
mistakes ever comes out of an evaluation. -/

namespace AudioPolicy

/-- The mistakes in front of the arguments of a call. -/
inductive SyntaxError.BeforeArguments : SyntaxError → Prop
  | empty : BeforeArguments .empty
  | unnamed {offset : Nat} : BeforeArguments (.expected "function name" offset)
  | unopened {offset : Nat} : BeforeArguments (.expected "'('" offset)

theorem SyntaxError.beforeArguments_expected_iff {what : String} {offset : Nat} :
    BeforeArguments (.expected what offset) ↔ what = "function name" ∨ what = "'('" := by
  constructor
  · rintro (_ | _)
    · exact .inl rfl
    · exact .inr rfl
  · rintro (rfl | rfl)
    · exact .unnamed
    · exact .unopened

namespace Expression

variable {at_ next : Cursor} {cs : List Char} {e : SyntaxError}

theorem bind_eq_error_iff {ε α β : Type} {x : Except ε α} {f : α → Except ε β} {e : ε} :
    x >>= f = .error e ↔ x = .error e ∨ ∃ a, x = .ok a ∧ f a = .error e := by
  cases x with
  | error e' =>
    constructor
    · rintro ⟨⟩
      exact .inl rfl
    · rintro (⟨⟨⟩⟩ | ⟨_, ⟨⟩, _⟩)
      rfl
  | ok a =>
    constructor
    · exact fun h => .inr ⟨a, rfl, h⟩
    · rintro (⟨⟨⟩⟩ | ⟨_, ⟨⟩, h⟩)
      exact h

/-! ## Mistakes behind the parenthesis -/

theorem eq_unterminatedQuote_of_quoted {rest : List Char} (h : quoted at_ rest = .error e) :
    e = .unterminatedQuote at_.offset := by
  unfold quoted at h
  split at h
  · cases h
    rfl
  · cases h

theorem eq_error_of_map_prepend {c : Char} {result : Except SyntaxError (List Char × Cursor)}
    (h : result.map (prepend c) = .error e) : result = .error e := by
  cases result with
  | error e' => exact h
  | ok found => cases h

/-- A plain argument fails only for a quote in it that does not end. -/
theorem exists_unterminatedQuote_of_plainFrom {quote : Option Nat} {depth offset : Nat}
    (h : plainFrom quote depth offset cs = .error e) : ∃ start, e = .unterminatedQuote start := by
  induction cs generalizing quote depth offset with
  | nil =>
    cases quote with
    | some start =>
      cases h
      exact ⟨start, rfl⟩
    | none => cases h
  | cons c cs ih =>
    unfold plainFrom at h
    cases quote with
    | some start => exact ih (eq_error_of_map_prepend h)
    | none =>
      dsimp only at h
      split at h
      next => exact ih (eq_error_of_map_prepend h)
      next =>
        split at h
        next => exact ih (eq_error_of_map_prepend h)
        next =>
          split at h
          next => cases h
          next => split at h <;> exact ih (eq_error_of_map_prepend h)

theorem exists_unterminatedQuote_of_argument (h : argument at_ = .error e) :
    ∃ start, e = .unterminatedQuote start := by
  unfold argument at h
  dsimp only at h
  split at h
  next rest _ =>
    split at h
    next hquoted =>
      cases h
      exact ⟨_, eq_unterminatedQuote_of_quoted hquoted⟩
    next => cases h
  next =>
    split at h
    next hplain =>
      cases h
      exact exists_unterminatedQuote_of_plainFrom hplain
    next => cases h

theorem not_beforeArguments_of_quote (h : ∃ start, e = .unterminatedQuote start) :
    ¬e.BeforeArguments := by
  obtain ⟨start, rfl⟩ := h
  exact fun hbefore => nomatch hbefore

theorem not_beforeArguments_of_arguments (h : arguments at_ = .error e) : ¬e.BeforeArguments := by
  fun_induction arguments at_ with
  | case1 at_ e' hfirst =>
    cases h
    exact not_beforeArguments_of_quote (exists_unterminatedQuote_of_argument hfirst)
  | case2 =>
    cases h
    simp [SyntaxError.beforeArguments_expected_iff]
  | case3 => cases h
  | case4 at_ first next _ rest e' _ _ _ _ hothers ih =>
    cases h
    exact ih hothers
  | case5 => cases h
  | case6 =>
    cases h
    simp [SyntaxError.beforeArguments_expected_iff]

theorem not_beforeArguments_of_assemble {name : String} {args : List Argument}
    (h : assemble name args = .error e) : ¬e.BeforeArguments := by
  unfold assemble at h
  split at h
  · split at h
    · cases h
    · cases h
      exact fun hbefore => nomatch hbefore
  · cases h
    exact fun hbefore => nomatch hbefore

theorem not_beforeArguments_of_finish (h : finish at_ = .error e) : ¬e.BeforeArguments := by
  unfold finish at h
  dsimp only at h
  split at h
  · cases h
  · cases h
    exact fun hbefore => nomatch hbefore

/-! ## The look ahead -/

/-- The look ahead sees a name and, behind blanks, a parenthesis. -/
theorem atCall_iff_opened : at_.atCall = true ↔
    at_.identifier.1 ≠ [] ∧ at_.identifier.2.skipBlanks.rest.head? = some '(' := by
  unfold Cursor.atCall
  rw [Bool.and_eq_true, Bool.not_eq_true', List.isEmpty_eq_false_iff, beq_iff_eq,
    skipBlanks_rest, identifier_rest]
  rfl

theorem openParenthesis_eq_ok_iff : (∃ inside, openParenthesis at_ = .ok inside) ↔
    at_.skipBlanks.rest.head? = some '(' := by
  unfold openParenthesis
  dsimp only
  split
  next rest hrest => simp [hrest]
  next hrest =>
    constructor
    · rintro ⟨_, ⟨⟩⟩
    · intro hhead
      obtain ⟨rest, hopen⟩ := List.head?_eq_some_iff.1 hhead
      exact absurd hopen (hrest rest)

theorem beforeArguments_of_openParenthesis (h : openParenthesis at_ = .error e) :
    e.BeforeArguments := by
  unfold openParenthesis at h
  dsimp only at h
  split at h
  · cases h
  · cases h
    exact .unopened

/-- Reading a call fails in front of its arguments exactly if the look ahead says no. -/
theorem beforeArguments_iff_of_call (h : call at_ = .error e) :
    e.BeforeArguments ↔ at_.skipBlanks.atCall = false := by
  rw [← Bool.not_eq_true, atCall_iff_opened]
  unfold call at h
  dsimp only at h
  split at h
  next hempty =>
    cases h
    have hname : at_.skipBlanks.identifier.1 = [] := by
      rw [Cursor.identifier, List.isEmpty_iff.1 hempty, List.takeWhile_nil]
    exact iff_of_true .empty fun hopened => hopened.1 hname
  next =>
    split at h
    next hname =>
      cases h
      exact iff_of_true .unnamed fun hopened => hopened.1 (List.isEmpty_iff.1 hname)
    next hname =>
      rw [bind_eq_error_iff] at h
      rcases h with hopen | ⟨inside, hopen, h⟩
      · refine iff_of_true (beforeArguments_of_openParenthesis hopen) fun hopened => ?_
        obtain ⟨inside, hinside⟩ := openParenthesis_eq_ok_iff.2 hopened.2
        cases hopen.symm.trans hinside
      · have hopened := openParenthesis_eq_ok_iff.1 ⟨inside, hopen⟩
        refine iff_of_false ?_ fun hclosed => hclosed ⟨mt List.isEmpty_iff.2 hname, hopened⟩
        rw [bind_eq_error_iff] at h
        rcases h with hargs | ⟨⟨args, behind⟩, -, h⟩
        · exact not_beforeArguments_of_arguments hargs
        · rw [bind_eq_error_iff] at h
          rcases h with hcall | ⟨_, -, ⟨⟩⟩
          exact not_beforeArguments_of_assemble hcall

/-! ## Conditions -/

theorem not_beforeArguments_of_operator (h : operator at_ = .error e) : ¬e.BeforeArguments := by
  unfold operator at h
  dsimp only at h
  split at h
  · cases h
    simp [SyntaxError.beforeArguments_expected_iff]
  · split at h
    · cases h
    · cases h
      exact fun hbefore => nomatch hbefore

/-- The right side is read as a call only where the look ahead sees one. -/
theorem not_beforeArguments_of_operand (h : operand at_ = .error e) : ¬e.BeforeArguments := by
  unfold operand at h
  dsimp only at h
  split at h
  next rest hrest =>
    rw [bind_eq_error_iff] at h
    rcases h with hquoted | ⟨_, -, ⟨⟩⟩
    exact not_beforeArguments_of_quote ⟨_, eq_unterminatedQuote_of_quoted hquoted⟩
  next =>
    split at h
    next hcall =>
      rw [bind_eq_error_iff] at h
      rcases h with herror | ⟨_, -, ⟨⟩⟩
      have hskip : at_.skipBlanks.skipBlanks.rest = at_.skipBlanks.rest :=
        (skipBlanks_rest _).trans (Text.trimStart_eq_self (head?_skipBlanks at_))
      rw [beforeArguments_iff_of_call herror, Bool.not_eq_false]
      exact atCall_of_begins (hskip ▸ List.prefix_rfl) hcall
    next =>
      split at h
      · cases h
        simp [SyntaxError.beforeArguments_expected_iff]
      · cases h

end Expression

open Expression

variable {text : String} {e : SyntaxError}

theorem Call.beforeArguments_iff_of_ofText (h : ofText text = .error e) :
    e.BeforeArguments ↔ isWrittenAs text = false := by
  unfold ofText at h
  rw [bind_eq_error_iff] at h
  rcases h with hcall | ⟨⟨c, next⟩, hcall, h⟩
  · exact beforeArguments_iff_of_call hcall
  · have hwritten : isWrittenAs text = true := atCall_of_call hcall
    rw [bind_eq_error_iff] at h
    rcases h with hfinish | ⟨_, -, ⟨⟩⟩
    exact iff_of_false (not_beforeArguments_of_finish hfinish) (by simp [hwritten])

theorem Condition.isWrittenAs_of_ofText {c : Condition} (h : ofText text = .ok c) :
    Call.isWrittenAs text = true := by
  obtain ⟨_, _, _, hcall, -⟩ := ofText_eq_ok_iff.1 h
  exact atCall_of_call hcall

theorem Condition.beforeArguments_iff_of_ofText (h : ofText text = .error e) :
    e.BeforeArguments ↔ Call.isWrittenAs text = false := by
  unfold ofText at h
  rw [bind_eq_error_iff] at h
  rcases h with hcall | ⟨⟨left, next⟩, hcall, h⟩
  · exact beforeArguments_iff_of_call hcall
  · have hwritten : Call.isWrittenAs text = true := atCall_of_call hcall
    refine iff_of_false ?_ (by simp [hwritten])
    rw [bind_eq_error_iff] at h
    rcases h with hoperator | ⟨⟨op, next⟩, -, h⟩
    · exact not_beforeArguments_of_operator hoperator
    rw [bind_eq_error_iff] at h
    rcases h with hoperand | ⟨⟨right, next⟩, -, h⟩
    · exact not_beforeArguments_of_operand hoperand
    rw [bind_eq_error_iff] at h
    rcases h with hfinish | ⟨_, -, ⟨⟩⟩
    exact not_beforeArguments_of_finish hfinish

/-- Where reading succeeds only on what is recognised, and fails in front of the arguments only
    on what is not, it fails so on all that is not. -/
theorem eq_false_iff_exists_beforeArguments {α : Type} {recognised : Bool}
    {reading : Except SyntaxError α} (hok : ∀ a, reading = .ok a → recognised = true)
    (herror : ∀ e, reading = .error e → (e.BeforeArguments ↔ recognised = false)) :
    recognised = false ↔ ∃ e, reading = .error e ∧ e.BeforeArguments := by
  constructor
  · intro hunrecognised
    cases hreading : reading with
    | ok a => cases hunrecognised.symm.trans (hok a hreading)
    | error e => exact ⟨e, rfl, (herror e hreading).2 hunrecognised⟩
  · rintro ⟨e, hreading, hbefore⟩
    exact (herror e hreading).1 hbefore

/-! ## Evaluation -/

/-- The failures in which the evaluation of a call may end. -/
inductive Failure.OfCall : Failure → Prop
  | unknownFunction {name : String} : OfCall (.unknownFunction name)
  | unknownCategory {name : String} : OfCall (.unknownCategory name)
  | tooDeep {call : Call} : OfCall (.tooDeep call)
  /-- A text that was recognised as a call cannot be read as one. -/
  | malformed {text : String} {e : SyntaxError} :
      Call.isWrittenAs text = true → Call.ofText text = .error e → OfCall (.malformed e)
  | answer {q : Query} {f : Failure} : q.MayFail f → OfCall f

/-- Something was read as a call that does not get as far as its arguments. -/
inductive Failure.BeforeArguments : Failure → Prop
  | malformed {e : SyntaxError} : e.BeforeArguments → BeforeArguments (.malformed e)

theorem Failure.OfCall.not_beforeArguments {f : Failure} (h : f.OfCall) : ¬f.BeforeArguments := by
  rintro ⟨hbefore⟩
  cases h with
  | malformed hwritten hread =>
    have hunwritten := (Call.beforeArguments_iff_of_ofText hread).1 hbefore
    cases hwritten.symm.trans hunwritten
  | answer hmay =>
    cases hmay with
    | absent hreason => cases hreason
    | mistyped hreason => cases hreason

namespace Evaluation

open Query

variable {scope : Scope} {text : String}

theorem ofCall_resolve {inner : Call → Evaluation (List String)}
    (hinner : ∀ call, FailsOnly Failure.OfCall (outcome (inner call))) (t : Trigger)
    (a : Argument) : FailsOnly Failure.OfCall (outcome (resolve inner t a)) :=
  failsOnly_resolve (fun _ => .malformed) fun d _ => hinner d

theorem ofCall_valuesWithin (scope : Scope) (levels : Nat) (call : Call) :
    FailsOnly Failure.OfCall (outcome (valuesWithin scope levels call)) := by
  induction levels generalizing call with
  | zero => exact failsOnly_error .tooDeep
  | succ levels ih =>
    exact failsOnly_valuesWithin_succ (fun _ => .unknownFunction) (fun _ => .unknownCategory)
      (fun _ _ => .answer) fun a _ => ofCall_resolve ih scope.trigger a

theorem ofCall_callText (hwritten : Call.isWrittenAs text = true) :
    FailsOnly Failure.OfCall (outcome (callText scope text)) := by
  unfold callText
  cases hread : Call.ofText text with
  | ok call =>
    dsimp only
    rw [outcome_bind]
    exact failsOnly_bind (ofCall_valuesWithin scope _ call) fun _ => failsOnly_ok _
  | error e => exact failsOnly_error (.malformed hwritten hread)

/-- What a parameter reports to have failed is the evaluation of a call. -/
theorem ofCall_of_expressionFailed {expression : String} {f : Failure}
    (h : .warning (.expressionFailed expression f) ∈ (parameter scope text).events) :
    f.OfCall := by
  have hreports : (parameter scope text).Reports fun e =>
      ∀ expression f, e = .warning (.expressionFailed expression f) → f.OfCall := by
    have hplaceholder : ∀ e, Event.OfPlaceholder e →
        ∀ expression f, e = .warning (.expressionFailed expression f) → f.OfCall := by
      rintro _ ⟨⟩ _ _ ⟨⟩
    unfold parameter
    split
    next hwritten =>
      refine Logged.reports_bind_value ((reports_callText scope text).mono hplaceholder) ?_
      cases hfailed : (callText scope text).run.value with
      | ok value => exact Logged.reports_pure value
      | error failure =>
        have hcall : failure.OfCall := ofCall_callText hwritten failure hfailed
        refine Logged.reports_bind (Logged.reports_warn ?_) fun _ =>
          Logged.reports_bind (Logged.reports_count ?_) fun _ => Logged.reports_pure _
        · rintro _ _ ⟨⟩
          exact hcall
        · rintro _ _ ⟨⟩
    next => exact (reports_expand scope.trigger text).mono hplaceholder
  exact hreports _ h _ _ rfl

/-- The look ahead and the reading of a call agree on every text, also in front of a condition.
    So what is recognised as a call, as an argument on any level of nesting or as a parameter,
    never fails for want of a text, a name or a parenthesis. -/
theorem recognition_agrees_with_reading (scope : Scope) (text : String) :
    (Call.isWrittenAs text = false ↔ ∃ e, Call.ofText text = .error e ∧ e.BeforeArguments) ∧
      (Call.isWrittenAs text = false ↔
        ∃ e, Condition.ofText text = .error e ∧ e.BeforeArguments) ∧
      (∀ c, Call.ofText text = .ok c → Call.isWrittenAs text = true) ∧
      (∀ levels f,
        outcome (resolve (valuesWithin scope levels) scope.trigger ⟨text, false⟩) = .error f →
          ¬f.BeforeArguments) ∧
      ∀ f, .warning (.expressionFailed text f) ∈ (parameter scope text).events →
        ¬f.BeforeArguments := by
  have hcalls : ∀ c, Call.ofText text = .ok c → Call.isWrittenAs text = true :=
    fun _ => Call.isWrittenAs_of_ofText
  have hconditions : ∀ c, Condition.ofText text = .ok c → Call.isWrittenAs text = true :=
    fun _ => Condition.isWrittenAs_of_ofText
  refine ⟨?_, ?_, hcalls, fun levels f hfailed => ?_, fun f hwarned => ?_⟩
  · exact eq_false_iff_exists_beforeArguments hcalls fun _ => Call.beforeArguments_iff_of_ofText
  · exact eq_false_iff_exists_beforeArguments hconditions fun _ =>
      Condition.beforeArguments_iff_of_ofText
  · exact (ofCall_resolve (ofCall_valuesWithin scope levels) scope.trigger _ f
      hfailed).not_beforeArguments
  · exact (ofCall_of_expressionFailed hwarned).not_beforeArguments

/-- A name behind a wide blank and in front of blanks is recognised, and what is wrong with the
    text is found in its arguments. A letter that is not ASCII ends the name. -/
theorem recognition_agrees_with_reading_of_two_texts :
    let scope : Scope := { store := .empty, graph := {}, trigger := .systemRegisterSink "Amp" }
    let recognised := "\u2003name (\"SINK\" é)"
    let unrecognised := "né(SINK, ALL)"
    let warned : Warning :=
      .expressionFailed recognised (.malformed (.expected "',' or ')'" 18))
    (Call.ofText recognised = .error (.expected "',' or ')'" 18) ∧
        .warning warned ∈ (parameter scope recognised).events ∧
        ¬(Failure.malformed (.expected "',' or ')'" 18)).BeforeArguments) ∧
      Call.ofText unrecognised = .error (.expected "'('" 1) ∧
        Call.isWrittenAs unrecognised = false := by
  intro scope recognised unrecognised warned
  have hwarned : .warning warned ∈ (parameter scope recognised).events := by decide +kernel
  have hread : Call.ofText unrecognised = .error (.expected "'('" 1) := by decide +kernel
  obtain ⟨-, -, -, -, hfailed⟩ := recognition_agrees_with_reading scope recognised
  obtain ⟨hrecognised, -⟩ := recognition_agrees_with_reading scope unrecognised
  exact ⟨⟨by decide +kernel, hwarned, hfailed _ hwarned⟩, hread,
    hrecognised.2 ⟨_, hread, .unopened⟩⟩

end Evaluation
end AudioPolicy
