-- SUMMARY: Whether a call is nested too deep depends on nothing but how it is written.
import AudioPolicy.Proofs.Grammar
import AudioPolicy.Proofs.Outcomes
import AudioPolicy.Proofs.Targets
import Mathlib.Algebra.Order.BigOperators.Group.List
import Mathlib.Algebra.Order.Ring.Nat
import Mathlib.Order.Bounds.Defs

/-! # Nesting

A call may be written as an argument of another call. The nesting of a call is the length of
the longest chain of calls in which each is an argument of the one before. It is found in the
text alone, and a written call is shorter than the call around it, so every chain ends.

Evaluation reads the arguments level by level and counts the levels. What a placeholder stands
for or what a call comes to is never read as a call again. So the count runs out exactly along
the chains that are written, whatever the trigger, the store and the graph hold. -/

namespace AudioPolicy

/-! ## Written calls -/

/-- The call that is written as an argument. -/
def Argument.call? (a : Argument) : Option Call :=
  if a.quoted then none else (Call.ofText a.text).toOption

namespace Call

/-- The calls that are written as arguments of a call. -/
def inner (c : Call) : List Call := (c.mandatory :: c.optional).filterMap Argument.call?

/-- How long the arguments of a call are together. -/
def size (c : Call) : Nat := ((c.mandatory :: c.optional).map (·.text.length)).sum

end Call

namespace Expression

variable {at_ next : Cursor} {cs text : List Char}

theorem eq_append_of_closeQuote {offset : Nat} (h : closeQuote offset cs = some (text, next)) :
    cs = text ++ '"' :: next.rest := by
  induction cs generalizing offset text with
  | nil => cases h
  | cons c cs ih =>
    unfold closeQuote at h
    split at h
    next hc =>
      cases h
      rw [hc]
      rfl
    next =>
      obtain ⟨found, hfound, htext⟩ := Option.map_eq_some_iff.1 h
      cases htext
      exact congrArg (c :: ·) (ih hfound)

theorem length_trimChars_le (cs : List Char) : (Text.trimChars cs).length ≤ cs.length := by
  have hstart : (Text.trimStart cs).length ≤ cs.length := (List.dropWhile_sublist _).length_le
  have hend : (Text.trimEnd (Text.trimStart cs)).length ≤ (Text.trimStart cs).length := by
    obtain ⟨blanks, -, happend⟩ := Text.exists_trimEnd_append (Text.trimStart cs)
    have hlength := congrArg List.length happend
    rw [List.length_append] at hlength
    omega
  exact hend.trans hstart

/-- The text of an argument and what stands behind it are parts of what was read. -/
theorem length_text_add_le {a : Argument} (h : argument at_ = .ok (a, next)) :
    a.text.length + next.rest.length ≤ at_.rest.length := by
  have hskip : at_.skipBlanks.rest.length ≤ at_.rest.length := at_.length_skip_le _
  unfold argument at h
  dsimp only at h
  split at h
  next rest hrest =>
    unfold quoted at h
    cases hclose : closeQuote (at_.skipBlanks.offset + '"'.utf8Size) rest with
    | none => simp [hclose] at h
    | some found =>
      obtain ⟨text, behind⟩ := found
      simp only [hclose, Except.ok.injEq, Prod.mk.injEq] at h
      obtain ⟨rfl, rfl⟩ := h
      rw [hrest, eq_append_of_closeQuote hclose] at hskip
      simp only [List.length_cons, List.length_append, String.length_ofList] at hskip ⊢
      omega
  next =>
    split at h
    next => cases h
    next text behind hplain =>
      cases h
      obtain ⟨hspelled, -⟩ := closes_of_plainFrom hplain
      have htrim := length_trimChars_le text
      rw [← hspelled] at hskip
      simp only [List.length_append, String.length_ofList] at hskip ⊢
      omega

theorem length_texts_lt {args : List Argument} (h : arguments at_ = .ok (args, next)) :
    (args.map (·.text.length)).sum < at_.rest.length := by
  induction args generalizing at_ with
  | nil =>
    obtain ⟨_, _, -, ⟨_, -, hargs, -⟩ | ⟨_, _, -, hargs, -⟩⟩ := arguments_eq_ok_iff.1 h
    · cases hargs
    · cases hargs
  | cons first others ih =>
    obtain ⟨_, behind, hfirst, ⟨rest, hrest, hargs, -⟩ | ⟨rest, _, hrest, hargs, hothers⟩⟩ :=
      arguments_eq_ok_iff.1 h
    all_goals
      obtain ⟨rfl, rfl⟩ := List.cons.inj hargs
      have hlength := length_text_add_le hfirst
      have hskip : behind.skipBlanks.rest.length ≤ behind.rest.length := behind.length_skip_le _
      rw [hrest, List.length_cons] at hskip
      simp only [List.map_cons, List.sum_cons]
    · simp only [List.map_nil, List.sum_nil]
      omega
    · have hmore := ih hothers
      change _ < rest.length at hmore
      omega

theorem openParenthesis_rest (h : openParenthesis at_ = .ok next) :
    Text.trimStart at_.rest = '(' :: next.rest := by
  unfold openParenthesis at h
  dsimp only at h
  split at h
  next rest hrest =>
    cases h
    rw [← skipBlanks_rest, hrest]
    rfl
  next => cases h

theorem identifier_rest (at_ : Cursor) :
    at_.identifier.2.rest = at_.rest.dropWhile Text.isWordChar :=
  Cursor.skipFrom_rest _ _ _

theorem size_lt_of_call {c : Call} (h : call at_ = .ok (c, next)) :
    c.size < at_.rest.length := by
  obtain ⟨inside, args, -, hopen, hargs, hassemble⟩ := call_eq_ok_iff.1 h
  obtain ⟨-, -, quoted, rfl⟩ := assemble_eq_ok_iff.1 hassemble
  have hlength := length_texts_lt hargs
  have hopened := openParenthesis_rest hopen
  rw [identifier_rest, skipBlanks_rest] at hopened
  have hinside : inside.rest.length < at_.rest.length := by
    have hsublist : ('(' :: inside.rest).Sublist at_.rest := by
      rw [← hopened]
      exact ((List.dropWhile_sublist _).trans (List.dropWhile_sublist _)).trans
        (List.dropWhile_sublist _)
    exact hsublist.length_le
  simp only [List.map_cons, List.sum_cons] at hlength
  simp only [Call.size, List.map_cons, List.sum_cons]
  omega

theorem atCall_of_call {c : Call} (h : call at_ = .ok (c, next)) :
    at_.skipBlanks.atCall = true := by
  obtain ⟨inside, _, hname, hopen, -, -⟩ := call_eq_ok_iff.1 h
  have hopened := openParenthesis_rest hopen
  rw [identifier_rest] at hopened
  change at_.skipBlanks.rest.takeWhile Text.isWordChar ≠ [] at hname
  simp [Cursor.atCall, hopened, hname]

end Expression

namespace Call

variable {c d : Call} {n : Nat}

theorem ofText_eq_ok_iff {text : String} : ofText text = .ok c ↔
    ∃ next, Expression.call (.start text) = .ok (c, next) ∧ Expression.finish next = .ok () := by
  unfold ofText
  simp only [Expression.bind_eq_ok_iff]
  constructor
  · rintro ⟨⟨_, next⟩, hcall, _, hfinish, h⟩
    cases h
    exact ⟨next, hcall, hfinish⟩
  · rintro ⟨next, hcall, hfinish⟩
    exact ⟨(c, next), hcall, (), hfinish, rfl⟩

theorem size_lt_of_ofText {text : String} (h : ofText text = .ok c) : c.size < text.length := by
  obtain ⟨_, hcall, -⟩ := ofText_eq_ok_iff.1 h
  exact Expression.size_lt_of_call hcall

/-- Every text that can be read as a call is recognised as one. -/
theorem isWrittenAs_of_ofText {text : String} (h : ofText text = .ok c) :
    isWrittenAs text = true := by
  obtain ⟨_, hcall, -⟩ := ofText_eq_ok_iff.1 h
  exact Expression.atCall_of_call hcall

end Call

theorem Argument.call?_eq_some_iff {a : Argument} {d : Call} :
    a.call? = some d ↔ a.quoted = false ∧ Call.ofText a.text = .ok d := by
  unfold call?
  cases a.quoted with
  | true => simp
  | false => cases h : Call.ofText a.text <;> simp [Except.toOption]

/-! ## Chains -/

namespace Call

variable {c d : Call} {n : Nat}

theorem mem_inner_iff : d ∈ c.inner ↔ ∃ a ∈ c.mandatory :: c.optional, a.call? = some d :=
  List.mem_filterMap

theorem size_lt_of_mem_inner (h : d ∈ c.inner) : d.size < c.size := by
  obtain ⟨a, ha, hcall⟩ := mem_inner_iff.1 h
  have hlength : a.text.length ≤ c.size := List.le_sum_of_mem (List.mem_map_of_mem ha)
  exact (size_lt_of_ofText (Argument.call?_eq_some_iff.1 hcall).2).trans_le hlength

/-- A call that has `n` calls one inside the other in it. -/
inductive Chain : Call → Nat → Prop
  | here {c : Call} : Chain c 0
  | inside {c d : Call} {n : Nat} : d ∈ c.inner → Chain d n → Chain c (n + 1)

/-- How deep calls are written inside of a call. -/
def nesting (c : Call) : Nat := (c.inner.attach.map fun d => d.1.nesting + 1).max?.getD 0
termination_by c.size
decreasing_by exact size_lt_of_mem_inner d.2

theorem nesting_eq (c : Call) : c.nesting = (c.inner.map fun d => d.nesting + 1).max?.getD 0 := by
  rw [nesting]
  exact congrArg (·.max?.getD 0) (List.attach_map_val (f := fun d : Call => d.nesting + 1))

theorem nesting_lt_of_mem_inner (h : d ∈ c.inner) : d.nesting < c.nesting := by
  rw [nesting_eq c]
  exact List.le_max?_getD_of_mem (List.mem_map_of_mem (f := fun d => d.nesting + 1) h)

theorem exists_mem_inner (h : n < c.nesting) : ∃ d ∈ c.inner, n ≤ d.nesting := by
  rw [nesting_eq c] at h
  cases hmax : (c.inner.map fun d => d.nesting + 1).max? with
  | none => simp [hmax] at h
  | some greatest =>
    obtain ⟨d, hd, hgreatest⟩ := List.mem_map.1 (List.max?_mem hmax)
    rw [hmax, Option.getD_some, ← hgreatest] at h
    exact ⟨d, hd, Nat.le_of_lt_succ h⟩

theorem chain_of_le_nesting (h : n ≤ c.nesting) : Chain c n := by
  induction n generalizing c with
  | zero => exact .here
  | succ n ih =>
    obtain ⟨d, hd, hn⟩ := exists_mem_inner h
    exact .inside hd (ih hn)

theorem Chain.le_nesting (h : Chain c n) : n ≤ c.nesting := by
  induction h with
  | here => exact Nat.zero_le _
  | inside hd _ ih => exact ih.trans_lt (nesting_lt_of_mem_inner hd)

/-- The nesting is the length of the longest chain. -/
theorem isGreatest_nesting (c : Call) : IsGreatest {n | Chain c n} c.nesting :=
  ⟨chain_of_le_nesting le_rfl, fun _ h => h.le_nesting⟩

end Call

/-! ## Results of steps -/

namespace Query

variable {α β : Type}

theorem exists_of_mapM_eq_ok {f : α → Except Failure β} {as : List α} {bs : List β}
    (h : as.mapM f = .ok bs) : ∀ a ∈ as, ∃ b, f a = .ok b := by
  induction as generalizing bs with
  | nil => exact fun a ha => absurd ha List.not_mem_nil
  | cons first others ih =>
    rw [List.mapM_cons] at h
    obtain ⟨b, hfirst, h⟩ := Expression.bind_eq_ok_iff.1 h
    obtain ⟨_, hothers, -⟩ := Expression.bind_eq_ok_iff.1 h
    exact List.forall_mem_cons.2 ⟨⟨b, hfirst⟩, ih hothers⟩

theorem failsOnly_mapM {P : Failure → Prop} {f : α → Except Failure β} {as : List α}
    (hf : ∀ a ∈ as, FailsOnly P (f a)) : FailsOnly P (as.mapM f) := by
  induction as with
  | nil => exact failsOnly_ok _
  | cons first others ih =>
    obtain ⟨hfirst, hothers⟩ := List.forall_mem_cons.1 hf
    rw [List.mapM_cons]
    exact failsOnly_bind hfirst fun b => failsOnly_bind (ih hothers) fun bs => failsOnly_ok _

end Query

/-! ## The limit -/

/-- The failure of a call that is nested too deep. -/
def Failure.ofNesting : Failure → Bool
  | .tooDeep _ => true
  | _ => false

/-- An answer does not fail for the nesting. -/
theorem Query.ofNesting_of_mayFail {q : Query} {f : Failure} (h : q.MayFail f) :
    f.ofNesting = false := by
  cases f with
  | tooDeep call =>
    exfalso
    cases h with
    | absent hreason => cases hreason
    | mistyped hreason => cases hreason
  | _ => rfl

namespace Evaluation

open Query

variable {scope : Scope} {call d : Call} {levels : Nat}

section
variable {inner : Call → Evaluation (List String)} {t : Trigger} {a : Argument}

/-- An argument that can be read as a call stands for the values of that call. -/
theorem outcome_resolve_of_call? (h : a.call? = some d) :
    outcome (resolve inner t a) = (outcome (inner d)).map Text.unwords := by
  obtain ⟨hquoted, hcall⟩ := Argument.call?_eq_some_iff.1 h
  rw [outcome_resolve_of_call hquoted (Call.isWrittenAs_of_ofText hcall), hcall]

/-- An argument fails with the call that is written in it, or because it cannot be read. -/
theorem failsOnly_resolve {P : Failure → Prop}
    (hmalformed : ∀ e, Call.isWrittenAs a.text = true → Call.ofText a.text = .error e →
      P (.malformed e))
    (hinner : ∀ d, a.call? = some d → FailsOnly P (outcome (inner d))) :
    FailsOnly P (outcome (resolve inner t a)) := by
  cases hquoted : a.quoted with
  | true =>
    rw [outcome_resolve_of_quoted hquoted]
    exact failsOnly_ok _
  | false =>
    cases hwritten : Call.isWrittenAs a.text with
    | true =>
      rw [outcome_resolve_of_call hquoted hwritten]
      cases hcall : Call.ofText a.text with
      | ok d => exact failsOnly_map (hinner d (Argument.call?_eq_some_iff.2 ⟨hquoted, hcall⟩)) _
      | error e => exact failsOnly_error (hmalformed e hwritten hcall)
    | false =>
      rw [outcome_resolve_of_plain hquoted hwritten]
      exact failsOnly_ok _

end

/-- A call fails for its function or its category, with one of its arguments, or as an answer
    does. -/
theorem failsOnly_valuesWithin_succ {P : Failure → Prop}
    (hfunction : ∀ name, P (.unknownFunction name)) (hcategory : ∀ name, P (.unknownCategory name))
    (hanswer : ∀ (q : Query) f, q.MayFail f → P f)
    (hresolve : ∀ a ∈ call.mandatory :: call.optional,
      FailsOnly P (outcome (resolve (valuesWithin scope levels) scope.trigger a))) :
    FailsOnly P (outcome (valuesWithin scope (levels + 1) call)) := by
  obtain ⟨hmandatory, hoptional⟩ := List.forall_mem_cons.1 hresolve
  rw [outcome_valuesWithin_succ]
  refine failsOnly_bind ?_ fun function => failsOnly_bind ?_ fun category =>
    failsOnly_bind hmandatory fun mandatory =>
      failsOnly_bind (failsOnly_mapM hoptional) fun optional => ?_
  · unfold functionOf
    split
    · exact failsOnly_ok _
    · exact failsOnly_error (hfunction _)
  · unfold categoryOf
    split
    · exact failsOnly_ok _
    · exact failsOnly_error (hcategory _)
  · exact fun f hf => hanswer _ f (failsOnly_answer f hf)

/-- A call has values only if all of its arguments stand for texts. -/
theorem exists_text_of_values {values : List String}
    (h : outcome (valuesWithin scope (levels + 1) call) = .ok values) :
    ∀ a ∈ call.mandatory :: call.optional,
      ∃ text, outcome (resolve (valuesWithin scope levels) scope.trigger a) = .ok text := by
  rw [outcome_valuesWithin_succ] at h
  obtain ⟨_, -, h⟩ := Expression.bind_eq_ok_iff.1 h
  obtain ⟨_, -, h⟩ := Expression.bind_eq_ok_iff.1 h
  obtain ⟨mandatory, hmandatory, h⟩ := Expression.bind_eq_ok_iff.1 h
  obtain ⟨_, hoptional, -⟩ := Expression.bind_eq_ok_iff.1 h
  exact List.forall_mem_cons.2 ⟨⟨mandatory, hmandatory⟩, exists_of_mapM_eq_ok hoptional⟩

/-- With too few levels there are no values. -/
theorem valuesWithin_ne_ok (h : levels ≤ call.nesting) (values : List String) :
    outcome (valuesWithin scope levels call) ≠ .ok values := by
  induction levels generalizing call values with
  | zero => exact fun hok => nomatch hok
  | succ levels ih =>
    -- The deepest chain goes through an argument, and the others may fail as they like.
    intro hok
    obtain ⟨d, hd, hlevels⟩ := Call.exists_mem_inner h
    obtain ⟨a, ha, hcall⟩ := Call.mem_inner_iff.1 hd
    obtain ⟨text, htext⟩ := exists_text_of_values hok a ha
    rw [outcome_resolve_of_call? hcall] at htext
    cases hinner : outcome (valuesWithin scope levels d) with
    | ok inner => exact ih hlevels inner hinner
    | error f =>
      rw [hinner] at htext
      cases htext

/-- With enough levels they never run out. -/
theorem failsOnly_valuesWithin (h : call.nesting < levels) :
    FailsOnly (·.ofNesting = false) (outcome (valuesWithin scope levels call)) := by
  induction levels generalizing call with
  | zero => exact absurd h (Nat.not_lt_zero _)
  | succ levels ih =>
    refine failsOnly_valuesWithin_succ (fun _ => rfl) (fun _ => rfl)
      (fun _ _ => ofNesting_of_mayFail) fun a ha => ?_
    refine failsOnly_resolve (fun _ _ _ => rfl) fun d hcall => ih ?_
    have hd : d ∈ call.inner := Call.mem_inner_iff.2 ⟨a, ha, hcall⟩
    exact (Call.nesting_lt_of_mem_inner hd).trans_le (Nat.le_of_lt_succ h)

/-- Whether a call is nested too deep is found in its text. One that is has no values,
    whatever the trigger, the store and the graph hold, and one that is not never fails for
    its nesting. -/
theorem nesting_bounds_evaluation (call : Call) :
    IsGreatest {n | call.Chain n} call.nesting ∧
      (Failure.maxDepth < call.nesting →
        ∀ scope result, outcome (values scope call) ≠ .ok result) ∧
      (call.nesting ≤ Failure.maxDepth →
        ∀ scope inner, outcome (values scope call) ≠ .error (.tooDeep inner)) := by
  refine ⟨call.isGreatest_nesting, fun h scope result => valuesWithin_ne_ok h result, ?_⟩
  intro h scope inner htooDeep
  cases failsOnly_valuesWithin (Nat.lt_succ_of_le h) _ htooDeep

/-- Eight calls may stand inside of a call, nine may not. A sink name that looks like a call is
    passed on through all of them and adds no level. -/
theorem nesting_bounds_towers :
    let tower (height : Nat) : Call :=
      { function := "name"
        category := "SINK"
        mandatory :=
          ⟨height.repeat (fun inner => "name(SINK," ++ inner ++ ")") "REQ_SINK_NAME", false⟩
        optional := [] }
    let scope : Scope :=
      { store := .empty, graph := {}, trigger := .systemRegisterSink "name(SINK,ALL)" }
    (Failure.maxDepth < (tower 9).nesting ∧
        ∀ scope result, outcome (values scope (tower 9)) ≠ .ok result) ∧
      (tower 8).nesting ≤ Failure.maxDepth ∧
        (∀ scope inner, outcome (values scope (tower 8)) ≠ .error (.tooDeep inner)) ∧
        outcome (values scope (tower 8)) = .ok ["name(SINK,ALL)"] := by
  intro tower scope
  have hnesting : (tower 8).nesting = Failure.maxDepth := by decide +kernel
  have hinner : tower 8 ∈ (tower 9).inner := by decide +kernel
  have hdeep : Failure.maxDepth < (tower 9).nesting :=
    hnesting ▸ Call.nesting_lt_of_mem_inner hinner
  obtain ⟨-, hvalues, -⟩ := nesting_bounds_evaluation (tower 9)
  obtain ⟨-, -, hlimit⟩ := nesting_bounds_evaluation (tower 8)
  exact ⟨⟨hdeep, hvalues hdeep⟩, hnesting.le, hlimit hnesting.le, by decide +kernel⟩

end Evaluation

end AudioPolicy
