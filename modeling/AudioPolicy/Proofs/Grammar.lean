-- SUMMARY: The written grammar of conditions, and that whatever the reader yields is well-formed.
import AudioPolicy.Expression.Reader
import AudioPolicy.Proofs.Words
import Mathlib.Data.List.DropRight

/-! # The grammar of expressions

A quoted argument ends at the next quote, so it has no quote in it. A plain one is trimmed,
does not begin with a quote, and is closed: it closes every quote and parenthesis that it
opens, and has no comma outside of them. The reader yields nothing else, whatever the text
looks like. Only of a category it does not keep whether it was quoted. -/

namespace AudioPolicy

/-! ## Blanks -/

namespace Text

variable {cs : List Char}

theorem ne_of_isBlank {c d : Char} (hc : isBlank c = true) (hd : isBlank d = false) : c ≠ d := by
  rintro rfl
  rw [hc] at hd
  cases hd

section
variable {inClass : Char → Bool} {run rest : List Char}

/-- A run of a class ends where a character outside of the class follows. -/
theorem takeWhile_append (hrun : ∀ c ∈ run, inClass c = true)
    (hrest : ∀ c ∈ rest.head?, inClass c = false) : (run ++ rest).takeWhile inClass = run := by
  rw [List.takeWhile_append_of_pos hrun]
  cases rest with
  | nil => simp
  | cons c rest => simp [hrest c rfl]

theorem dropWhile_append (hrun : ∀ c ∈ run, inClass c = true)
    (hrest : ∀ c ∈ rest.head?, inClass c = false) : (run ++ rest).dropWhile inClass = rest := by
  rw [List.dropWhile_append_of_pos hrun]
  cases rest with
  | nil => rfl
  | cons c rest => simp [hrest c rfl]

end

theorem trimStart_eq_self (h : ∀ c ∈ cs.head?, isBlank c = false) : trimStart cs = cs := by
  change ([] ++ cs).dropWhile isBlank = cs
  exact dropWhile_append (fun c hc => absurd hc List.not_mem_nil) h

theorem head?_trimStart (cs : List Char) : ∀ c ∈ (trimStart cs).head?, isBlank c = false := by
  intro c hc
  have h := List.head?_dropWhile_not isBlank cs
  unfold trimStart at hc
  rw [Option.mem_def.1 hc] at h
  simpa using h

/-- The end is trimmed of blanks only. -/
theorem exists_trimEnd_append (cs : List Char) :
    ∃ blanks, (∀ c ∈ blanks, isBlank c = true) ∧ trimEnd cs ++ blanks = cs :=
  ⟨cs.rtakeWhile isBlank, fun _ => List.mem_rtakeWhile_imp, List.rdropWhile_append_rtakeWhile⟩

theorem head?_trimEnd {c : Char} (h : c ∈ (trimEnd cs).head?) : c ∈ cs.head? := by
  obtain ⟨blanks, -, hcs⟩ := exists_trimEnd_append cs
  rw [← hcs]
  exact List.mem_head?_append_of_mem_head? h

theorem trimStart_trimEnd (h : ∀ c ∈ cs.head?, isBlank c = false) :
    trimStart (trimEnd cs) = trimEnd cs :=
  trimStart_eq_self fun c hc => h c (head?_trimEnd hc)

theorem trimChars_eq_trimEnd (h : ∀ c ∈ cs.head?, isBlank c = false) :
    trimChars cs = trimEnd cs :=
  congrArg trimEnd (trimStart_eq_self h)

theorem trimChars_trimChars (cs : List Char) : trimChars (trimChars cs) = trimChars cs := by
  unfold trimChars
  rw [trimStart_trimEnd (head?_trimStart cs)]
  exact List.rdropWhile_idempotent _ _

theorem head?_of_trimmed (h : trimChars cs = cs) : ∀ c ∈ cs.head?, isBlank c = false := by
  rw [← h]
  exact fun c hc => head?_trimStart cs c (head?_trimEnd hc)

end Text

/-! ## Well-formed expressions -/

/-- Whether a text closes everything, when a quote or `depth` parentheses are open in front
    of it. A comma may stand only inside of quotes or parentheses. -/
def Expression.closes (inQuote : Bool) (depth : Nat) : List Char → Bool
  | [] => !inQuote && depth == 0
  | c :: cs =>
    if inQuote then closes (c ≠ '"') depth cs
    else if c = '"' then closes true depth cs
    else if c = '(' then closes false (depth + 1) cs
    else if depth = 0 ∧ (c = ')' ∨ c = ',') then false
    else if c = ')' then closes false (depth - 1) cs
    else closes false depth cs

theorem Expression.closes_outside (depth : Nat) (c : Char) (cs : List Char) :
    closes false depth (c :: cs) =
      if c = '"' then closes true depth cs
      else if c = '(' then closes false (depth + 1) cs
      else if depth = 0 ∧ (c = ')' ∨ c = ',') then false
      else if c = ')' then closes false (depth - 1) cs
      else closes false depth cs := rfl

/-- A text that can stand as an argument without quotes. -/
structure Argument.IsPlain (text : String) : Prop where
  trimmed : Text.trimChars text.toList = text.toList
  unquoted : '"' ∉ text.toList.head?
  closed : Expression.closes false 0 text.toList = true

/-- An argument that can be written. -/
structure Argument.WellFormed (a : Argument) : Prop where
  quoted : a.quoted = true → '"' ∉ a.text.toList
  plain : a.quoted = false → IsPlain a.text

/-- A call that can be written, except perhaps for its category. -/
structure Call.WellFormed (c : Call) : Prop where
  named : c.function ≠ ""
  word : ∀ d ∈ c.function.toList, Text.isWordChar d = true
  mandatory : c.mandatory.WellFormed
  optional : ∀ a ∈ c.optional, a.WellFormed
  few : c.optional.length ≤ maxOptional

/-- A text that can stand on the right side of a condition without quotes. -/
structure Operand.IsPlain (text : String) : Prop where
  nonempty : text ≠ ""
  trimmed : Text.trimChars text.toList = text.toList
  unquoted : '"' ∉ text.toList.head?
  uncalled : Call.isWrittenAs text = false

/-- A right side that can be written, except perhaps for a category. -/
inductive Operand.WellFormed : Operand → Prop
  | call {c : Call} : c.WellFormed → WellFormed (.call c)
  | quoted {text : String} : '"' ∉ text.toList → WellFormed (.literal ⟨text, true⟩)
  | plain {text : String} : IsPlain text → WellFormed (.literal ⟨text, false⟩)

namespace Expression

variable {at_ next : Cursor} {cs text : List Char}

/-! ## Cursors -/

theorem skipBlanks_rest (at_ : Cursor) : at_.skipBlanks.rest = Text.trimStart at_.rest :=
  Cursor.skipFrom_rest _ _ _

theorem head?_skipBlanks (at_ : Cursor) : ∀ c ∈ at_.skipBlanks.rest.head?, Text.isBlank c = false :=
  skipBlanks_rest at_ ▸ Text.head?_trimStart at_.rest

/-- A call starts with a word, then blanks, then a parenthesis. -/
theorem atCall_iff : at_.atCall = true ↔
    ∃ word blanks inside, word ≠ [] ∧ (∀ c ∈ word, Text.isWordChar c = true) ∧
      (∀ c ∈ blanks, Text.isBlank c = true) ∧ at_.rest = word ++ (blanks ++ '(' :: inside) := by
  unfold Cursor.atCall
  rw [Bool.and_eq_true, Bool.not_eq_true', List.isEmpty_eq_false_iff, beq_iff_eq]
  constructor
  · rintro ⟨hword, hopen⟩
    obtain ⟨inside, hinside⟩ := List.head?_eq_some_iff.1 hopen
    refine ⟨_, (at_.rest.dropWhile Text.isWordChar).takeWhile Text.isBlank, inside, hword,
      fun c => List.mem_takeWhile_imp, fun c => List.mem_takeWhile_imp, ?_⟩
    rw [← hinside, Text.trimStart, List.takeWhile_append_dropWhile,
      List.takeWhile_append_dropWhile]
  · rintro ⟨word, blanks, inside, hne, hword, hblanks, hrest⟩
    have hbehind : ∀ c ∈ (blanks ++ '(' :: inside).head?, Text.isWordChar c = false := by
      intro c hc
      cases blanks with
      | nil =>
        cases hc
        rfl
      | cons b blanks =>
        cases hc
        exact Text.isWordChar_of_isBlank (hblanks c List.mem_cons_self)
    rw [hrest, Text.takeWhile_append hword hbehind, Text.dropWhile_append hword hbehind]
    refine ⟨hne, ?_⟩
    rw [Text.trimStart, Text.dropWhile_append hblanks (by rintro c ⟨⟩; rfl), List.head?_cons]

theorem atCall_of_begins (hbegin : at_.rest <+: next.rest) (h : at_.atCall = true) :
    next.atCall = true := by
  obtain ⟨word, blanks, inside, hne, hword, hblanks, hrest⟩ := atCall_iff.1 h
  obtain ⟨behind, hnext⟩ := hbegin
  refine atCall_iff.2 ⟨word, blanks, inside ++ behind, hne, hword, hblanks, ?_⟩
  rw [← hnext, hrest]
  simp

/-! ## Arguments -/

theorem bind_eq_ok_iff {ε α β : Type} {x : Except ε α} {f : α → Except ε β} {b : β} :
    x >>= f = .ok b ↔ ∃ a, x = .ok a ∧ f a = .ok b := by
  cases x with
  | error e => exact ⟨fun h => (nomatch h), fun ⟨_, h, _⟩ => (nomatch h)⟩
  | ok a => exact ⟨fun h => ⟨a, rfl, h⟩, fun ⟨_, h, hb⟩ => Except.ok.inj h ▸ hb⟩

theorem not_mem_of_closeQuote {offset : Nat} (h : closeQuote offset cs = some (text, next)) :
    '"' ∉ text := by
  induction cs generalizing offset text with
  | nil => cases h
  | cons c cs ih =>
    unfold closeQuote at h
    split at h
    next =>
      cases h
      exact List.not_mem_nil
    next hc =>
      obtain ⟨found, hfound, htext⟩ := Option.map_eq_some_iff.1 h
      cases htext
      exact List.not_mem_cons_of_ne_of_not_mem (Ne.symm hc) (ih hfound)

theorem not_mem_of_quoted {rest : List Char} {text : String}
    (h : quoted at_ rest = .ok (text, next)) : '"' ∉ text.toList := by
  unfold quoted at h
  split at h
  next => cases h
  next hclose =>
    cases h
    rw [String.toList_ofList]
    exact not_mem_of_closeQuote hclose

/-- What is read behind a character takes up the rest of the text with it. -/
theorem closes_of_map_prepend {c : Char} {inQuote inQuote' : Bool} {depth depth' : Nat}
    {result : Except SyntaxError (List Char × Cursor)}
    (ih : ∀ {text}, result = .ok (text, next) →
      text ++ next.rest = cs ∧ (next.rest ≠ [] → closes inQuote' depth' text = true))
    (hstep : ∀ text, closes inQuote depth (c :: text) = closes inQuote' depth' text)
    (h : result.map (prepend c) = .ok (text, next)) :
    text ++ next.rest = c :: cs ∧ (next.rest ≠ [] → closes inQuote depth text = true) := by
  cases result with
  | error e => cases h
  | ok found =>
    cases h
    obtain ⟨hcs, hcloses⟩ := ih rfl
    refine ⟨congrArg _ hcs, fun hrest => ?_⟩
    rw [hstep]
    exact hcloses hrest

/-- A plain argument that something follows is closed. -/
theorem closes_of_plainFrom {quote : Option Nat} {depth offset : Nat}
    (h : plainFrom quote depth offset cs = .ok (text, next)) :
    text ++ next.rest = cs ∧ (next.rest ≠ [] → closes quote.isSome depth text = true) := by
  induction cs generalizing quote depth offset text with
  | nil =>
    cases quote with
    | some start => cases h
    | none =>
      cases h
      exact ⟨rfl, fun hrest => absurd rfl hrest⟩
  | cons c cs ih =>
    unfold plainFrom at h
    cases quote with
    | some start =>
      refine closes_of_map_prepend ih (fun inner => ?_) h
      by_cases hc : c = '"' <;> simp [closes, hc]
    | none =>
      dsimp only at h
      split at h
      next hquote => exact closes_of_map_prepend ih (fun inner => by simp [closes, hquote]) h
      next hquote =>
        split at h
        next hopen => exact closes_of_map_prepend ih (fun inner => by simp [closes, hopen]) h
        next hopen =>
          split at h
          next hend =>
            cases h
            exact ⟨rfl, fun _ => by simp [closes, hend.1]⟩
          next hend =>
            split at h
            next hclose =>
              refine closes_of_map_prepend ih (fun inner => ?_) h
              change closes false depth (c :: inner) = closes false (depth - 1) inner
              rw [closes_outside, if_neg hquote, if_neg hopen, if_neg hend, if_pos hclose]
            next hclose =>
              refine closes_of_map_prepend ih (fun inner => ?_) h
              change closes false depth (c :: inner) = closes false depth inner
              rw [closes_outside, if_neg hquote, if_neg hopen, if_neg hend, if_neg hclose]

/-- Blanks open and close nothing. -/
theorem closes_blanks {blanks : List Char} (h : ∀ c ∈ blanks, Text.isBlank c = true)
    (inQuote : Bool) (depth : Nat) : closes inQuote depth blanks = (!inQuote && depth == 0) := by
  induction blanks with
  | nil => rfl
  | cons c blanks ih =>
    obtain ⟨hc, hblanks⟩ := List.forall_mem_cons.1 h
    have hquote : c ≠ '"' := Text.ne_of_isBlank hc rfl
    have hopen : c ≠ '(' := Text.ne_of_isBlank hc rfl
    have hclose : c ≠ ')' := Text.ne_of_isBlank hc rfl
    have hcomma : c ≠ ',' := Text.ne_of_isBlank hc rfl
    cases inQuote with
    | true => simpa [closes, hquote] using ih hblanks
    | false => simpa [closes, hquote, hopen, hclose, hcomma] using ih hblanks

theorem closes_append_blanks {blanks : List Char} (h : ∀ c ∈ blanks, Text.isBlank c = true)
    (inQuote : Bool) (depth : Nat) (text : List Char) :
    closes inQuote depth (text ++ blanks) = closes inQuote depth text := by
  induction text generalizing inQuote depth with
  | nil => exact closes_blanks h inQuote depth
  | cons c text ih => simp only [List.cons_append, closes, ih]

theorem isPlain_of_closes (hblank : ∀ c ∈ text.head?, Text.isBlank c = false)
    (hquote : '"' ∉ text.head?) (hcloses : closes false 0 text = true) :
    Argument.IsPlain (String.ofList (Text.trimChars text)) := by
  have htrim : Text.trimChars text = Text.trimEnd text := Text.trimChars_eq_trimEnd hblank
  obtain ⟨blanks, hblanks, htext⟩ := Text.exists_trimEnd_append text
  constructor
  · rw [String.toList_ofList, Text.trimChars_trimChars]
  · rw [String.toList_ofList, htrim]
    exact fun hhead => hquote (Text.head?_trimEnd hhead)
  · rw [String.toList_ofList, htrim, ← closes_append_blanks hblanks, htext]
    exact hcloses

/-- An argument that something follows is well-formed. -/
theorem wellFormed_of_argument {a : Argument} (h : argument at_ = .ok (a, next))
    (hnext : next.rest ≠ []) : a.WellFormed := by
  unfold argument at h
  dsimp only at h
  split at h
  next rest hrest =>
    split at h
    next => cases h
    next hquoted =>
      cases h
      exact ⟨fun _ => not_mem_of_quoted hquoted, fun hplain => nomatch hplain⟩
  next hquote =>
    split at h
    next => cases h
    next text behind hplain =>
      cases h
      obtain ⟨hrest, hcloses⟩ := closes_of_plainFrom hplain
      have hhead : ∀ c ∈ text.head?, c ∈ at_.skipBlanks.rest.head? := fun c hc =>
        hrest ▸ List.mem_head?_append_of_mem_head? hc
      refine ⟨fun hquoted => (nomatch hquoted), fun _ => ?_⟩
      refine isPlain_of_closes (fun c hc => head?_skipBlanks at_ c (hhead c hc)) ?_ (hcloses hnext)
      intro hmem
      obtain ⟨rest, hrest⟩ := List.head?_eq_some_iff.1 (hhead _ hmem)
      exact hquote rest hrest

/-! ## Calls -/

/-- The arguments of a call begin with one argument. Behind it they end or go on. -/
theorem arguments_eq_ok_iff {args : List Argument} : arguments at_ = .ok (args, next) ↔
    ∃ first behind, argument at_ = .ok (first, behind) ∧
      ((∃ rest, behind.skipBlanks.rest = ')' :: rest ∧ args = [first] ∧
          next = behind.skipBlanks.after ')' rest) ∨
        ∃ rest others, behind.skipBlanks.rest = ',' :: rest ∧ args = first :: others ∧
          arguments (behind.skipBlanks.after ',' rest) = .ok (others, next)) := by
  rw [arguments]
  split
  next e he => simp [he]
  next first behind hfirst =>
    simp only [hfirst, Except.ok.injEq, Prod.mk.injEq]
    split
    next hrest => simp [hrest]
    next c rest hrest =>
      constructor
      · intro h
        refine ⟨first, behind, ⟨rfl, rfl⟩, ?_⟩
        split at h
        next hclose =>
          cases h
          exact Or.inl ⟨rest, hclose ▸ hrest, rfl, hclose ▸ rfl⟩
        next hclose =>
          split at h
          next hcomma =>
            subst hcomma
            cases hothers : arguments (behind.skipBlanks.after ',' rest) with
            | error e => simp [hothers] at h
            | ok found =>
              obtain ⟨others, last⟩ := found
              simp only [hothers, Except.ok.injEq, Prod.mk.injEq] at h
              obtain ⟨hargs, rfl⟩ := h
              exact Or.inr ⟨rest, others, hrest, hargs.symm, hothers⟩
          next hcomma => cases h
      · rintro ⟨_, _, ⟨rfl, rfl⟩, ⟨rest', hclose, rfl, rfl⟩ | ⟨rest', others, hcomma, rfl, hothers⟩⟩
        · obtain ⟨rfl, rfl⟩ := List.cons.inj (hrest.symm.trans hclose)
          rfl
        · obtain ⟨rfl, rfl⟩ := List.cons.inj (hrest.symm.trans hcomma)
          simp [hothers]

theorem wellFormed_of_arguments {args : List Argument} (h : arguments at_ = .ok (args, next)) :
    ∀ a ∈ args, a.WellFormed := by
  induction args generalizing at_ with
  | nil => exact fun a ha => absurd ha List.not_mem_nil
  | cons first others ih =>
    obtain ⟨_, behind, hfirst, ⟨rest, hrest, hargs, -⟩ | ⟨rest, _, hrest, hargs, hothers⟩⟩ :=
      arguments_eq_ok_iff.1 h
    all_goals
      obtain ⟨rfl, rfl⟩ := List.cons.inj hargs
      have hbehind : behind.rest ≠ [] := by
        intro hnil
        rw [skipBlanks_rest, hnil] at hrest
        cases hrest
    · intro a ha
      rw [List.mem_singleton.1 ha]
      exact wellFormed_of_argument hfirst hbehind
    · intro a ha
      rcases List.mem_cons.1 ha with rfl | ha
      · exact wellFormed_of_argument hfirst hbehind
      · exact ih hothers a ha

theorem assemble_eq_ok_iff {name : String} {args : List Argument} {c : Call} :
    assemble name args = .ok c ↔
      c.function = name ∧ c.optional.length ≤ Call.maxOptional ∧
        ∃ quoted, args = ⟨c.category, quoted⟩ :: c.mandatory :: c.optional := by
  constructor
  · intro h
    match args with
    | [] => cases h
    | [category] => cases h
    | category :: mandatory :: optional =>
      rw [assemble] at h
      split at h
      next hfew =>
        cases h
        exact ⟨rfl, hfew, category.quoted, rfl⟩
      next => cases h
  · rintro ⟨rfl, hfew, quoted, rfl⟩
    rw [assemble, if_pos hfew]

/-- A call is a name and a list of arguments in parentheses. -/
theorem call_eq_ok_iff {c : Call} : call at_ = .ok (c, next) ↔
    ∃ inside args, at_.skipBlanks.identifier.1 ≠ [] ∧
      openParenthesis at_.skipBlanks.identifier.2 = .ok inside ∧
      arguments inside = .ok (args, next) ∧
      assemble (String.ofList at_.skipBlanks.identifier.1) args = .ok c := by
  unfold call
  dsimp only
  split
  next hempty =>
    have hname : at_.skipBlanks.identifier.1 = [] := by
      rw [Cursor.identifier, List.isEmpty_iff.1 hempty]
      rfl
    simp [hname]
  next =>
    split
    next hname => simp [List.isEmpty_iff.1 hname]
    next hname =>
      have hname : at_.skipBlanks.identifier.1 ≠ [] := by simpa using hname
      simp only [bind_eq_ok_iff, ne_eq, hname, not_false_eq_true, true_and]
      constructor
      · rintro ⟨inside, hinside, ⟨args, behind⟩, hargs, c, hcall, h⟩
        cases h
        exact ⟨inside, args, hinside, hargs, hcall⟩
      · rintro ⟨inside, args, hinside, hargs, hcall⟩
        exact ⟨inside, hinside, (args, next), hargs, c, hcall, rfl⟩

theorem wellFormed_of_call {c : Call} (h : call at_ = .ok (c, next)) : c.WellFormed := by
  obtain ⟨inside, args, hnamed, -, hargs, hcall⟩ := call_eq_ok_iff.1 h
  obtain ⟨hfunction, hfew, quoted, rfl⟩ := assemble_eq_ok_iff.1 hcall
  have hwell := wellFormed_of_arguments hargs
  constructor
  · intro hempty
    exact hnamed (by simpa [hfunction] using congrArg String.toList hempty)
  · intro d hd
    rw [hfunction, String.toList_ofList] at hd
    exact List.mem_takeWhile_imp hd
  · exact hwell _ (List.mem_cons_of_mem _ List.mem_cons_self)
  · exact fun a ha => hwell a (List.mem_cons_of_mem _ (List.mem_cons_of_mem _ ha))
  · exact hfew

/-! ## Conditions -/

theorem isPlain_of_not_atCall (hblank : ∀ c ∈ at_.rest.head?, Text.isBlank c = false)
    (hquote : '"' ∉ at_.rest.head?) (hcall : ¬at_.atCall = true)
    (hnonempty : ¬(Text.trimChars at_.rest).isEmpty = true) :
    Operand.IsPlain (String.ofList (Text.trimChars at_.rest)) := by
  have htrim : Text.trimChars at_.rest = Text.trimEnd at_.rest := Text.trimChars_eq_trimEnd hblank
  constructor
  · intro hempty
    exact hnonempty (by simpa using congrArg String.toList hempty)
  · rw [String.toList_ofList, Text.trimChars_trimChars]
  · rw [String.toList_ofList, htrim]
    exact fun hhead => hquote (Text.head?_trimEnd hhead)
  · rw [← Bool.not_eq_true]
    intro hwritten
    refine hcall (atCall_of_begins ?_ hwritten)
    rw [skipBlanks_rest, Cursor.start, String.toList_ofList, htrim, Text.trimStart_trimEnd hblank]
    exact List.rdropWhile_prefix _ _

theorem wellFormed_of_operand {right : Operand} (h : operand at_ = .ok (right, next)) :
    right.WellFormed := by
  unfold operand at h
  dsimp only at h
  split at h
  next rest hrest =>
    rw [bind_eq_ok_iff] at h
    obtain ⟨⟨text, behind⟩, hquoted, h⟩ := h
    cases h
    exact .quoted (not_mem_of_quoted hquoted)
  next hquote =>
    split at h
    next =>
      rw [bind_eq_ok_iff] at h
      obtain ⟨⟨c, behind⟩, hcall, h⟩ := h
      cases h
      exact .call (wellFormed_of_call hcall)
    next hcall =>
      split at h
      next => cases h
      next hnonempty =>
        cases h
        refine .plain (isPlain_of_not_atCall (head?_skipBlanks at_) ?_ hcall hnonempty)
        intro hmem
        obtain ⟨rest, hrest⟩ := List.head?_eq_some_iff.1 hmem
        exact hquote rest hrest

end Expression

open Expression in
/-- A condition is a call, an operator and an operand, and nothing else. -/
theorem Condition.ofText_eq_ok_iff {text : String} {c : Condition} : ofText text = .ok c ↔
    ∃ next₁ next₂ next₃, call (Cursor.start text) = .ok (c.left, next₁) ∧
      Expression.operator next₁ = .ok (c.operator, next₂) ∧ operand next₂ = .ok (c.right, next₃) ∧
      finish next₃ = .ok () := by
  unfold ofText
  simp only [bind_eq_ok_iff]
  constructor
  · rintro ⟨⟨left, next₁⟩, hleft, ⟨op, next₂⟩, hoperator, ⟨right, next₃⟩, hright, _, hfinish, h⟩
    cases h
    exact ⟨next₁, next₂, next₃, hleft, hoperator, hright, hfinish⟩
  · rintro ⟨next₁, next₂, next₃, hleft, hoperator, hright, hfinish⟩
    exact ⟨_, hleft, _, hoperator, _, hright, _, hfinish, rfl⟩

end AudioPolicy
