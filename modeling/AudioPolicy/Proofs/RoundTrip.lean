-- SUMMARY: What is written reads back, a condition exactly if its categories need no quotes.
import AudioPolicy.Proofs.Grammar

/-! # Reading back what is written

Every well-formed piece of an expression is taken off a text as it was written, whatever
follows, provided that what follows ends it. Offsets do not matter for this. The one thing
that a condition forgets is whether its categories were quoted, so a category that needs its
quotes does not come back. -/

namespace AudioPolicy

namespace Expression

/-- At any offset, `read` takes `a` off the text and leaves `rest`. -/
def Reads {α : Type} (read : Cursor → Except SyntaxError (α × Cursor)) (text : List Char) (a : α)
    (rest : List Char) : Prop :=
  ∀ offset, ∃ behind, read ⟨offset, text⟩ = .ok (a, ⟨behind, rest⟩)

variable {blanks inside rest text : List Char} {offset : Nat} {c : Char}

/-! ## Arguments -/

theorem isBlank_of_mem_space : ∀ c ∈ [' '], Text.isBlank c = true :=
  List.forall_mem_singleton.2 rfl

theorem skipBlanks_append (hblanks : ∀ c ∈ blanks, Text.isBlank c = true) (rest : List Char)
    (hrest : ∀ c ∈ rest.head?, Text.isBlank c = false) (offset : Nat) :
    ∃ behind, Cursor.skipBlanks ⟨offset, blanks ++ rest⟩ = ⟨behind, rest⟩ := by
  have hskipped : (Cursor.skipBlanks ⟨offset, blanks ++ rest⟩).rest = rest := by
    rw [skipBlanks_rest]
    exact Text.dropWhile_append hblanks hrest
  exact ⟨_, congrArg (Cursor.mk _) hskipped⟩

theorem head?_named {name : String} (hnamed : name ≠ "")
    (hword : ∀ c ∈ name.toList, Text.isWordChar c = true) :
    ∀ c ∈ (name.toList ++ rest).head?, Text.isWordChar c = true := by
  intro c hc
  have hname : name.toList ≠ [] := by simpa using hnamed
  rw [List.head?_append_of_ne_nil _ hname] at hc
  exact hword c (List.mem_of_mem_head? hc)

theorem identifier_append {name : String} (hnamed : name ≠ "")
    (hword : ∀ c ∈ name.toList, Text.isWordChar c = true)
    (hblanks : ∀ c ∈ blanks, Text.isBlank c = true)
    (hrest : ∀ c ∈ rest.head?, Text.isWordChar c = false) (offset : Nat) :
    ∃ behind, (Cursor.skipBlanks ⟨offset, blanks ++ (name.toList ++ rest)⟩).identifier =
      (name.toList, ⟨behind, rest⟩) := by
  obtain ⟨first, hskip⟩ := skipBlanks_append hblanks (name.toList ++ rest)
    (fun c hc => Text.isBlank_of_isWordChar (head?_named hnamed hword c hc)) offset
  have hskipped : (Cursor.skip Text.isWordChar ⟨first, name.toList ++ rest⟩).rest = rest := by
    rw [Cursor.skip, Cursor.skipFrom_rest]
    exact Text.dropWhile_append hword hrest
  rw [hskip]
  exact ⟨_, Prod.ext (Text.takeWhile_append hword hrest) (congrArg (Cursor.mk _) hskipped)⟩

theorem closeQuote_append (h : '"' ∉ text) (offset : Nat) (rest : List Char) :
    ∃ behind, closeQuote offset (text ++ '"' :: rest) = some (text, ⟨behind, rest⟩) := by
  induction text generalizing offset with
  | nil => exact ⟨_, rfl⟩
  | cons c text ih =>
    obtain ⟨hc, htext⟩ := not_or.1 (mt List.mem_cons.2 h)
    obtain ⟨behind, hbehind⟩ := ih htext (offset + c.utf8Size)
    refine ⟨behind, ?_⟩
    rw [List.cons_append, closeQuote, if_neg (Ne.symm hc), hbehind]
    rfl

theorem quoted_append {text : String} (h : '"' ∉ text.toList) (at_ : Cursor) (rest : List Char) :
    ∃ behind, quoted at_ (text.toList ++ '"' :: rest) = .ok (text, ⟨behind, rest⟩) := by
  obtain ⟨behind, hclose⟩ := closeQuote_append h (at_.offset + '"'.utf8Size) rest
  refine ⟨behind, ?_⟩
  rw [quoted, hclose]
  dsimp only
  rw [String.ofList_toList]

/-- A plain argument ends at the first comma or parenthesis behind a closed text. -/
theorem plainFrom_append (hend : c = ')' ∨ c = ',') (rest : List Char) {quote : Option Nat}
    {depth : Nat} (h : closes quote.isSome depth text = true) (offset : Nat) :
    ∃ behind, plainFrom quote depth offset (text ++ c :: rest) =
      .ok (text, ⟨behind, c :: rest⟩) := by
  induction text generalizing quote depth offset with
  | nil =>
    cases quote with
    | some start => cases h
    | none =>
      have hdepth : depth = 0 := by simpa [closes] using h
      refine ⟨offset, ?_⟩
      rcases hend with rfl | rfl <;> simp [plainFrom, hdepth]
  | cons d text ih =>
    have hstep : ∀ {quote' : Option Nat} {depth' : Nat},
        closes quote'.isSome depth' text = true →
        ∃ behind, (plainFrom quote' depth' (offset + d.utf8Size) (text ++ c :: rest)).map
          (prepend d) = .ok (d :: text, ⟨behind, c :: rest⟩) := by
      intro quote' depth' hcloses
      obtain ⟨behind, hbehind⟩ := ih hcloses (offset + d.utf8Size)
      exact ⟨behind, by rw [hbehind]; rfl⟩
    rw [List.cons_append]
    unfold plainFrom
    cases quote with
    | some start =>
      refine hstep ?_
      by_cases hd : d = '"' <;> simpa [closes, hd] using h
    | none =>
      change closes false depth (d :: text) = true at h
      rw [closes_outside] at h
      dsimp only
      split at h
      next hquote =>
        rw [if_pos hquote]
        exact hstep h
      next hquote =>
        rw [if_neg hquote]
        split at h
        next hopen =>
          rw [if_pos hopen]
          exact hstep h
        next hopen =>
          rw [if_neg hopen]
          split at h
          next => cases h
          next hinside =>
            rw [if_neg hinside]
            split at h
            next hclose =>
              rw [if_pos hclose]
              exact hstep h
            next hclose =>
              rw [if_neg hclose]
              exact hstep h

/-- A quoted text is found behind blanks and read up to its closing quote. -/
theorem quoted_behind_blanks {text : String} (h : '"' ∉ text.toList)
    (hblanks : ∀ c ∈ blanks, Text.isBlank c = true) (rest : List Char) (offset : Nat) :
    ∃ first behind,
      Cursor.skipBlanks ⟨offset, blanks ++ ('"' :: (text.toList ++ '"' :: rest))⟩ =
        ⟨first, '"' :: (text.toList ++ '"' :: rest)⟩ ∧
      quoted ⟨first, '"' :: (text.toList ++ '"' :: rest)⟩ (text.toList ++ '"' :: rest) =
        .ok (text, ⟨behind, rest⟩) := by
  obtain ⟨first, hskip⟩ := skipBlanks_append hblanks
    ('"' :: (text.toList ++ '"' :: rest)) (by rintro c ⟨⟩; rfl) offset
  obtain ⟨behind, hquoted⟩ := quoted_append h ⟨first, '"' :: (text.toList ++ '"' :: rest)⟩ rest
  exact ⟨first, behind, hskip, hquoted⟩

theorem reads_quoted_argument {text : String} (h : '"' ∉ text.toList)
    (hblanks : ∀ c ∈ blanks, Text.isBlank c = true) (rest : List Char) :
    Reads argument (blanks ++ ('"' :: (text.toList ++ '"' :: rest))) ⟨text, true⟩ rest := by
  intro offset
  obtain ⟨first, behind, hskip, hquoted⟩ := quoted_behind_blanks h hblanks rest offset
  refine ⟨behind, ?_⟩
  rw [argument, hskip]
  simp only [hquoted]

theorem reads_plain_argument {text : String} (h : Argument.IsPlain text)
    (hblanks : ∀ c ∈ blanks, Text.isBlank c = true) (hend : c = ')' ∨ c = ',')
    (rest : List Char) :
    Reads argument (blanks ++ (text.toList ++ c :: rest)) ⟨text, false⟩ (c :: rest) := by
  intro offset
  have hhead : ∀ d ∈ (text.toList ++ c :: rest).head?, d ∈ text.toList.head? ∨ d = c := by
    intro d hd
    cases htext : text.toList with
    | nil =>
      rw [htext] at hd
      cases hd
      exact Or.inr rfl
    | cons e chars =>
      rw [htext] at hd
      exact Or.inl hd
  have hblank : ∀ d ∈ (text.toList ++ c :: rest).head?, Text.isBlank d = false := by
    intro d hd
    rcases hhead d hd with htext | rfl
    · exact Text.head?_of_trimmed h.trimmed d htext
    · rcases hend with rfl | rfl <;> rfl
  obtain ⟨first, hskip⟩ := skipBlanks_append hblanks _ hblank offset
  have hclosed : closes (none : Option Nat).isSome 0 text.toList = true := h.closed
  obtain ⟨behind, hplain⟩ := plainFrom_append hend rest hclosed first
  refine ⟨behind, ?_⟩
  rw [argument, hskip]
  dsimp only
  split
  next tail hquote =>
    rcases hhead '"' (by rw [show text.toList ++ c :: rest = _ from hquote]; rfl) with htext | hc
    · exact absurd htext h.unquoted
    · subst hc
      rcases hend with hend | hend <;> cases hend
  next =>
    rw [hplain]
    dsimp only
    rw [h.trimmed, String.ofList_toList]

theorem reads_argument {a : Argument} (h : a.WellFormed)
    (hblanks : ∀ c ∈ blanks, Text.isBlank c = true) (hend : c = ')' ∨ c = ',')
    (rest : List Char) :
    Reads argument (blanks ++ (a.written.toList ++ c :: rest)) a (c :: rest) := by
  obtain ⟨text, quoted⟩ := a
  cases quoted with
  | true =>
    have hwritten : (Argument.written ⟨text, true⟩).toList ++ c :: rest =
        '"' :: (text.toList ++ '"' :: c :: rest) := by
      simp [Argument.written]
    rw [hwritten]
    exact reads_quoted_argument (h.quoted rfl) hblanks (c :: rest)
  | false => exact reads_plain_argument (h.plain rfl) hblanks hend rest

/-! ## Calls -/

theorem reads_last_argument {a : Argument} (h : Reads argument text a (')' :: rest)) :
    Reads arguments text [a] rest := by
  intro offset
  obtain ⟨behind, hread⟩ := h offset
  refine ⟨_, arguments_eq_ok_iff.2 ⟨a, _, hread, Or.inl ⟨rest, ?_, rfl, rfl⟩⟩⟩
  rw [skipBlanks_rest]
  rfl

theorem reads_more_arguments {a : Argument} {others : List Argument} {more : List Char}
    (h : Reads argument text a (',' :: more)) (hmore : Reads arguments more others rest) :
    Reads arguments text (a :: others) rest := by
  intro offset
  obtain ⟨behind, hread⟩ := h offset
  obtain ⟨last, hlast⟩ :=
    hmore (Cursor.after (Cursor.skipBlanks ⟨behind, ',' :: more⟩) ',' more).offset
  refine ⟨last, arguments_eq_ok_iff.2 ⟨a, _, hread, Or.inr ⟨more, others, ?_, rfl, hlast⟩⟩⟩
  rw [skipBlanks_rest]
  rfl

/-- The written arguments, with a comma and a space between neighbours. -/
def listed (args : List Argument) : List Char := (", ".intercalate (args.map (·.written))).toList

theorem listed_cons_cons (first second : Argument) (others : List Argument) :
    listed (first :: second :: others) =
      first.written.toList ++ ',' :: ' ' :: listed (second :: others) := by
  simp [listed, String.intercalate_cons_cons]

theorem reads_arguments {args : List Argument} (hargs : args ≠ [])
    (h : ∀ a ∈ args, a.WellFormed) (hblanks : ∀ c ∈ blanks, Text.isBlank c = true) :
    Reads arguments (blanks ++ (listed args ++ ')' :: rest)) args rest := by
  induction args generalizing blanks with
  | nil => exact absurd rfl hargs
  | cons first others ih =>
    obtain ⟨hfirst, hothers⟩ := List.forall_mem_cons.1 h
    cases others with
    | nil =>
      have htext : listed [first] = first.written.toList := by simp [listed]
      rw [htext]
      exact reads_last_argument (reads_argument hfirst hblanks (Or.inl rfl) rest)
    | cons second others =>
      have hmore := ih (List.cons_ne_nil _ _) hothers isBlank_of_mem_space
      rw [listed_cons_cons, List.append_assoc]
      exact reads_more_arguments (reads_argument hfirst hblanks (Or.inr rfl) _) hmore

/-- The arguments of a call as they are written, the category without quotes. -/
def given (c : Call) : List Argument := ⟨c.category, false⟩ :: c.mandatory :: c.optional

theorem written_append (c : Call) (rest : List Char) : c.written.toList ++ rest =
    c.function.toList ++ '(' :: (listed (given c) ++ ')' :: rest) := by
  simp [Call.written, given, listed, Argument.written]

theorem openParenthesis_open (offset : Nat) (inside : List Char) :
    ∃ behind, openParenthesis ⟨offset, '(' :: inside⟩ = .ok ⟨behind, inside⟩ := by
  have hskipped : (Cursor.skipBlanks ⟨offset, '(' :: inside⟩).rest = '(' :: inside := by
    rw [skipBlanks_rest]
    rfl
  rw [openParenthesis, hskipped]
  exact ⟨_, rfl⟩

/-- Reading a call that begins with a name and a parenthesis goes on with its arguments. -/
theorem call_named {name : String} (hnamed : name ≠ "")
    (hword : ∀ c ∈ name.toList, Text.isWordChar c = true)
    (hblanks : ∀ c ∈ blanks, Text.isBlank c = true) (offset : Nat) (inside : List Char) :
    ∃ behind, ∀ (c : Call) (next : Cursor),
      call ⟨offset, blanks ++ (name.toList ++ '(' :: inside)⟩ = .ok (c, next) ↔
        ∃ args, arguments ⟨behind, inside⟩ = .ok (args, next) ∧ assemble name args = .ok c := by
  have hend : ∀ c ∈ ('(' :: inside).head?, Text.isWordChar c = false := by
    rintro c ⟨⟩
    rfl
  obtain ⟨first, hidentifier⟩ := identifier_append hnamed hword hblanks hend offset
  obtain ⟨behind, hopen⟩ := openParenthesis_open first inside
  refine ⟨behind, fun c next => ?_⟩
  rw [call_eq_ok_iff, hidentifier]
  dsimp only
  rw [hopen, String.ofList_toList]
  constructor
  · rintro ⟨_, args, -, ⟨⟩, hargs, hcall⟩
    exact ⟨args, hargs, hcall⟩
  · rintro ⟨args, hargs, hcall⟩
    exact ⟨_, args, by simpa using hnamed, rfl, hargs, hcall⟩

theorem reads_call {c : Call} (h : c.WellFormed) (hcategory : Argument.IsPlain c.category)
    (hblanks : ∀ d ∈ blanks, Text.isBlank d = true) :
    Reads call (blanks ++ (c.written.toList ++ rest)) c rest := by
  intro offset
  have hargs : ∀ a ∈ given c, a.WellFormed :=
    List.forall_mem_cons.2 ⟨⟨fun h => (nomatch h), fun _ => hcategory⟩,
      List.forall_mem_cons.2 ⟨h.mandatory, h.optional⟩⟩
  obtain ⟨inside, hcall⟩ :=
    call_named h.named h.word hblanks offset (listed (given c) ++ ')' :: rest)
  have hlisted : Reads arguments ([] ++ (listed (given c) ++ ')' :: rest)) (given c) rest :=
    reads_arguments (List.cons_ne_nil _ _) hargs fun _ hd => nomatch hd
  obtain ⟨behind, hread⟩ := hlisted inside
  refine ⟨behind, ?_⟩
  rw [written_append, hcall]
  exact ⟨_, hread, assemble_eq_ok_iff.2 ⟨rfl, h.few, false, rfl⟩⟩

theorem starts_with_quote {at_ next : Cursor} {a : Argument} (h : argument at_ = .ok (a, next))
    (hquoted : a.quoted = true) : '"' ∈ at_.skipBlanks.rest.head? := by
  unfold argument at h
  dsimp only at h
  split at h
  next rest hrest =>
    rw [hrest]
    rfl
  next =>
    split at h
    · cases h
    · cases h
      cases hquoted

/-- A written call that reads back as itself has a plain category. -/
theorem isPlain_category_of_call {c : Call} {next : Cursor} (h : c.WellFormed)
    (hblanks : ∀ d ∈ blanks, Text.isBlank d = true)
    (hread : call ⟨offset, blanks ++ (c.written.toList ++ rest)⟩ = .ok (c, next)) :
    Argument.IsPlain c.category := by
  obtain ⟨inside, hcall⟩ :=
    call_named h.named h.word hblanks offset (listed (given c) ++ ')' :: rest)
  rw [written_append, hcall] at hread
  obtain ⟨args, hargs, hassemble⟩ := hread
  obtain ⟨-, -, quoted, rfl⟩ := assemble_eq_ok_iff.1 hassemble
  have hwell := wellFormed_of_arguments hargs ⟨c.category, quoted⟩ List.mem_cons_self
  cases quoted with
  | false => exact hwell.plain rfl
  | true =>
    -- The quote that the reader found would be part of the category.
    refine absurd ?_ (hwell.quoted rfl)
    obtain ⟨first, behind, hfirst, hothers⟩ := arguments_eq_ok_iff.1 hargs
    have hquoted : first = ⟨c.category, true⟩ := by
      rcases hothers with ⟨_, -, heq, -⟩ | ⟨_, _, -, heq, -⟩
      · cases heq
      · exact (List.cons.inj heq).1.symm
    have hquote := starts_with_quote hfirst (hquoted ▸ rfl)
    rw [skipBlanks_rest, given, listed_cons_cons, List.append_assoc, Text.trimStart,
      List.dropWhile_append] at hquote
    split at hquote
    next => cases hquote
    next hrest =>
      have hne : c.category.toList.dropWhile Text.isBlank ≠ [] := by
        simpa [Argument.written] using hrest
      exact (List.dropWhile_sublist _).mem
        (List.mem_of_mem_head? (List.head?_append_of_ne_nil _ hne ▸ hquote))

/-! ## Operators and operands -/

theorem reads_operator (op : Operator) (rest : List Char) :
    Reads operator (' ' :: ((Spelled.word op).toList ++ ' ' :: rest)) op (' ' :: rest) := by
  intro offset
  have hnamed : Spelled.word op ≠ "" := by cases op <;> decide
  have hword : ∀ c ∈ (Spelled.word op).toList, Text.isWordChar c = true :=
    List.all_eq_true.1 (by cases op <;> rfl)
  have hread : Spelled.ofWord? (Spelled.word op) = some op := by cases op <;> rfl
  have hend : ∀ c ∈ (' ' :: rest).head?, Text.isWordChar c = false := by
    rintro c ⟨⟩
    rfl
  obtain ⟨behind, hidentifier⟩ := identifier_append hnamed hword isBlank_of_mem_space hend offset
  refine ⟨behind, ?_⟩
  rw [List.singleton_append] at hidentifier
  rw [operator]
  dsimp only
  rw [hidentifier, String.ofList_toList, hread, if_neg (by simpa using hnamed)]

/-- A right side that is written as a call is read as one. -/
theorem operand_call {c : Call} (h : c.WellFormed) (offset : Nat) :
    ∃ behind, ∀ next, operand ⟨offset, ' ' :: c.written.toList⟩ = .ok (.call c, next) ↔
      call ⟨behind, [] ++ (c.written.toList ++ [])⟩ = .ok (c, next) := by
  have hwritten := written_append c []
  rw [List.append_nil] at hwritten
  have hhead : ∀ d ∈ c.written.toList.head?, Text.isWordChar d = true := by
    rw [hwritten]
    exact head?_named h.named h.word
  obtain ⟨behind, hskip⟩ := skipBlanks_append isBlank_of_mem_space _
    (fun d hd => Text.isBlank_of_isWordChar (hhead d hd)) offset
  rw [List.singleton_append] at hskip
  have hcall : Cursor.atCall ⟨behind, c.written.toList⟩ = true :=
    atCall_iff.2 ⟨c.function.toList, [], _, by simpa using h.named, h.word,
      fun _ hd => (nomatch hd), hwritten⟩
  refine ⟨behind, fun next => ?_⟩
  rw [List.append_nil, List.nil_append, operand]
  dsimp only
  rw [hskip]
  split
  next rest hquote =>
    have hword := hhead '"' (by rw [show c.written.toList = _ from hquote]; rfl)
    cases hword
  next =>
    rw [if_pos hcall, bind_eq_ok_iff]
    constructor
    · rintro ⟨⟨right, last⟩, hread, hright⟩
      cases hright
      exact hread
    · intro hread
      exact ⟨_, hread, rfl⟩

theorem reads_quoted_operand {text : String} (h : '"' ∉ text.toList) :
    Reads operand (' ' :: '"' :: (text.toList ++ ['"'])) (.literal ⟨text, true⟩) [] := by
  intro offset
  obtain ⟨first, behind, hskip, hquoted⟩ := quoted_behind_blanks h isBlank_of_mem_space [] offset
  rw [List.singleton_append] at hskip
  refine ⟨behind, ?_⟩
  rw [operand, hskip]
  simp only [hquoted]
  rfl

theorem reads_plain_operand {text : String} (h : Operand.IsPlain text) :
    Reads operand (' ' :: text.toList) (.literal ⟨text, false⟩) [] := by
  intro offset
  have hblank := Text.head?_of_trimmed h.trimmed
  have hnonempty : ¬text.toList.isEmpty = true := by simpa using h.nonempty
  obtain ⟨first, hskip⟩ := skipBlanks_append isBlank_of_mem_space _ hblank offset
  rw [List.singleton_append] at hskip
  have hcall : ¬Cursor.atCall ⟨first, text.toList⟩ = true := by
    have huncalled : ¬(Cursor.start text).skipBlanks.atCall = true := by
      simpa [Call.isWrittenAs] using h.uncalled
    refine mt (atCall_of_begins ?_) huncalled
    rw [skipBlanks_rest]
    exact (Text.trimStart_eq_self hblank).symm ▸ List.prefix_rfl
  rw [operand]
  dsimp only
  rw [hskip]
  split
  next rest hquote =>
    refine absurd ?_ h.unquoted
    rw [show text.toList = _ from hquote]
    rfl
  next =>
    rw [if_neg hcall]
    dsimp only
    rw [h.trimmed, if_neg hnonempty, String.ofList_toList]
    refine ⟨_, congrArg (fun rest => Except.ok (_, Cursor.mk _ rest)) ?_⟩
    exact (Cursor.skipFrom_rest _ _ _).trans (by simp)

/-- A right side is read up to the end of the text. -/
theorem reads_operand {right : Operand} (h : right.WellFormed)
    (hcategory : ∀ c, right = .call c → Argument.IsPlain c.category) :
    Reads operand (' ' :: right.written.toList) right [] := by
  cases h with
  | @call c hcall =>
    intro offset
    obtain ⟨first, hiff⟩ := operand_call hcall offset
    have hwritten : Reads call ([] ++ (c.written.toList ++ [])) c [] :=
      reads_call hcall (hcategory c rfl) fun _ hd => nomatch hd
    obtain ⟨behind, hread⟩ := hwritten first
    exact ⟨behind, (hiff _).2 hread⟩
  | @quoted text hquote =>
    have hwritten : (Operand.written (.literal ⟨text, true⟩)).toList =
        '"' :: (text.toList ++ ['"']) := by
      simp [Operand.written, Argument.written]
    rw [hwritten]
    exact reads_quoted_operand hquote
  | plain hplain => exact reads_plain_operand hplain

end Expression

namespace Condition

open Expression

theorem forall_mem_calls {c : Condition} {P : Call → Prop} :
    (∀ call ∈ c.calls, P call) ↔ P c.left ∧ ∀ call, c.right = .call call → P call := by
  unfold calls
  cases c.right with
  | call right => simp
  | literal a => simp

theorem written_toList (c : Condition) : c.written.toList = [] ++ (c.left.written.toList ++
    (' ' :: ((Spelled.word c.operator).toList ++ ' ' :: c.right.written.toList))) := by
  simp [written]

/-- A condition reads back from its written form exactly if its categories need no quotes. -/
theorem ofText_written_iff {text : String} {c : Condition} (h : ofText text = .ok c) :
    ofText c.written = .ok c ↔ ∀ call ∈ c.calls, Argument.IsPlain call.category := by
  obtain ⟨_, _, _, hleft, -, hright, -⟩ := ofText_eq_ok_iff.1 h
  have hleft : c.left.WellFormed := wellFormed_of_call hleft
  have hright : c.right.WellFormed := wellFormed_of_operand hright
  have hnone : ∀ d ∈ ([] : List Char), Text.isBlank d = true := fun _ hd => nomatch hd
  rw [ofText_eq_ok_iff, Cursor.start, written_toList, forall_mem_calls]
  constructor
  · rintro ⟨next₁, next₂, next₃, hcall, hoperator, hoperand, -⟩
    have hcategory := isPlain_category_of_call hleft hnone hcall
    refine ⟨hcategory, fun right heq => ?_⟩
    obtain ⟨_, hcall'⟩ := reads_call hleft hcategory hnone 0
    rw [hcall, Except.ok.injEq, Prod.mk.injEq] at hcall'
    obtain ⟨-, rfl⟩ := hcall'
    obtain ⟨_, hoperator'⟩ := reads_operator c.operator c.right.written.toList _
    rw [hoperator, Except.ok.injEq, Prod.mk.injEq] at hoperator'
    obtain ⟨-, rfl⟩ := hoperator'
    rw [heq] at hright hoperand
    cases hright with
    | call hright =>
      obtain ⟨_, hiff⟩ := operand_call hright _
      exact isPlain_category_of_call hright hnone ((hiff _).1 hoperand)
  · rintro ⟨hcategory, hcategories⟩
    obtain ⟨first, hcall⟩ := reads_call hleft hcategory hnone 0
    obtain ⟨second, hoperator⟩ := reads_operator c.operator c.right.written.toList first
    obtain ⟨third, hoperand⟩ := reads_operand hright hcategories second
    exact ⟨_, _, _, hcall, hoperator, hoperand, rfl⟩

/-- The category is quoted without need, and the arguments have quotes and commas in them. -/
theorem ofText_written_iff_of_nested_call :
    let text := " name ( \"CLASS\", f(a, \"b)\"), 3 ) INC \"x, y\" "
    let c : Condition :=
      { left :=
          { function := "name", category := "CLASS", mandatory := ⟨"f(a, \"b)\")", false⟩
            optional := [⟨"3", false⟩] }
        operator := .includes
        right := .literal ⟨"x, y", true⟩ }
    ofText text = .ok c ∧
      (ofText c.written = .ok c ↔ ∀ call ∈ c.calls, Argument.IsPlain call.category) := by
  intro text c
  have hread : ofText text = .ok c := by decide +kernel
  exact ⟨hread, ofText_written_iff hread⟩

/-- The category loses its quotes, and so its comma separates arguments. -/
theorem written_quoted_category_differs :
    ¬ ∀ (text : String) (c : Condition), ofText text = .ok c → ofText c.written = .ok c := by
  intro h
  let c : Condition :=
    { left := { function := "name", category := "A, B", mandatory := ⟨"X", false⟩ }
      operator := .equal
      right := .literal ⟨"1", false⟩ }
  have hread : ofText "name(\"A, B\", X) EQ 1" = .ok c := by decide +kernel
  have hwritten : ofText c.written = .ok
      { c with
        left :=
          { function := "name", category := "A", mandatory := ⟨"B", false⟩
            optional := [⟨"X", false⟩] } } := by
    decide +kernel
  have hsame := hwritten.symm.trans (h _ c hread)
  exact absurd hsame (by simp [c])

end Condition
end AudioPolicy
