-- SUMMARY: Reading never cuts inside of a character, and its mistakes are true of the text.
import AudioPolicy.Proofs.BytePositions
import AudioPolicy.Proofs.Nesting

/-! # Offsets

A cursor of the reader has the rest of the text and an offset. It stands in the text if the
offset counts the bytes in front of that rest. A reading that begins in a text stays in it, so
each of its offsets is a place between two characters.

From this the reader on positions follows the reader on cursors step by step. It has no fault,
and it stops with the same mistakes. And what a mistake says about the text is true. -/

namespace AudioPolicy

/-- What a mistake says about the text is true. -/
inductive SyntaxError.TrueOf (text : String) : SyntaxError → Prop
  | empty : TrueOf text .empty
  /-- A character begins at the offset, or the text ends there. -/
  | expected {what : String} {offset : Nat} :
      offset ≤ text.utf8ByteSize → String.Pos.Raw.IsValid text ⟨offset⟩ →
        TrueOf text (.expected what offset)
  /-- A quote stands at the offset, and no other one behind it. -/
  | unterminatedQuote {before behind : String} :
      text = before ++ ("\"" ++ behind) → '"' ∉ behind.toList →
        TrueOf text (.unterminatedQuote before.utf8ByteSize)
  | tooFewArguments {function : String} : TrueOf text (.tooFewArguments function)
  | tooManyArguments {function : String} : TrueOf text (.tooManyArguments function)
  | unknownOperator {word : String} : TrueOf text (.unknownOperator word)
  /-- The text ends with what is left, which begins with a character that is no blank. -/
  | trailing {before left : String} {c : Char} :
      text = before ++ left → left.toList.head? = some c → Text.isBlank c = false →
        TrueOf text (.trailing left)

namespace Expression

/-! ## Places in a text -/

/-- The text ends with the rest, and the offset counts the bytes in front of it. -/
def Cursor.IsIn (at_ : Cursor) (text : String) : Prop :=
  ∃ before : String, text = before ++ String.ofList at_.rest ∧ at_.offset = before.utf8ByteSize

namespace Cursor.IsIn

variable {text : String} {at_ next : Cursor} {c : Char} {piece rest : List Char}

theorem start (text : String) : (Cursor.start text).IsIn text :=
  ⟨"", by simp [Cursor.start], rfl⟩

/-- The end of a text is a place in it. -/
theorem finish (text : String) : Cursor.IsIn ⟨text.utf8ByteSize, []⟩ text :=
  ⟨text, by simp, rfl⟩

theorem offset_add (h : at_.IsIn text) :
    at_.offset + (String.ofList at_.rest).utf8ByteSize = text.utf8ByteSize := by
  obtain ⟨before, rfl, hoffset⟩ := h
  rw [hoffset, String.utf8ByteSize_append]

theorem offset_le (h : at_.IsIn text) : at_.offset ≤ text.utf8ByteSize :=
  h.offset_add ▸ Nat.le_add_right _ _

theorem isValid (h : at_.IsIn text) : String.Pos.Raw.IsValid text ⟨at_.offset⟩ := by
  obtain ⟨before, htext, hoffset⟩ := h
  exact String.Pos.Raw.isValid_iff_exists_append.2
    ⟨before, _, htext, String.Pos.Raw.ext hoffset⟩

theorem expected (h : at_.IsIn text) (what : String) :
    SyntaxError.TrueOf text (.expected what at_.offset) :=
  .expected h.offset_le h.isValid

/-- Cursors in one text that have the same rest are the same. -/
theorem offset_eq (h : at_.IsIn text) (hnext : next.IsIn text) (hrest : at_.rest = next.rest) :
    at_.offset = next.offset := by
  have hat := h.offset_add
  have hsum := hnext.offset_add
  rw [hrest] at hat
  omega

theorem behind (h : at_.IsIn text) (hrest : at_.rest = piece ++ rest) :
    Cursor.IsIn ⟨at_.offset + (String.ofList piece).utf8ByteSize, rest⟩ text := by
  obtain ⟨before, htext, hoffset⟩ := h
  refine ⟨before ++ String.ofList piece, ?_, ?_⟩
  · rw [htext, hrest, String.ofList_append, String.append_assoc]
  · rw [String.utf8ByteSize_append, hoffset]

theorem after (h : at_.IsIn text) (hrest : at_.rest = c :: rest) :
    (at_.after c rest).IsIn text := by
  have hsize : (String.ofList [c]).utf8ByteSize = c.utf8Size := by
    rw [← String.singleton_eq_ofList, String.utf8ByteSize_singleton]
  have hbehind : IsIn ⟨at_.offset + (String.ofList [c]).utf8ByteSize, rest⟩ text := h.behind hrest
  rwa [hsize] at hbehind

theorem skipFrom {inClass : Char → Bool} {offset : Nat} {cs : List Char}
    (h : Cursor.IsIn ⟨offset, cs⟩ text) : (Cursor.skipFrom inClass offset cs).IsIn text := by
  induction cs generalizing offset with
  | nil => exact h
  | cons c cs ih =>
    unfold Cursor.skipFrom
    split
    · exact ih (h.after rfl)
    · exact h

theorem skip (h : at_.IsIn text) (inClass : Char → Bool) : (at_.skip inClass).IsIn text :=
  IsIn.skipFrom h

theorem skipBlanks (h : at_.IsIn text) : at_.skipBlanks.IsIn text := h.skip _

end Cursor.IsIn

variable {text : String} {at_ next : Cursor} {piece rest : List Char} {c : Char}

theorem skip_all_rest (at_ : Cursor) : (at_.skip fun _ => true).rest = [] :=
  (Cursor.skipFrom_rest _ _ _).trans (List.dropWhile_eq_nil_iff.2 fun _ _ => rfl)

/-! ## Trimming -/

theorem trim_ofList (cs : List Char) :
    Text.trim (String.ofList cs) = String.ofList (Text.trimChars cs) :=
  congrArg (String.ofList ∘ Text.trimChars) String.toList_ofList

theorem isEmpty_ofList (cs : List Char) : (String.ofList cs).isEmpty = cs.isEmpty := by
  rw [Bool.eq_iff_iff]
  simp

/-- Where no blank stands in front, trimming leaves nothing only of nothing. -/
theorem isEmpty_trim {cs : List Char} (h : ∀ c ∈ cs.head?, Text.isBlank c = false) :
    (Text.trim (String.ofList cs)).isEmpty = cs.isEmpty := by
  rw [trim_ofList, isEmpty_ofList, Text.trimChars_eq_trimEnd h]
  cases cs with
  | nil => rfl
  | cons c cs =>
    obtain ⟨blanks, hblanks, hcs⟩ := Text.exists_trimEnd_append (c :: cs)
    rw [List.isEmpty_cons, List.isEmpty_eq_false_iff]
    intro hempty
    rw [hempty, List.nil_append] at hcs
    have hblank : Text.isBlank c = true := hblanks c (hcs ▸ List.mem_cons_self)
    cases hblank.symm.trans (h c rfl)

/-! ## Quoted parts -/

theorem isIn_of_closeQuote {offset : Nat} {cs inside : List Char}
    (h : Cursor.IsIn ⟨offset, cs⟩ text)
    (hclose : closeQuote offset cs = some (inside, next)) : next.IsIn text := by
  induction cs generalizing offset inside with
  | nil => cases hclose
  | cons c cs ih =>
    unfold closeQuote at hclose
    split at hclose
    next =>
      cases hclose
      exact h.after rfl
    next =>
      obtain ⟨⟨_, _⟩, hfound, hinside⟩ := Option.map_eq_some_iff.1 hclose
      cases hinside
      exact ih (h.after rfl) hfound

theorem closeQuote_eq_none_iff {offset : Nat} {cs : List Char} :
    closeQuote offset cs = none ↔ '"' ∉ cs := by
  induction cs generalizing offset with
  | nil => simp [closeQuote]
  | cons c cs ih =>
    unfold closeQuote
    by_cases hc : c = '"'
    · simp [hc]
    · simp [hc, ih, Ne.symm hc]

/-- Behind the quote at `start`, a plain argument goes on where the quoted part ends. -/
theorem plainFrom_some {start depth offset : Nat} {cs : List Char} :
    plainFrom (some start) depth offset cs =
      match closeQuote offset cs with
      | none => .error (.unterminatedQuote start)
      | some (inside, next) =>
        (plainFrom none depth next.offset next.rest).map (Prod.map (inside ++ '"' :: ·) id) := by
  induction cs generalizing offset with
  | nil => rfl
  | cons c cs ih =>
    rw [plainFrom]
    unfold closeQuote
    split
    next hc =>
      subst hc
      rfl
    next =>
      rw [ih]
      cases closeQuote (offset + c.utf8Size) cs with
      | none => rfl
      | some found =>
        dsimp only [Option.map, prepend]
        cases plainFrom none depth found.2.offset found.2.rest <;> rfl

theorem plainFrom_of_quote {depth offset : Nat} {cs : List Char} :
    plainFrom none depth offset ('"' :: cs) =
      quoted ⟨offset, '"' :: cs⟩ cs >>= fun found =>
        (plainFrom none depth found.2.offset found.2.rest).map
          (Prod.map ('"' :: found.1.toList ++ '"' :: ·) id) := by
  rw [plainFrom, if_pos rfl, plainFrom_some, quoted]
  cases closeQuote (offset + '"'.utf8Size) cs with
  | none => rfl
  | some found =>
    obtain ⟨inside, next⟩ := found
    change _ = Except.map _ _
    rw [String.toList_ofList]
    dsimp only
    cases plainFrom none depth next.offset next.rest <;> rfl

theorem length_quoted_lt {inside : String} (h : quoted at_ rest = .ok (inside, next)) :
    next.rest.length < rest.length := by
  unfold quoted at h
  split at h
  next => cases h
  next hclose =>
    cases h
    exact length_closeQuote_lt hclose

namespace Positions

/-! ## Steps without a fault -/

theorem ok_bind {ε α β : Type} (a : α) (f : α → Except ε β) : Except.ok a >>= f = f a := rfl

/-- What stands between two places of a text can be cut out of it. -/
theorem slice_of_isIn (h : at_.IsIn text) (hnext : next.IsIn text)
    (hrest : at_.rest = piece ++ next.rest) :
    slice text at_.offset next.offset = .ok (String.ofList piece) := by
  have hoffset : next.offset = at_.offset + (String.ofList piece).utf8ByteSize :=
    hnext.offset_eq (h.behind hrest) rfl
  obtain ⟨before, htext, hbefore⟩ := h
  refine slice_eq_ok_iff.2 ⟨before, String.ofList next.rest, ?_, hbefore, hoffset⟩
  rw [htext, hrest, String.ofList_append]

theorem rest_of_isIn (h : at_.IsIn text) :
    Positions.rest text at_.offset = .ok (String.ofList at_.rest) :=
  slice_of_isIn h (Cursor.IsIn.finish text) (List.append_nil _).symm

theorem peek_of_isIn (h : at_.IsIn text) : peek text at_.offset = .ok at_.rest.head? := by
  rw [peek, rest_of_isIn h, ok_bind, String.toList_ofList]
  rfl

theorem bump_of_nil (h : at_.IsIn text) (hrest : at_.rest = []) :
    bump text at_.offset = .ok (none, at_.offset) := by
  rw [bump, peek_of_isIn h, hrest]
  rfl

theorem bump_of_cons (h : at_.IsIn text) (hrest : at_.rest = c :: rest) :
    bump text at_.offset = .ok (some c, (at_.after c rest).offset) := by
  rw [bump, peek_of_isIn h, hrest]
  rfl

theorem skipFrom_of_isIn {inClass : Char → Bool} {offset : Nat} {cs : List Char}
    (h : Cursor.IsIn ⟨offset, cs⟩ text) :
    skip text inClass offset = .ok (Cursor.skipFrom inClass offset cs).offset := by
  induction cs generalizing offset with
  | nil =>
    rw [skip_eq, peek_of_isIn h]
    rfl
  | cons c cs ih =>
    rw [skip_eq, peek_of_isIn h, ok_bind]
    dsimp only [List.head?_cons]
    unfold Cursor.skipFrom
    split
    · exact ih (h.after rfl)
    · rfl

theorem skip_of_isIn (h : at_.IsIn text) (inClass : Char → Bool) :
    skip text inClass at_.offset = .ok (at_.skip inClass).offset :=
  skipFrom_of_isIn h

theorem skipBlanks_of_isIn (h : at_.IsIn text) :
    skipBlanks text at_.offset = .ok at_.skipBlanks.offset :=
  skip_of_isIn h _

theorem identifier_of_isIn (h : at_.IsIn text) :
    identifier text at_.offset =
      .ok (String.ofList at_.identifier.1, at_.identifier.2.offset) := by
  have hword : at_.rest = at_.identifier.1 ++ at_.identifier.2.rest := by
    rw [identifier_rest]
    exact List.takeWhile_append_dropWhile.symm
  have hslice := slice_of_isIn h (h.skip Text.isWordChar) hword
  rw [identifier, skip_of_isIn h, ok_bind]
  exact congrArg (· >>= _) hslice

theorem atCall_of_isIn (h : at_.IsIn text) : atCall text at_.offset = .ok at_.atCall := by
  rw [atCall, rest_of_isIn h, ok_bind, String.toList_ofList]
  dsimp only
  split
  next hname =>
    have hname : at_.rest.takeWhile Text.isWordChar = [] := by simpa using hname
    have hcall : at_.atCall = false := by simp [Cursor.atCall, hname]
    exact congrArg Except.ok hcall.symm
  next hname =>
    have hname : at_.rest.takeWhile Text.isWordChar ≠ [] := by simpa using hname
    have hslice : slice (String.ofList at_.rest)
        (String.ofList (at_.rest.takeWhile Text.isWordChar)).utf8ByteSize
        (String.ofList at_.rest).utf8ByteSize =
          .ok (String.ofList (at_.rest.dropWhile Text.isWordChar)) := by
      refine slice_eq_ok_iff.2 ⟨_, "", ?_, rfl, ?_⟩
      · rw [String.append_empty, ← String.ofList_append, List.takeWhile_append_dropWhile]
      · rw [← String.utf8ByteSize_append, ← String.ofList_append,
          List.takeWhile_append_dropWhile]
    rw [hslice, ok_bind, String.toList_ofList]
    have hcall : at_.atCall =
        ((Text.trimStart (at_.rest.dropWhile Text.isWordChar)).head? == some '(') := by
      simp [Cursor.atCall, hname]
    exact congrArg Except.ok hcall.symm

/-! ## Agreement -/

/-- The reader on positions comes to what the reader on cursors comes to: to related results,
    or to the same mistake, which is true of the text. -/
inductive Agrees (text : String) {α β : Type} (R : α → β → Prop) :
    Except Stop α → Except SyntaxError β → Prop
  | ok {a : α} {b : β} : R a b → Agrees text R (.ok a) (.ok b)
  | mistake {e : SyntaxError} : e.TrueOf text → Agrees text R (.error (.mistake e)) (.error e)

/-- The position is that of a cursor in the text. -/
inductive Stands (text : String) : Nat → Cursor → Prop
  | here {next : Cursor} : next.IsIn text → Stands text next.offset next

/-- The same was read, up to the same place in the text. -/
inductive ReadsAlike (text : String) {α : Type} : α × Nat → α × Cursor → Prop
  | same {a : α} {next : Cursor} : next.IsIn text → ReadsAlike text (a, next.offset) (a, next)

namespace Agrees

variable {α β γ δ : Type} {R : α → β → Prop} {S : γ → δ → Prop} {x : Except Stop α}
  {y : Except SyntaxError β}

theorem ok_or_mistake (h : Agrees text R x y) :
    (∃ a b, x = .ok a ∧ y = .ok b ∧ R a b) ∨
      ∃ e : SyntaxError, x = .error (.mistake e) ∧ y = .error e ∧ e.TrueOf text := by
  cases h with
  | ok hab => exact .inl ⟨_, _, rfl, rfl, hab⟩
  | mistake he => exact .inr ⟨_, rfl, rfl, he⟩

theorem bind (h : Agrees text R x y) {f : α → Except Stop γ} {g : β → Except SyntaxError δ}
    (hfg : ∀ a b, y = .ok b → R a b → Agrees text S (f a) (g b)) :
    Agrees text S (x >>= f) (y >>= g) := by
  cases h with
  | ok hab => exact hfg _ _ rfl hab
  | mistake he => exact .mistake he

theorem map (h : Agrees text R x y) {T : α → δ → Prop} {g : β → δ}
    (hg : ∀ a b, R a b → T a (g b)) : Agrees text T x (y.map g) := by
  cases h with
  | ok hab => exact .ok (hg _ _ hab)
  | mistake he => exact .mistake he

theorem of_ok {z : Except Stop (α × Nat)} {b : α} {next : Cursor}
    (h : Agrees text (ReadsAlike text) z (.ok (b, next))) :
    z = .ok (b, next.offset) ∧ next.IsIn text := by
  rcases h with ⟨⟨hnext⟩⟩
  exact ⟨rfl, hnext⟩

theorem of_error {e : SyntaxError} (h : Agrees text R x (.error e)) :
    x = .error (.mistake e) ∧ e.TrueOf text := by
  rcases h with _ | htrue
  exact ⟨rfl, htrue⟩

theorem eq_mapError {x : Except Stop β} (h : Agrees text Eq x y) : x = y.mapError .mistake := by
  cases h with
  | ok hab => exact congrArg Except.ok hab
  | mistake he => rfl

theorem ne_fault (h : Agrees text R x y) {fault : Fault} : x ≠ .error (.fault fault) := by
  rintro rfl
  cases h

theorem trueOf (h : Agrees text R x y) {e : SyntaxError} (he : y = .error e) : e.TrueOf text := by
  cases h with
  | ok hab => cases he
  | mistake htrue =>
    cases he
    exact htrue

end Agrees

/-! ## Arguments -/

theorem closeQuote_of_isIn {offset : Nat} {cs : List Char} (h : Cursor.IsIn ⟨offset, cs⟩ text) :
    closeQuote text offset = .ok ((Expression.closeQuote offset cs).map (·.2.offset)) := by
  induction cs generalizing offset with
  | nil =>
    rw [closeQuote_eq, peek_of_isIn h]
    rfl
  | cons c cs ih =>
    rw [closeQuote_eq, peek_of_isIn h, ok_bind]
    dsimp only [List.head?_cons]
    unfold Expression.closeQuote
    split
    · rfl
    · rw [ih (h.after rfl), Option.map_map]
      rfl

theorem agrees_quoted (h : at_.IsIn text) (hrest : at_.rest = '"' :: rest) :
    Agrees text (ReadsAlike text) (quoted text at_.offset) (Expression.quoted at_ rest) := by
  have hbody : Cursor.IsIn ⟨at_.offset + '"'.utf8Size, rest⟩ text := h.after hrest
  have hclose := closeQuote_of_isIn hbody
  rw [quoted, bump_of_cons h hrest, ok_bind]
  change Agrees _ _ (closeQuote text (at_.offset + '"'.utf8Size) >>= _) _
  rw [hclose, ok_bind]
  unfold Expression.quoted
  cases hfound : Expression.closeQuote (at_.offset + '"'.utf8Size) rest with
  | none =>
    obtain ⟨before, htext, hoffset⟩ := h
    have hquote : text = before ++ ("\"" ++ String.ofList rest) := by
      rw [htext, hrest, ← List.singleton_append, String.ofList_append]
    have hlast : '"' ∉ (String.ofList rest).toList := by
      rw [String.toList_ofList]
      exact closeQuote_eq_none_iff.1 hfound
    rw [hoffset]
    exact .mistake (.unterminatedQuote hquote hlast)
  | some found =>
    obtain ⟨inside, next⟩ := found
    have hspelled : rest = inside ++ '"' :: next.rest := eq_append_of_closeQuote hfound
    have hnext : next.IsIn text := isIn_of_closeQuote hbody hfound
    have hend := hbody.behind hspelled
    -- The closing quote takes one byte, so its position is one below that behind it.
    have hoffset : next.offset =
        at_.offset + '"'.utf8Size + (String.ofList inside).utf8ByteSize + 1 :=
      hnext.offset_eq (hend.after rfl) rfl
    have hslice := slice_of_isIn hbody hend hspelled
    change Agrees _ _ (decrement next.offset >>= _) _
    rw [hoffset]
    change Agrees _ _ (slice text (at_.offset + '"'.utf8Size) _ >>= _) _
    rw [hslice]
    exact .ok (.same hnext)

/-- Counting parentheses on positions goes as far as reading a plain argument. The count falls
    only where a parenthesis is open. -/
theorem agrees_plainEnd (depth : Nat) {at_ : Cursor} (h : at_.IsIn text) :
    Agrees text (fun stop y => Stands text stop y.2) (plainEnd text depth at_.offset)
      (plainFrom none depth at_.offset at_.rest) := by
  rw [plainEnd_eq, peek_of_isIn h]
  match at_, h with
  | ⟨_, []⟩, h => exact .ok (.here h)
  | ⟨offset, c :: cs⟩, h =>
    have hgo : ∀ depth, Agrees text (fun stop y => Stands text stop y.2)
        (plainEnd text depth (offset + c.utf8Size))
        ((plainFrom none depth (offset + c.utf8Size) cs).map (prepend c)) := fun depth =>
      (agrees_plainEnd depth (h.after rfl)).map fun _ _ hstands => hstands
    change Agrees _ _ (ite _ _ _) _
    by_cases hquote : c = '"'
    · subst hquote
      rw [if_pos rfl, plainFrom_of_quote]
      refine (agrees_quoted h rfl).bind ?_
      rintro _ ⟨_, next⟩ hread ⟨hnext⟩
      have hlength : next.rest.length < cs.length := length_quoted_lt hread
      exact (agrees_plainEnd depth hnext).map fun _ _ hstands => hstands
    · rw [plainFrom, if_neg hquote, if_neg hquote]
      split
      next => exact hgo (depth + 1)
      next =>
        by_cases hclose : c = ')'
        · subst hclose
          cases depth with
          | zero => exact .ok (.here h)
          | succ depth => exact hgo depth
        · simp only [hclose, false_and, false_or, if_false, and_comm (a := depth = 0)]
          split
          · exact .ok (.here h)
          · exact hgo depth
termination_by at_.rest.length
decreasing_by
  · exact cs.length.lt_succ_self
  · exact Nat.lt_succ_of_lt hlength

theorem agrees_argument (h : at_.IsIn text) :
    Agrees text (ReadsAlike text) (argument text at_.offset) (Expression.argument at_) := by
  have hbehind := h.skipBlanks
  rw [argument, skipBlanks_of_isIn h, ok_bind, peek_of_isIn hbehind, ok_bind]
  unfold Expression.argument
  dsimp only
  split
  next hquote =>
    obtain ⟨rest, hrest⟩ := List.head?_eq_some_iff.1 hquote
    rw [hrest]
    rcases (agrees_quoted hbehind hrest).ok_or_mistake with
      ⟨_, _, hread, hquoted, ⟨hnext⟩⟩ | ⟨e, hread, hquoted, htrue⟩
    · simp only [hread, hquoted]
      exact .ok (.same hnext)
    · simp only [hread, hquoted]
      exact .mistake htrue
  next hplain =>
    split
    next hrest => exact absurd (congrArg List.head? hrest) hplain
    next =>
      rcases (agrees_plainEnd 0 hbehind).ok_or_mistake with
        ⟨_, ⟨piece, next⟩, hread, hpiece, ⟨hnext⟩⟩ | ⟨e, hread, hpiece, htrue⟩
      · have hslice := slice_of_isIn hbehind hnext (closes_of_plainFrom hpiece).1.symm
        simp only [hread, hpiece, ok_bind]
        rw [hslice, ok_bind, trim_ofList]
        exact .ok (.same hnext)
      · simp only [hread, hpiece]
        exact .mistake htrue

theorem entry_of_ok {a : Argument} (h : at_.IsIn text)
    (ha : Expression.argument at_ = .ok (a, next)) : next.IsIn text ∧
      entry text at_.offset =
        (bump text next.skipBlanks.offset).map fun found => (a, found.1, found.2) := by
  obtain ⟨hargument, hnext⟩ := (ha ▸ agrees_argument h).of_ok
  refine ⟨hnext, ?_⟩
  rw [entry, hargument, ok_bind]
  dsimp only
  rw [skipBlanks_of_isIn hnext, ok_bind]
  cases bump text next.skipBlanks.offset <;> rfl

theorem agrees_arguments (h : at_.IsIn text) :
    Agrees text (ReadsAlike text) (arguments text at_.offset) (Expression.arguments at_) := by
  fun_induction Expression.arguments at_ with
  | case1 at_ e ha =>
    obtain ⟨hargument, htrue⟩ := (ha ▸ agrees_argument h).of_error
    rw [arguments_eq, entry, hargument]
    exact .mistake htrue
  | case2 at_ first next ha hrest =>
    obtain ⟨hnext, hentry⟩ := entry_of_ok h ha
    rw [arguments_eq, hentry, bump_of_nil hnext.skipBlanks hrest]
    exact .mistake (hnext.skipBlanks.expected _)
  | case3 at_ first next ha rest hrest =>
    obtain ⟨hnext, hentry⟩ := entry_of_ok h ha
    rw [arguments_eq, hentry, bump_of_cons hnext.skipBlanks hrest]
    exact .ok (.same (hnext.skipBlanks.after hrest))
  | case4 at_ first next ha rest e hrest behind _ _ hothers ih =>
    obtain ⟨hnext, hentry⟩ := entry_of_ok h ha
    have hbehind : behind.IsIn text := hnext.skipBlanks.after hrest
    obtain ⟨hread, htrue⟩ := (hothers ▸ ih hbehind).of_error
    rw [arguments_eq, hentry, bump_of_cons hnext.skipBlanks hrest]
    change Agrees _ _ (arguments text behind.offset >>= _) _
    rw [hread]
    exact .mistake htrue
  | case5 at_ first next ha rest others last hrest behind _ _ hothers ih =>
    obtain ⟨hnext, hentry⟩ := entry_of_ok h ha
    have hbehind : behind.IsIn text := hnext.skipBlanks.after hrest
    obtain ⟨hread, hlast⟩ := (hothers ▸ ih hbehind).of_ok
    rw [arguments_eq, hentry, bump_of_cons hnext.skipBlanks hrest]
    change Agrees _ _ (arguments text behind.offset >>= _) _
    rw [hread]
    exact .ok (.same hlast)
  | case6 at_ first next ha c rest hrest behind hclose hcomma =>
    obtain ⟨hnext, hentry⟩ := entry_of_ok h ha
    have hbehind : behind.IsIn text := hnext.skipBlanks.after hrest
    rw [arguments_eq, hentry, bump_of_cons hnext.skipBlanks hrest]
    change Agrees _ _ (ite _ _ (ite _ _ _)) _
    rw [if_neg (mt Option.some.inj hcomma), if_neg (mt Option.some.inj hclose)]
    exact .mistake (hbehind.expected _)

/-! ## Calls -/

theorem agrees_openParenthesis (h : at_.IsIn text) :
    Agrees text (Stands text) (openParenthesis text at_.offset)
      (Expression.openParenthesis at_) := by
  have hbehind := h.skipBlanks
  rw [openParenthesis, skipBlanks_of_isIn h, ok_bind, peek_of_isIn hbehind, ok_bind]
  unfold Expression.openParenthesis
  dsimp only
  split
  next hopen =>
    obtain ⟨rest, hrest⟩ := List.head?_eq_some_iff.1 hopen
    rw [hrest, bump_of_cons hbehind hrest]
    exact .ok (.here (hbehind.after hrest))
  next hclosed =>
    split
    next hrest => exact absurd (congrArg List.head? hrest) hclosed
    next => exact .mistake (hbehind.expected _)

theorem agrees_assemble (name : String) (args : List Argument) :
    Agrees text Eq ((assemble name args).mapError .mistake) (assemble name args) := by
  unfold assemble
  split
  · split
    · exact .ok rfl
    · exact .mistake .tooManyArguments
  · exact .mistake .tooFewArguments

theorem agrees_call (h : at_.IsIn text) :
    Agrees text (ReadsAlike text) (call text at_.offset) (Expression.call at_) := by
  have hbehind := h.skipBlanks
  rw [call, skipBlanks_of_isIn h, ok_bind, rest_of_isIn hbehind, ok_bind,
    isEmpty_trim (head?_skipBlanks at_)]
  unfold Expression.call
  dsimp only
  split
  next => exact .mistake .empty
  next =>
    rw [identifier_of_isIn hbehind, ok_bind, isEmpty_ofList]
    split
    next => exact .mistake (hbehind.expected _)
    next =>
      refine (agrees_openParenthesis (hbehind.skip _)).bind ?_
      rintro _ inside - ⟨hinside⟩
      refine (agrees_arguments hinside).bind ?_
      rintro _ ⟨args, next⟩ - ⟨hnext⟩
      refine (agrees_assemble _ args).bind ?_
      rintro result _ - rfl
      exact .ok (.same hnext)

theorem agrees_finish (h : at_.IsIn text) :
    Agrees text Eq (finish text at_.offset) (Expression.finish at_) := by
  have hbehind := h.skipBlanks
  rw [finish, skipBlanks_of_isIn h, ok_bind, rest_of_isIn hbehind, ok_bind, isEmpty_ofList]
  unfold Expression.finish
  dsimp only
  split
  next => exact .ok rfl
  next hleft =>
    obtain ⟨before, htext, -⟩ := hbehind
    obtain ⟨c, rest, hrest⟩ := List.exists_cons_of_ne_nil (mt List.isEmpty_iff.2 hleft)
    have hfirst : at_.skipBlanks.rest.head? = some c := congrArg List.head? hrest
    have hblank : Text.isBlank c = false := head?_skipBlanks at_ c hfirst
    exact .mistake (.trailing htext (String.toList_ofList ▸ hfirst) hblank)

/-! ## Conditions -/

theorem agrees_operator (h : at_.IsIn text) :
    Agrees text (ReadsAlike text) (operator text at_.offset) (Expression.operator at_) := by
  have hbehind := h.skipBlanks
  rw [operator, skipBlanks_of_isIn h, ok_bind, identifier_of_isIn hbehind, ok_bind]
  unfold Expression.operator
  dsimp only
  rw [isEmpty_ofList]
  split
  next => exact .mistake (hbehind.expected _)
  next =>
    cases (Spelled.ofWord? (String.ofList at_.skipBlanks.identifier.1) : Option Operator) with
    | some op => exact .ok (.same (hbehind.skip _))
    | none => exact .mistake .unknownOperator

theorem agrees_operand (h : at_.IsIn text) :
    Agrees text (ReadsAlike text) (operand text at_.offset) (Expression.operand at_) := by
  have hbehind := h.skipBlanks
  rw [operand, skipBlanks_of_isIn h, ok_bind, peek_of_isIn hbehind, ok_bind]
  unfold Expression.operand
  dsimp only
  split
  next hquote =>
    obtain ⟨rest, hrest⟩ := List.head?_eq_some_iff.1 hquote
    rw [hrest]
    refine (agrees_quoted hbehind hrest).bind ?_
    rintro _ _ - ⟨hnext⟩
    exact .ok (.same hnext)
  next hplain =>
    split
    next hrest => exact absurd (congrArg List.head? hrest) hplain
    next =>
      rw [atCall_of_isIn hbehind, ok_bind]
      split
      next =>
        refine (agrees_call hbehind).bind ?_
        rintro _ _ - ⟨hnext⟩
        exact .ok (.same hnext)
      next =>
        rw [rest_of_isIn hbehind, ok_bind, trim_ofList, isEmpty_ofList]
        split
        next => exact .mistake (hbehind.expected _)
        next =>
          have hend : (at_.skipBlanks.skip fun _ => true).IsIn text := hbehind.skip _
          have hoffset : text.utf8ByteSize = (at_.skipBlanks.skip fun _ => true).offset :=
            (Cursor.IsIn.finish text).offset_eq hend (skip_all_rest _).symm
          rw [hoffset]
          exact .ok (.same hend)

/-! ## Whole texts -/

theorem agrees_readCall (text : String) : Agrees text Eq (readCall text) (Call.ofText text) := by
  refine (agrees_call (.start text)).bind ?_
  rintro _ ⟨c, next⟩ - ⟨hnext⟩
  refine (agrees_finish hnext).bind ?_
  rintro _ _ - -
  exact .ok rfl

theorem agrees_readCondition (text : String) :
    Agrees text Eq (readCondition text) (Condition.ofText text) := by
  refine (agrees_call (.start text)).bind ?_
  rintro _ ⟨left, next⟩ - ⟨hnext⟩
  refine (agrees_operator hnext).bind ?_
  rintro _ ⟨op, next⟩ - ⟨hnext⟩
  refine (agrees_operand hnext).bind ?_
  rintro _ ⟨right, next⟩ - ⟨hnext⟩
  refine (agrees_finish hnext).bind ?_
  rintro _ _ - -
  exact .ok rfl

end Positions

/-- On every text, the reader on positions has no fault and comes to what the reader on cursors
    comes to. And each mistake that either way of reading ends in tells the truth. -/
theorem reading_is_safe (text : String) :
    (∀ fault, Positions.readCall text ≠ .error (.fault fault) ∧
        Positions.readCondition text ≠ .error (.fault fault)) ∧
      Positions.readCall text = (Call.ofText text).mapError .mistake ∧
      Positions.readCondition text = (Condition.ofText text).mapError .mistake ∧
      ∀ e, Call.ofText text = .error e ∨ Condition.ofText text = .error e → e.TrueOf text := by
  have hcall := Positions.agrees_readCall text
  have hcondition := Positions.agrees_readCondition text
  refine ⟨fun fault => ⟨hcall.ne_fault, hcondition.ne_fault⟩, hcall.eq_mapError,
    hcondition.eq_mapError, ?_⟩
  rintro e (he | he)
  · exact hcall.trueOf he
  · exact hcondition.trueOf he

/-- A quote that does not end behind a letter of two bytes, a blank of three bytes in front of
    what is no name, and a letter of two bytes behind a condition. -/
theorem reading_is_safe_of_wide_texts :
    (Call.ofText "f(é, (\"ü)" = .error (.unterminatedQuote 7) ∧
        (SyntaxError.unterminatedQuote 7).TrueOf "f(é, (\"ü)") ∧
      (Call.ofText "\u2003é" = .error (.expected "function name" 3) ∧
        (SyntaxError.expected "function name" 3).TrueOf "\u2003é") ∧
      Condition.ofText "f(é, x) EQ \"ü\" ü" = .error (.trailing "ü") ∧
        (SyntaxError.trailing "ü").TrueOf "f(é, x) EQ \"ü\" ü" := by
  have hquote : Call.ofText "f(é, (\"ü)" = .error (.unterminatedQuote 7) := by decide +kernel
  have hname : Call.ofText "\u2003é" = .error (.expected "function name" 3) := by decide +kernel
  have htrailing : Condition.ofText "f(é, x) EQ \"ü\" ü" = .error (.trailing "ü") := by
    decide +kernel
  exact ⟨⟨hquote, (reading_is_safe _).2.2.2 _ (.inl hquote)⟩,
    ⟨hname, (reading_is_safe _).2.2.2 _ (.inl hname)⟩,
    htrailing, (reading_is_safe _).2.2.2 _ (.inr htrailing)⟩

end Expression
end AudioPolicy
