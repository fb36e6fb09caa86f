-- SUMMARY: The reader of expressions on byte positions, where a wrong cut is a fault.
import AudioPolicy.Expression.Reader
import AudioPolicy.Proofs.Grammar

/-! # Reading by positions

The reader goes through a text with the rest of the text at hand. A reader that has a position
only, as a number of bytes, takes each piece out of the text by cutting at two positions, and
it counts open parentheses up and down. Both may go wrong. A cut needs a beginning in front of
its end, and both at places where a character begins or the text ends. A count must not fall
below zero.

Here every function of the reader is written once more on positions. A wrong cut and a count
below zero stop it with a fault, and nothing is assumed that would exclude them. -/

namespace AudioPolicy.Expression

/-- What must not happen on the way through a text. -/
inductive Fault
  /-- A piece is cut out where no character begins, or begins behind its end. -/
  | cut (start stop : Nat)
  /-- Something is counted below zero. -/
  | underflow
  deriving DecidableEq, Repr

/-- Why a reader on positions stops. -/
inductive Stop
  | fault (fault : Fault)
  | mistake (error : SyntaxError)
  deriving DecidableEq, Repr

namespace Positions

/-! ## Cutting and counting -/

/-- One less than a number. -/
def decrement : Nat → Except Stop Nat
  | 0 => .error (.fault .underflow)
  | n + 1 => .ok n

/-- The piece of a text from one position to another. -/
def slice (text : String) (start stop : Nat) : Except Stop String :=
  if h : start ≤ stop ∧ String.Pos.Raw.IsValid text ⟨start⟩ ∧ String.Pos.Raw.IsValid text ⟨stop⟩
  then .ok (text.extract (text.pos ⟨start⟩ h.2.1) (text.pos ⟨stop⟩ h.2.2))
  else .error (.fault (.cut start stop))

theorem slice_append (before piece behind : String) :
    slice (before ++ (piece ++ behind)) before.utf8ByteSize
      (before.utf8ByteSize + piece.utf8ByteSize) = .ok piece := by
  have hstart : String.Pos.Raw.IsValid (before ++ (piece ++ behind)) ⟨before.utf8ByteSize⟩ :=
    String.Pos.Raw.isValid_iff_exists_append.2 ⟨before, piece ++ behind, rfl, rfl⟩
  have hstop : String.Pos.Raw.IsValid (before ++ (piece ++ behind))
      ⟨before.utf8ByteSize + piece.utf8ByteSize⟩ :=
    String.Pos.Raw.isValid_iff_exists_append.2
      ⟨before ++ piece, behind, String.append_assoc.symm, String.Pos.Raw.ext (by simp)⟩
  rw [slice, dif_pos ⟨Nat.le_add_right _ _, hstart, hstop⟩]
  congr 1
  apply String.toByteArray_inj.1
  have hbytes := (ByteArray.extract_append_size_add (a := before.toByteArray) (i := 0)).trans
    (ByteArray.extract_append_eq_left (a := piece.toByteArray) (b := behind.toByteArray) rfl)
  simpa using hbytes

/-- A piece can be cut out where the text falls into what is in front of it, the piece, and
    what is behind it. -/
theorem slice_eq_ok_iff {text piece : String} {start stop : Nat} :
    slice text start stop = .ok piece ↔
      ∃ before behind, text = before ++ (piece ++ behind) ∧ start = before.utf8ByteSize ∧
        stop = start + piece.utf8ByteSize := by
  constructor
  · intro h
    have hvalid : start ≤ stop ∧ String.Pos.Raw.IsValid text ⟨start⟩ ∧
        String.Pos.Raw.IsValid text ⟨stop⟩ := by
      unfold slice at h
      split at h
      · assumption
      · cases h
    obtain ⟨hle, hstart, hstop⟩ := hvalid
    obtain ⟨before, rest, htext, hbefore⟩ := String.Pos.Raw.isValid_iff_exists_append.1 hstart
    obtain ⟨front, behind, htext', hfront⟩ := String.Pos.Raw.isValid_iff_exists_append.1 hstop
    have hstarts : (text.pos ⟨start⟩ hstart).Splits before rest := ⟨htext, hbefore⟩
    have hstops : (text.pos ⟨stop⟩ hstop).Splits front behind := ⟨htext', hfront⟩
    obtain ⟨middle, rfl, rfl⟩ := (hstarts.le_iff_exists_eq_append hstops).1 hle
    obtain rfl : start = before.utf8ByteSize := congrArg String.Pos.Raw.byteIdx hbefore
    obtain rfl : stop = before.utf8ByteSize + middle.utf8ByteSize := by
      simpa using congrArg String.Pos.Raw.byteIdx hfront
    subst htext
    obtain rfl : middle = piece := Except.ok.inj ((slice_append before middle behind).symm.trans h)
    exact ⟨before, behind, rfl, rfl, rfl⟩
  · rintro ⟨before, behind, rfl, rfl, rfl⟩
    exact slice_append before piece behind

/-! ## Characters -/

section
variable (text : String)

/-- What stands behind a position. -/
def rest (position : Nat) : Except Stop String := slice text position text.utf8ByteSize

/-- The next character, if there is one. -/
def peek (position : Nat) : Except Stop (Option Char) := do
  return (← rest text position).toList.head?

/-- The next character, if there is one, and the position behind it. -/
def bump (position : Nat) : Except Stop (Option Char × Nat) := do
  match ← peek text position with
  | some c => return (some c, position + c.utf8Size)
  | none => return (none, position)

end

variable {text : String} {position next : Nat} {c : Char}

theorem lt_of_peek (h : peek text position = .ok (some c)) : position < text.utf8ByteSize := by
  obtain ⟨piece, hrest, hhead⟩ := bind_eq_ok_iff.1 h
  obtain ⟨before, behind, -, rfl, hsize⟩ := slice_eq_ok_iff.1 hrest
  have hpiece : piece ≠ "" := by
    rintro rfl
    cases hhead
  have hpos : piece.utf8ByteSize ≠ 0 := by simpa using hpiece
  omega

/-- Behind the next character, less is left. -/
theorem left_lt_of_peek (h : peek text position = .ok (some c)) :
    text.utf8ByteSize - (position + c.utf8Size) < text.utf8ByteSize - position := by
  have hlt := lt_of_peek h
  have hsize := c.utf8Size_pos
  omega

theorem bump_eq_some (h : bump text position = .ok (some c, next)) :
    peek text position = .ok (some c) ∧ next = position + c.utf8Size := by
  obtain ⟨found, hpeek, h⟩ := bind_eq_ok_iff.1 h
  cases found with
  | some d =>
    cases h
    exact ⟨hpeek, rfl⟩
  | none => cases h

/-! ## Words and blanks -/

section
variable (text : String)

/-- The position behind the characters of a class. -/
def skip (inClass : Char → Bool) (position : Nat) : Except Stop Nat :=
  match h : peek text position with
  | .error stop => .error stop
  | .ok none => .ok position
  | .ok (some c) =>
    have := left_lt_of_peek h
    if inClass c then skip inClass (position + c.utf8Size) else .ok position
termination_by text.utf8ByteSize - position

/-- The position behind the blanks. -/
def skipBlanks (position : Nat) : Except Stop Nat := skip text Text.isBlank position

/-- The identifier at a position, possibly empty, and the position behind it. -/
def identifier (position : Nat) : Except Stop (String × Nat) := do
  let next ← skip text Text.isWordChar position
  return (← slice text position next, next)

/-- Whether a call starts here. What stands behind the name is cut out of what stands here. -/
def atCall (position : Nat) : Except Stop Bool := do
  let here ← rest text position
  let name := String.ofList (here.toList.takeWhile Text.isWordChar)
  if name.isEmpty then return false
  else
    let behind ← slice here name.utf8ByteSize here.utf8ByteSize
    return (Text.trimStart behind.toList).head? == some '('

end

theorem skip_eq (inClass : Char → Bool) : skip text inClass position = (do
    match ← peek text position with
    | some c => if inClass c then skip text inClass (position + c.utf8Size) else return position
    | none => return position) := by
  rw [skip]
  split
  next h => simp only [h]; rfl
  next h => simp only [h]; rfl
  next c h => simp only [h]; rfl

theorem le_of_skip {inClass : Char → Bool} (h : skip text inClass position = .ok next) :
    position ≤ next := by
  fun_induction skip text inClass position with
  | case1 => cases h
  | case2 =>
    cases h
    exact le_rfl
  | case3 _ _ _ _ _ ih => exact (Nat.le_add_right _ _).trans (ih h)
  | case4 =>
    cases h
    exact le_rfl

/-! ## Arguments -/

section
variable (text : String)

/-- The position behind the next quote, if there is one. -/
def closeQuote (position : Nat) : Except Stop (Option Nat) :=
  match h : peek text position with
  | .error stop => .error stop
  | .ok none => .ok none
  | .ok (some c) =>
    have := left_lt_of_peek h
    if c = '"' then .ok (some (position + c.utf8Size)) else closeQuote (position + c.utf8Size)
termination_by text.utf8ByteSize - position

/-- A quoted text at a position at which a quote stands. Its end is found one byte in front of
    the position behind the closing quote. -/
def quoted (position : Nat) : Except Stop (String × Nat) := do
  let (_, body) ← bump text position
  match ← closeQuote text body with
  | some next => return (← slice text body (← decrement next), next)
  | none => .error (.mistake (.unterminatedQuote position))

end

theorem closeQuote_eq : closeQuote text position = (do
    match ← peek text position with
    | some c =>
      if c = '"' then return some (position + c.utf8Size)
      else closeQuote text (position + c.utf8Size)
    | none => return none) := by
  rw [closeQuote]
  split
  next h => simp only [h]; rfl
  next h => simp only [h]; rfl
  next c h => simp only [h]; rfl

theorem lt_of_closeQuote (h : closeQuote text position = .ok (some next)) : position < next := by
  fun_induction closeQuote text position with
  | case1 => cases h
  | case2 => cases h
  | case3 =>
    cases h
    exact Nat.lt_add_of_pos_right (Char.utf8Size_pos _)
  | case4 _ _ _ _ _ ih => exact (Nat.le_add_right _ _).trans_lt (ih h)

theorem lt_of_quoted {inside : String} (h : quoted text position = .ok (inside, next)) :
    position < next := by
  obtain ⟨⟨found, body⟩, hbump, h⟩ := bind_eq_ok_iff.1 h
  obtain ⟨close, hclose, h⟩ := bind_eq_ok_iff.1 h
  have hbody : position ≤ body := by
    obtain ⟨peeked, -, hpeeked⟩ := bind_eq_ok_iff.1 hbump
    cases peeked with
    | some c =>
      cases hpeeked
      exact Nat.le_add_right _ _
    | none =>
      cases hpeeked
      exact le_rfl
  cases close with
  | some behind =>
    obtain ⟨_, -, h⟩ := bind_eq_ok_iff.1 h
    obtain ⟨_, -, h⟩ := bind_eq_ok_iff.1 h
    cases h
    exact hbody.trans_lt (lt_of_closeQuote hclose)
  | none => cases h

theorem left_lt_of_quoted {inside : String} (h : peek text position = .ok (some c))
    (hquoted : quoted text position = .ok (inside, next)) :
    text.utf8ByteSize - next < text.utf8ByteSize - position := by
  have hleft := lt_of_peek h
  have hlt := lt_of_quoted hquoted
  omega

section
variable (text : String)

/-- The position at which a plain argument ends, when `depth` parentheses are open. -/
def plainEnd (depth position : Nat) : Except Stop Nat :=
  match h : peek text position with
  | .error stop => .error stop
  | .ok none => .ok position
  | .ok (some c) =>
    have := left_lt_of_peek h
    if c = '"' then
      match hquoted : quoted text position with
      | .error stop => .error stop
      | .ok (_, next) =>
        have := left_lt_of_quoted h hquoted
        plainEnd depth next
    else if c = '(' then plainEnd (depth + 1) (position + c.utf8Size)
    else if c = ')' ∧ depth = 0 then .ok position
    else if c = ')' then
      match decrement depth with
      | .error stop => .error stop
      | .ok outer => plainEnd outer (position + c.utf8Size)
    else if c = ',' ∧ depth = 0 then .ok position
    else plainEnd depth (position + c.utf8Size)
termination_by text.utf8ByteSize - position

/-- One argument: a quoted text, or everything up to the end of the argument. -/
def argument (position : Nat) : Except Stop (Argument × Nat) := do
  let position ← skipBlanks text position
  if (← peek text position) = some '"' then
    let (inside, next) ← quoted text position
    return (⟨inside, true⟩, next)
  else
    let next ← plainEnd text 0 position
    return (⟨Text.trim (← slice text position next), false⟩, next)

/-- An argument, the character behind it and behind blanks, and the position behind both. -/
def entry (position : Nat) : Except Stop (Argument × Option Char × Nat) := do
  let (a, next) ← argument text position
  let (c, behind) ← bump text (← skipBlanks text next)
  return (a, c, behind)

end

theorem plainEnd_eq {depth : Nat} : plainEnd text depth position = (do
    match ← peek text position with
    | some c =>
      if c = '"' then
        let (_, next) ← quoted text position
        plainEnd text depth next
      else if c = '(' then plainEnd text (depth + 1) (position + c.utf8Size)
      else if c = ')' ∧ depth = 0 then return position
      else if c = ')' then
        let outer ← decrement depth
        plainEnd text outer (position + c.utf8Size)
      else if c = ',' ∧ depth = 0 then return position
      else plainEnd text depth (position + c.utf8Size)
    | none => return position) := by
  rw [plainEnd]
  split
  next h => simp only [h]; rfl
  next h => simp only [h]; rfl
  next c h =>
    simp only [h]
    cases quoted text position <;> cases decrement depth <;> rfl

theorem le_of_plainEnd {depth : Nat} (h : plainEnd text depth position = .ok next) :
    position ≤ next := by
  fun_induction plainEnd text depth position with
  | case1 | case3 | case7 => cases h
  | case2 | case6 | case9 =>
    cases h
    exact le_rfl
  | case4 _ _ _ _ hquoted _ _ _ ih => exact (lt_of_quoted hquoted).le.trans (ih h)
  | case5 _ _ _ _ _ ih => exact (Nat.le_add_right _ _).trans (ih h)
  | case8 _ _ _ _ _ _ _ _ _ ih => exact (Nat.le_add_right _ _).trans (ih h)
  | case10 _ _ _ _ _ _ _ _ _ _ ih => exact (Nat.le_add_right _ _).trans (ih h)

theorem le_of_argument {a : Argument} (h : argument text position = .ok (a, next)) :
    position ≤ next := by
  obtain ⟨start, hskip, h⟩ := bind_eq_ok_iff.1 h
  obtain ⟨found, -, h⟩ := bind_eq_ok_iff.1 h
  split at h
  next =>
    obtain ⟨⟨_, _⟩, hquoted, h⟩ := bind_eq_ok_iff.1 h
    cases h
    exact (le_of_skip hskip).trans (lt_of_quoted hquoted).le
  next =>
    obtain ⟨_, hplain, h⟩ := bind_eq_ok_iff.1 h
    obtain ⟨_, -, h⟩ := bind_eq_ok_iff.1 h
    cases h
    exact (le_of_skip hskip).trans (le_of_plainEnd hplain)

/-- Behind an argument and the character that follows it, less is left. -/
theorem left_lt_of_entry {a : Argument} (h : entry text position = .ok (a, some c, next)) :
    text.utf8ByteSize - next < text.utf8ByteSize - position := by
  obtain ⟨⟨_, behind⟩, hargument, h⟩ := bind_eq_ok_iff.1 h
  obtain ⟨start, hskip, h⟩ := bind_eq_ok_iff.1 h
  obtain ⟨⟨_, last⟩, hbump, h⟩ := bind_eq_ok_iff.1 h
  cases h
  obtain ⟨hpeek, rfl⟩ := bump_eq_some hbump
  have hleft := left_lt_of_peek hpeek
  have hposition := le_of_argument hargument
  have hblanks := le_of_skip hskip
  omega

/-! ## Calls -/

section
variable (text : String)

/-- The arguments up to the closing parenthesis, and the position behind it. -/
def arguments (position : Nat) : Except Stop (List Argument × Nat) :=
  match h : entry text position with
  | .error stop => .error stop
  | .ok (first, c, behind) =>
    if hcomma : c = some ',' then
      have := left_lt_of_entry (hcomma ▸ h)
      match arguments behind with
      | .error stop => .error stop
      | .ok (others, last) => .ok (first :: others, last)
    else if c = some ')' then .ok ([first], behind)
    else .error (.mistake (.expected "',' or ')'" behind))
termination_by text.utf8ByteSize - position

theorem arguments_eq (position : Nat) : arguments text position = (do
    let (first, c, behind) ← entry text position
    if c = some ',' then
      let (others, last) ← arguments text behind
      return (first :: others, last)
    else if c = some ')' then return ([first], behind)
    else .error (.mistake (.expected "',' or ')'" behind))) := by
  rw [arguments]
  split
  next h => simp only [h]; rfl
  next first c behind h =>
    simp only [h]
    change _ = ite _ _ _
    split
    · cases arguments text behind <;> rfl
    · rfl

/-- Passes blanks and then the opening parenthesis. -/
def openParenthesis (position : Nat) : Except Stop Nat := do
  let position ← skipBlanks text position
  if (← peek text position) = some '(' then
    let (_, inside) ← bump text position
    return inside
  else .error (.mistake (.expected "'('" position))

/-- A call, and the position behind it. -/
def call (position : Nat) : Except Stop (Call × Nat) := do
  let position ← skipBlanks text position
  if (Text.trim (← rest text position)).isEmpty then .error (.mistake .empty)
  else
    let (name, next) ← identifier text position
    if name.isEmpty then .error (.mistake (.expected "function name" position))
    else
      let inside ← openParenthesis text next
      let (args, behind) ← arguments text inside
      let result ← (assemble name args).mapError .mistake
      return (result, behind)

/-- Nothing but blanks may follow. -/
def finish (position : Nat) : Except Stop Unit := do
  let position ← skipBlanks text position
  let left ← rest text position
  if left.isEmpty then return () else .error (.mistake (.trailing left))

/-! ## Conditions -/

/-- The operator of a condition. -/
def operator (position : Nat) : Except Stop (Operator × Nat) := do
  let position ← skipBlanks text position
  let (word, next) ← identifier text position
  if word.isEmpty then .error (.mistake (.expected "operator" position))
  else
    match Spelled.ofWord? word with
    | some op => return (op, next)
    | none => .error (.mistake (.unknownOperator word))

/-- The right side of a condition. -/
def operand (position : Nat) : Except Stop (Operand × Nat) := do
  let position ← skipBlanks text position
  if (← peek text position) = some '"' then
    let (inside, next) ← quoted text position
    return (.literal ⟨inside, true⟩, next)
  else if ← atCall text position then
    let (right, next) ← call text position
    return (.call right, next)
  else
    let literal := Text.trim (← rest text position)
    if literal.isEmpty then .error (.mistake (.expected "right operand" position))
    else return (.literal ⟨literal, false⟩, text.utf8ByteSize)

/-- Reads a whole text as a call. -/
def readCall : Except Stop Call := do
  let (call, next) ← call text 0
  finish text next
  return call

/-- Reads a whole text as a condition. -/
def readCondition : Except Stop Condition := do
  let (left, next) ← call text 0
  let (operator, next) ← operator text next
  let (right, next) ← operand text next
  finish text next
  return { left, operator, right }

end

end Positions
end AudioPolicy.Expression
