-- SUMMARY: Reading calls and conditions from text, with the offset of each mistake.
import AudioPolicy.Expression

/-! # Reading expressions

The reader goes through a text from left to right. A cursor holds the rest of the
text together with its offset, which counts the bytes of the text in UTF-8. The
reader takes an argument as it stands: it looks only for the comma or the closing
parenthesis that ends it, outside quotes and inner parentheses. An argument that
is itself a call is read when the call is evaluated. -/

namespace AudioPolicy

/-- Why a text is not a call or not a condition. -/
inductive SyntaxError
  | empty
  | expected (what : String) (offset : Nat)
  | unterminatedQuote (offset : Nat)
  | tooFewArguments (function : String)
  | tooManyArguments (function : String)
  | unknownOperator (word : String)
  | trailing (rest : String)
  deriving DecidableEq, Repr

/-- The message for a mistake. -/
def SyntaxError.message : SyntaxError → String
  | .empty => "empty expression"
  | .expected what offset => "expected " ++ what ++ " at offset " ++ toString offset
  | .unterminatedQuote offset => "unterminated quote starting at offset " ++ toString offset
  | .tooFewArguments function =>
    "call '" ++ function ++ "' needs a category and a mandatory parameter"
  | .tooManyArguments function => "call '" ++ function ++ "' has too many optional parameters"
  | .unknownOperator word => "unknown operator '" ++ word ++ "'"
  | .trailing rest => "unexpected trailing input '" ++ rest ++ "'"

namespace Expression

/-! ## Cursors -/

/-- A place in a text. -/
structure Cursor where
  /-- The number of bytes before the place. -/
  offset : Nat
  /-- What stands behind the place. -/
  rest : List Char
  deriving DecidableEq, Repr

namespace Cursor

/-- The place in front of a text. -/
def start (text : String) : Cursor := ⟨0, text.toList⟩

/-- The place behind the next character, which is `c`. -/
def after (at_ : Cursor) (c : Char) (rest : List Char) : Cursor :=
  ⟨at_.offset + c.utf8Size, rest⟩

/-- Passes the characters of a class. -/
def skipFrom (inClass : Char → Bool) (offset : Nat) : List Char → Cursor
  | [] => ⟨offset, []⟩
  | c :: rest =>
    if inClass c then skipFrom inClass (offset + c.utf8Size) rest else ⟨offset, c :: rest⟩

/-- The place behind the characters of a class. -/
def skip (inClass : Char → Bool) (at_ : Cursor) : Cursor := skipFrom inClass at_.offset at_.rest

/-- The place behind the blanks. -/
def skipBlanks (at_ : Cursor) : Cursor := at_.skip Text.isBlank

/-- The identifier at a place, possibly empty, and the place behind it. -/
def identifier (at_ : Cursor) : List Char × Cursor :=
  (at_.rest.takeWhile Text.isWordChar, at_.skip Text.isWordChar)

/-- Whether a call starts here: an identifier, then blanks, then a parenthesis. -/
def atCall (at_ : Cursor) : Bool :=
  !(at_.rest.takeWhile Text.isWordChar).isEmpty
    && (Text.trimStart (at_.rest.dropWhile Text.isWordChar)).head? == some '('

theorem skipFrom_rest (inClass : Char → Bool) (offset : Nat) (cs : List Char) :
    (skipFrom inClass offset cs).rest = cs.dropWhile inClass := by
  induction cs generalizing offset with
  | nil => rfl
  | cons c cs ih => by_cases h : inClass c <;> simp [skipFrom, h, ih]

/-- Skipping does not lengthen the rest. -/
theorem length_skip_le (inClass : Char → Bool) (at_ : Cursor) :
    (at_.skip inClass).rest.length ≤ at_.rest.length := by
  rw [skip, skipFrom_rest]
  exact (List.dropWhile_sublist inClass).length_le

end Cursor

/-! ## Arguments -/

/-- Puts a character in front of a text that was read behind it. -/
def prepend (c : Char) : List Char × Cursor → List Char × Cursor
  | (text, next) => (c :: text, next)

/-- The text up to the next quote, and the place behind that quote. -/
def closeQuote (offset : Nat) : List Char → Option (List Char × Cursor)
  | [] => none
  | c :: rest =>
    if c = '"' then some ([], ⟨offset + c.utf8Size, rest⟩)
    else (closeQuote (offset + c.utf8Size) rest).map (prepend c)

/-- The plain argument at `offset`, up to the comma or the parenthesis that ends it,
    and the place in front of that character. Inside a quoted part `quote` is the
    offset at which the part began. Elsewhere `depth` counts the open parentheses. -/
def plainFrom (quote : Option Nat) (depth offset : Nat) :
    List Char → Except SyntaxError (List Char × Cursor)
  | [] =>
    match quote with
    | some start => .error (.unterminatedQuote start)
    | none => .ok ([], ⟨offset, []⟩)
  | c :: rest =>
    let behind := offset + c.utf8Size
    match quote with
    | some start =>
      (plainFrom (if c = '"' then none else some start) depth behind rest).map (prepend c)
    | none =>
      if c = '"' then (plainFrom (some offset) depth behind rest).map (prepend c)
      else if c = '(' then (plainFrom none (depth + 1) behind rest).map (prepend c)
      else if depth = 0 ∧ (c = ')' ∨ c = ',') then .ok ([], ⟨offset, c :: rest⟩)
      else if c = ')' then (plainFrom none (depth - 1) behind rest).map (prepend c)
      else (plainFrom none depth behind rest).map (prepend c)

theorem length_closeQuote_lt {cs text : List Char} {offset : Nat} {next : Cursor}
    (h : closeQuote offset cs = some (text, next)) : next.rest.length < cs.length := by
  induction cs generalizing offset text with
  | nil => simp [closeQuote] at h
  | cons c cs ih =>
    unfold closeQuote at h
    split at h
    · cases h; simp
    · obtain ⟨⟨inner, last⟩, hinner, hlast⟩ := Option.map_eq_some_iff.1 h
      cases hlast
      exact Nat.lt_succ_of_lt (ih hinner)

/-- A result that a character was put in front of is no longer than the rest. -/
private theorem length_le_of_map_prepend {result : Except SyntaxError (List Char × Cursor)}
    {c : Char} {text : List Char} {next : Cursor} {n : Nat}
    (ih : ∀ text, result = .ok (text, next) → next.rest.length ≤ n)
    (h : result.map (prepend c) = .ok (text, next)) : next.rest.length ≤ n + 1 := by
  cases result with
  | error e => cases h
  | ok found =>
    obtain ⟨inner, last⟩ := found
    cases h
    exact Nat.le_succ_of_le (ih inner rfl)

theorem length_plainFrom_le {quote : Option Nat} {depth offset : Nat} {cs text : List Char}
    {next : Cursor} (h : plainFrom quote depth offset cs = .ok (text, next)) :
    next.rest.length ≤ cs.length := by
  induction cs generalizing quote depth offset text with
  | nil => cases quote <;> cases h; exact Nat.le_refl _
  | cons c cs ih =>
    unfold plainFrom at h
    cases quote with
    | some start => exact length_le_of_map_prepend (fun _ => ih) h
    | none =>
      dsimp only at h
      split at h
      · exact length_le_of_map_prepend (fun _ => ih) h
      · split at h
        · exact length_le_of_map_prepend (fun _ => ih) h
        · split at h
          · cases h; exact Nat.le_refl _
          · split at h <;> exact length_le_of_map_prepend (fun _ => ih) h

/-- A quoted text at a place where a quote stands. -/
def quoted (at_ : Cursor) (rest : List Char) : Except SyntaxError (String × Cursor) :=
  match closeQuote (at_.offset + '"'.utf8Size) rest with
  | none => .error (.unterminatedQuote at_.offset)
  | some (text, next) => .ok (String.ofList text, next)

/-- One argument: a quoted text, or everything up to the end of the argument. -/
def argument (at_ : Cursor) : Except SyntaxError (Argument × Cursor) :=
  let at_ := at_.skipBlanks
  match at_.rest with
  | '"' :: rest =>
    match quoted at_ rest with
    | .error e => .error e
    | .ok (text, next) => .ok (⟨text, true⟩, next)
  | _ =>
    match plainFrom none 0 at_.offset at_.rest with
    | .error e => .error e
    | .ok (text, next) => .ok (⟨String.ofList (Text.trimChars text), false⟩, next)

theorem length_argument_le {at_ next : Cursor} {a : Argument}
    (h : argument at_ = .ok (a, next)) : next.rest.length ≤ at_.rest.length := by
  have hskip : at_.skipBlanks.rest.length ≤ at_.rest.length := at_.length_skip_le _
  unfold argument at h
  dsimp only at h
  split at h
  next rest hrest =>
    unfold quoted at h
    cases hq : closeQuote (at_.skipBlanks.offset + '"'.utf8Size) rest with
    | none => simp [hq] at h
    | some found =>
      obtain ⟨text, behind⟩ := found
      simp only [hq, Except.ok.injEq, Prod.mk.injEq] at h
      have := length_closeQuote_lt hq
      rw [hrest, List.length_cons] at hskip
      obtain ⟨-, rfl⟩ := h
      omega
  next =>
    cases hp : plainFrom none 0 at_.skipBlanks.offset at_.skipBlanks.rest with
    | error e => simp [hp] at h
    | ok found =>
      obtain ⟨text, behind⟩ := found
      simp only [hp, Except.ok.injEq, Prod.mk.injEq] at h
      have := length_plainFrom_le hp
      obtain ⟨-, rfl⟩ := h
      omega

/-- Behind an argument and the character that follows it, less is left. -/
theorem length_lt_of_argument {at_ next : Cursor} {a : Argument} {c : Char} {rest : List Char}
    (ha : argument at_ = .ok (a, next)) (hrest : next.skipBlanks.rest = c :: rest) :
    rest.length < at_.rest.length := by
  have hargument := length_argument_le ha
  have hskip : next.skipBlanks.rest.length ≤ next.rest.length := next.length_skip_le _
  rw [hrest, List.length_cons] at hskip
  exact Nat.lt_of_lt_of_le hskip hargument

/-- The arguments up to the closing parenthesis, and the place behind it. -/
def arguments (at_ : Cursor) : Except SyntaxError (List Argument × Cursor) :=
  match ha : argument at_ with
  | .error e => .error e
  | .ok (first, next) =>
    match hrest : next.skipBlanks.rest with
    | [] => .error (.expected "',' or ')'" next.skipBlanks.offset)
    | c :: rest =>
      let behind := next.skipBlanks.after c rest
      if c = ')' then .ok ([first], behind)
      else if c = ',' then
        have : behind.rest.length < at_.rest.length := length_lt_of_argument ha hrest
        match arguments behind with
        | .error e => .error e
        | .ok (others, last) => .ok (first :: others, last)
      else .error (.expected "',' or ')'" behind.offset)
termination_by at_.rest.length

/-! ## Calls -/

/-- Passes blanks and then the opening parenthesis. -/
def openParenthesis (at_ : Cursor) : Except SyntaxError Cursor :=
  let at_ := at_.skipBlanks
  match at_.rest with
  | '(' :: rest => .ok (at_.after '(' rest)
  | _ => .error (.expected "'('" at_.offset)

/-- Makes a call of a function name and the arguments in its parentheses. -/
def assemble (function : String) : List Argument → Except SyntaxError Call
  | category :: mandatory :: optional =>
    if optional.length ≤ Call.maxOptional then
      .ok { function, category := category.text, mandatory, optional }
    else .error (.tooManyArguments function)
  | _ => .error (.tooFewArguments function)

/-- A call, and the place behind it. -/
def call (at_ : Cursor) : Except SyntaxError (Call × Cursor) :=
  let at_ := at_.skipBlanks
  if at_.rest.isEmpty then .error .empty
  else
    let (name, next) := at_.identifier
    if name.isEmpty then .error (.expected "function name" at_.offset)
    else do
      let inside ← openParenthesis next
      let (args, behind) ← arguments inside
      let result ← assemble (String.ofList name) args
      return (result, behind)

/-- Nothing but blanks may follow. -/
def finish (at_ : Cursor) : Except SyntaxError Unit :=
  let at_ := at_.skipBlanks
  if at_.rest.isEmpty then .ok () else .error (.trailing (String.ofList at_.rest))

/-! ## Conditions -/

/-- The operator of a condition. -/
def operator (at_ : Cursor) : Except SyntaxError (Operator × Cursor) :=
  let at_ := at_.skipBlanks
  let (word, next) := at_.identifier
  if word.isEmpty then .error (.expected "operator" at_.offset)
  else
    match Spelled.ofWord? (String.ofList word) with
    | some op => .ok (op, next)
    | none => .error (.unknownOperator (String.ofList word))

/-- The right side of a condition: a quoted literal, a call, or a plain literal
    that reaches to the end of the text. -/
def operand (at_ : Cursor) : Except SyntaxError (Operand × Cursor) :=
  let at_ := at_.skipBlanks
  match at_.rest with
  | '"' :: rest => do
    let (text, next) ← quoted at_ rest
    return (.literal ⟨text, true⟩, next)
  | rest =>
    if at_.atCall then do
      let (right, next) ← call at_
      return (.call right, next)
    else
      let literal := Text.trimChars rest
      if literal.isEmpty then .error (.expected "right operand" at_.offset)
      else .ok (.literal ⟨String.ofList literal, false⟩, at_.skip fun _ => true)

end Expression

/-- Reads a whole text as a call. -/
def Call.ofText (text : String) : Except SyntaxError Call := do
  let (call, next) ← Expression.call (Expression.Cursor.start text)
  Expression.finish next
  return call

/-- Whether a text is written as a call: an identifier and an opening parenthesis. -/
def Call.isWrittenAs (text : String) : Bool :=
  (Expression.Cursor.start text).skipBlanks.atCall

/-- Reads a whole text as a condition. -/
def Condition.ofText (text : String) : Except SyntaxError Condition := do
  let (left, next) ← Expression.call (Expression.Cursor.start text)
  let (operator, next) ← Expression.operator next
  let (right, next) ← Expression.operand next
  Expression.finish next
  return { left, operator, right }

end AudioPolicy
