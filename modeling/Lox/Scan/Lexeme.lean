import Lox.Scan.Cursor

set_option autoImplicit false

namespace Lox.Scan

abbrev Result := EStateM.Result ScanError Cursor Unit

def Result.cursor : Result → Cursor
  | .ok _ c => c
  | .error _ c => c

def single? : Char → Option Kind
  | '(' => some .leftParen
  | ')' => some .rightParen
  | '{' => some .leftBrace
  | '}' => some .rightBrace
  | ',' => some .comma
  | '.' => some .dot
  | '-' => some .minus
  | '+' => some .plus
  | ';' => some .semicolon
  | '*' => some .star
  | _ => none

-- The operators that an equals sign makes longer: the kind with it, then the kind without.
def extensible? : Char → Option (Kind × Kind)
  | '!' => some (.bangEqual, .bang)
  | '=' => some (.equalEqual, .equal)
  | '<' => some (.lessEqual, .less)
  | '>' => some (.greaterEqual, .greater)
  | _ => none

def isSpace (c : Char) : Bool :=
  c == ' ' || c == '\r' || c == '\t'

namespace Cursor

def passComment (c : Cursor) : Cursor :=
  c.passWhile (· != '\n')

def finishString (c : Cursor) : Result :=
  let body := c.ahead.takeWhile (· != '"')
  let inside := (c.passWhile (· != '"')).countLines body
  -- The line counter has moved on; the report names the line on which the string began.
  if inside.atEnd then .error ⟨.unterminatedString, c.line⟩ inside
  else
    let closed := inside.takeOne
    .ok () (closed.addToken .string (.text (String.ofList (Token.inner closed.taken))))

-- Takes the digits of a number. A point belongs to it only when a digit follows.
def passNumber (c : Cursor) : Cursor :=
  let whole := c.passWhile Text.isDigit
  if whole.charAt 0 == '.' && Text.isDigit (whole.charAt 1) then
    whole.takeOne.passWhile Text.isDigit
  else whole

def finishNumber (c : Cursor) : Result :=
  let passed := c.passNumber
  match Number.ofText? passed.taken with
  | some value => .ok () (passed.addToken .number (.number value))
  | none => .error ⟨.invalidNumber, passed.line⟩ passed

def finishWord (c : Cursor) : Cursor :=
  let passed := c.passWhile Text.continuesWord
  match Kind.ofWord passed.lexeme with
  | .identifier => passed.addToken .identifier (.text passed.lexeme)
  | kind => passed.addToken kind .absent

def finishLexeme (c : Cursor) (first : Char) : Result :=
  match single? first with
  | some kind => .ok () (c.addToken kind .absent)
  | none =>
  match extensible? first with
  | some (long, short) =>
    match c.accept? '=' with
    | some longer => .ok () (longer.addToken long .absent)
    | none => .ok () (c.addToken short .absent)
  | none =>
    if first = '/' then
      match c.accept? '/' with
      | some comment => .ok () comment.passComment
      | none => .ok () (c.addToken .slash .absent)
    else if isSpace first then .ok () c
    else if first = '\n' then .ok () (c.countLines [first])
    else if first = '"' then c.finishString
    else if Text.isDigit first then c.finishNumber
    else if Text.startsWord first then .ok () c.finishWord
    else .error ⟨.unexpectedCharacter, c.line⟩ c

def scanLexeme (c : Cursor) : Result :=
  c.takeOne.finishLexeme (c.charAt 0)

theorem length_ahead_passNumber_le (c : Cursor) :
    c.passNumber.ahead.length ≤ c.ahead.length := by
  have whole := length_ahead_passWhile_le c Text.isDigit
  have fraction := length_ahead_passWhile_le (c.passWhile Text.isDigit).takeOne Text.isDigit
  simp only [ahead_takeOne, List.length_drop] at fraction
  simp only [passNumber]
  split <;> omega

theorem length_ahead_finishString_le (c : Cursor) :
    c.finishString.cursor.ahead.length ≤ c.ahead.length := by
  have body := length_ahead_passWhile_le c (· != '"')
  simp only [finishString]
  split <;>
    simp only [Result.cursor, ahead_countLines, ahead_addToken, ahead_takeOne, List.length_drop]
  all_goals omega

theorem length_ahead_finishNumber_le (c : Cursor) :
    c.finishNumber.cursor.ahead.length ≤ c.ahead.length := by
  have passed := length_ahead_passNumber_le c
  simp only [finishNumber]
  split <;> simpa [Result.cursor] using passed

theorem length_ahead_finishWord_le (c : Cursor) :
    c.finishWord.ahead.length ≤ c.ahead.length := by
  have passed := length_ahead_passWhile_le c Text.continuesWord
  simp only [finishWord]
  split <;> simpa using passed

theorem length_ahead_finishLexeme_le (c : Cursor) (first : Char) :
    (c.finishLexeme first).cursor.ahead.length ≤ c.ahead.length := by
  simp only [finishLexeme]
  split
  · simp [Result.cursor]
  split
  · split
    · next h => simpa [Result.cursor] using length_ahead_accept? h
    · simp [Result.cursor]
  split
  · split
    · next h =>
      exact Nat.le_trans (length_ahead_passWhile_le _ _) (length_ahead_accept? h)
    · simp [Result.cursor]
  split
  · simp [Result.cursor]
  split
  · simp [Result.cursor]
  split
  · exact length_ahead_finishString_le c
  split
  · exact length_ahead_finishNumber_le c
  split
  · exact length_ahead_finishWord_le c
  · simp [Result.cursor]

theorem length_ahead_scanLexeme_lt {c : Cursor} (h : c.ahead ≠ []) :
    c.scanLexeme.cursor.ahead.length < c.ahead.length := by
  have after := length_ahead_finishLexeme_le c.takeOne (c.charAt 0)
  have some := List.length_pos_iff.2 h
  simp only [ahead_takeOne, List.length_drop] at after
  simp only [scanLexeme]
  omega

/-- Scans to the end of the text, or to the first fault, and closes the list at the end. After a
fault it can be called again on the cursor that is left. -/
def scanAll (c : Cursor) : Result :=
  if h : c.ahead = [] then .ok () c.close
  else
    have less := length_ahead_scanLexeme_lt (c := c.beginLexeme) h
    match step : c.beginLexeme.scanLexeme with
    | .error e d => .error e d
    | .ok _ d =>
      have : d.ahead.length < c.ahead.length := by simpa [step, Result.cursor] using less
      d.scanAll
termination_by c.ahead.length

end Cursor

end Lox.Scan

namespace Lox

def scan (source : String) : Except ScanError (List Token) :=
  match (Scan.Cursor.ofText source).scanAll with
  | .ok _ c => .ok c.tokens.toList
  | .error e _ => .error e

end Lox
