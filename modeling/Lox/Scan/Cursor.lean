import Lox.Diagnostic

set_option autoImplicit false

namespace Lox.Scan

structure Cursor where
  start : Nat
  -- The position of the next character. It runs past the end of the text when a character is taken
  -- that is not there.
  pos : Nat
  line : Nat
  -- The characters before the current lexeme, the last one first.
  behind : List Char
  taken : List Char
  ahead : List Char
  tokens : Array Token
  deriving DecidableEq

namespace Cursor

def ofText (source : String) : Cursor :=
  { start := 0, pos := 0, line := 1, behind := [], taken := [], ahead := source.toList,
    tokens := #[] }

def atEnd (c : Cursor) : Bool :=
  c.ahead.isEmpty

def charAt (c : Cursor) (distance : Nat) : Char :=
  c.ahead.getD distance '\x00'

def text (c : Cursor) : List Char :=
  c.behind.reverse ++ c.taken ++ c.ahead

/-- The character at a distance that may be negative, NUL past the end. In front of the text it is
found by counting from the end of the text backwards, as long as that is in the text. -/
def charNear? (c : Cursor) (distance : Int) : Option Char :=
  let index := c.pos + distance
  if 0 ≤ index then some (c.text.getD index.toNat '\x00')
  else c.text.reverse[(-index - 1).toNat]?

def lexeme (c : Cursor) : String :=
  String.ofList c.taken

def beginLexeme (c : Cursor) : Cursor :=
  { c with start := c.pos, behind := c.taken.reverse ++ c.behind, taken := [] }

def takeOne (c : Cursor) : Cursor :=
  { c with pos := c.pos + 1, taken := c.taken ++ c.ahead.take 1, ahead := c.ahead.drop 1 }

def accept? (c : Cursor) (expected : Char) : Option Cursor :=
  if c.ahead.head? = some expected then some c.takeOne else none

def passWhile (c : Cursor) (test : Char → Bool) : Cursor :=
  let run := c.ahead.takeWhile test
  { c with
    pos := c.pos + run.length
    taken := c.taken ++ run
    ahead := c.ahead.dropWhile test }

def countLines (c : Cursor) (text : List Char) : Cursor :=
  { c with line := c.line + text.count '\n' }

def addToken (c : Cursor) (kind : Kind) (payload : Payload) : Cursor :=
  { c with tokens := c.tokens.push ⟨kind, c.lexeme, c.line, payload⟩ }

def close (c : Cursor) : Cursor :=
  { c with tokens := c.tokens.push (Token.eof c.line) }

@[simp] theorem text_beginLexeme (c : Cursor) : c.beginLexeme.text = c.text := by
  simp [text, beginLexeme]

@[simp] theorem text_takeOne (c : Cursor) : c.takeOne.text = c.text := by
  simpa [text, takeOne] using List.take_append_drop 1 c.ahead

@[simp] theorem text_passWhile (c : Cursor) (test : Char → Bool) :
    (c.passWhile test).text = c.text := by
  simp [text, passWhile]

@[simp] theorem ahead_beginLexeme (c : Cursor) : c.beginLexeme.ahead = c.ahead := rfl

@[simp] theorem ahead_takeOne (c : Cursor) : c.takeOne.ahead = c.ahead.drop 1 := rfl

@[simp] theorem ahead_passWhile (c : Cursor) (test : Char → Bool) :
    (c.passWhile test).ahead = c.ahead.dropWhile test := rfl

@[simp] theorem ahead_countLines (c : Cursor) (text : List Char) :
    (c.countLines text).ahead = c.ahead := rfl

@[simp] theorem ahead_addToken (c : Cursor) (kind : Kind) (payload : Payload) :
    (c.addToken kind payload).ahead = c.ahead := rfl

theorem length_ahead_passWhile_le (c : Cursor) (test : Char → Bool) :
    (c.passWhile test).ahead.length ≤ c.ahead.length :=
  (List.dropWhile_suffix test).length_le

theorem length_ahead_accept? {c d : Cursor} {expected : Char} (h : c.accept? expected = some d) :
    d.ahead.length ≤ c.ahead.length := by
  simp only [accept?] at h
  split at h
  · cases h
    simp
  · cases h

end Cursor

end Lox.Scan
