import Lox.Scan.Lexeme

set_option autoImplicit false

namespace Lox.Scan

inductive Operation where
  | atEnd
  | charAt (distance : Int)
  | takeOne
  | accept (expected : List Char)
  | lexeme
  | token
  | string
  | number
  | word
  | comment
  | all
  | beginLexeme
  | addToken (kind : Kind)

inductive Answer where
  | done
  | flag (value : Bool)
  | text (value : String)
  | count (value : Nat)
  deriving DecidableEq

inductive Failure where
  | scan (error : ScanError)
  | noCharacter
  deriving DecidableEq

namespace Cursor

def answering (result : Result) (answer : Cursor → Answer) :
    EStateM.Result Failure Cursor Answer :=
  match result with
  | .ok _ c => .ok (answer c) c
  | .error e c => .error (.scan e) c

-- Accepts a text of one character; no other text is ever the next character.
def acceptText (c : Cursor) : List Char → Option Cursor
  | [expected] => c.accept? expected
  | _ => none

def perform (c : Cursor) : Operation → EStateM.Result Failure Cursor Answer
  | .atEnd => .ok (.flag c.atEnd) c
  | .charAt distance =>
    match c.charNear? distance with
    | some found => .ok (.text (String.singleton found)) c
    | none => .error .noCharacter c
  | .takeOne => .ok (.text (String.singleton (c.charAt 0))) c.takeOne
  | .accept expected =>
    match c.acceptText expected with
    | some d => .ok (.flag true) d
    | none => .ok (.flag false) c
  | .lexeme => .ok (.text c.lexeme) c
  | .token => answering c.scanLexeme fun _ => .done
  | .string => answering c.finishString fun _ => .done
  | .number => answering c.finishNumber fun _ => .done
  | .word => .ok .done c.finishWord
  | .comment => .ok .done c.passComment
  | .all => answering c.scanAll fun d => .count d.tokens.size
  | .beginLexeme => .ok .done c.beginLexeme
  | .addToken kind => .ok .done (c.addToken kind .absent)

end Cursor

end Lox.Scan
