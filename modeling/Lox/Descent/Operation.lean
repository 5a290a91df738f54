import Lox.Descent.Parse

set_option autoImplicit false

namespace Lox.Descent

inductive Operation where
  | next
  | last
  | atEnd
  | step
  | nextIs (kinds : List Kind)
  | accept (kinds : List Kind)
  | require (kind : Kind) (message : String)
  | recover
  | expression
  | level (level : Level)
  | prefixed
  | atom

inductive Answer where
  | done
  | token (token : Option Token)
  | flag (value : Bool)
  | tree (e : Expr)

inductive Failure where
  | parse (error : ParseError)
  | noToken
  deriving DecidableEq

namespace Cursor

def answering {α : Type} (result : Result α) (answer : α → Answer) :
    EStateM.Result Failure Cursor Answer :=
  match result with
  | .ok value c => .ok (answer value) c
  | .error e c => .error (.parse e) c

def answerLast (c : Cursor) (answer : Token → Answer) : EStateM.Result Failure Cursor Answer :=
  match c.last? with
  | some token => .ok (answer token) c
  | none => .error .noToken c

def perform (c : Cursor) : Operation → EStateM.Result Failure Cursor Answer
  | .next => .ok (.token c.next?) c
  | .last => c.answerLast fun token => .token token
  | .atEnd => .ok (.flag c.atEnd) c
  | .step => c.step.answerLast fun token => .token token
  | .nextIs kinds => .ok (.flag (c.nextIs kinds)) c
  | .accept kinds => if c.nextIs kinds then .ok (.flag true) c.step else .ok (.flag false) c
  | .require kind message =>
    answering (c.require kind (.demanded message)) fun token => .token token
  | .recover => c.recover.answerLast fun _ => .done
  | .expression => answering c.parseExpr .tree
  | .level level => answering (c.parseLevel level) .tree
  | .prefixed => answering c.parsePrefixed .tree
  | .atom => answering c.parseAtom .tree

end Cursor

end Lox.Descent
