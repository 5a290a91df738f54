import Lox.Automaton.Parse
import Lox.Descent.Parse
import Lox.Evaluation
import Lox.Expr.Render
import Lox.Log
import Lox.Scan.Lexeme

set_option autoImplicit false

namespace Lox

inductive Method where
  | descent | automaton
  deriving DecidableEq

def Method.parse (method : Method) (tokens : List Token) : Except ParseError Expr :=
  match method with
  | .descent => Lox.parse tokens
  | .automaton => (Automaton.parse tokens).map (·.expr)

def readSource (method : Method) (source : String) : Except SyntaxError Expr :=
  match scan source with
  | .error e => .error (.lexical e)
  | .ok tokens =>
    match method.parse tokens with
    | .error e => .error (.grammatical e)
    | .ok e => .ok e

inductive RunError where
  | reading (error : SyntaxError)
  | evaluating (fault : Fault)
  deriving DecidableEq

def runSource (method : Method) (source : String) : Except RunError Value :=
  match readSource method source with
  | .error e => .error (.reading e)
  | .ok e =>
    match e.evaluate with
    | .error fault => .error (.evaluating fault)
    | .ok value => .ok value

def methodsAgree (source : String) : Except SyntaxError Bool :=
  match readSource .descent source with
  | .error e => .error e
  | .ok a =>
    match readSource .automaton source with
    | .error e => .error e
    | .ok b => .ok (a.alike b)

namespace Settings

def noteTokens (settings : Settings) (tokens : List Token) : Transcript :=
  let count := toString tokens.length
  let line := toString ((tokens.getLast?.map Token.line).getD 1)
  settings.note .scanner ("scanned " ++ count ++ " tokens over " ++ line ++ " line(s)") ++
    settings.note .pipeline ("scanned " ++ count ++ " tokens")

def noteTree (settings : Settings) (e : Expr) : Transcript :=
  settings.note .pipeline
    ("parsed " ++ e.label?.getD "" ++ " node, depth " ++ toString e.depth)

def noteDescent (settings : Settings) (cursor : Descent.Cursor) : Transcript :=
  settings.note .descent
    ("parsed expression ending at token " ++ toString cursor.pos ++ "/" ++
      toString cursor.tokens.length)

def noteAutomaton (settings : Settings) (stopped : Automaton.Stopped) : Transcript :=
  let before := match stopped.before with
    | some token => settings.note .automaton ("lark stopped before " ++ token.inspect)
    | none => Transcript.empty
  before ++
    settings.note .automaton ("lark tree root: " ++ (stopped.expr.label?.getD "").capitalize)

def parse (settings : Settings) (method : Method) (tokens : List Token) :
    Except ParseError Expr × Transcript :=
  match method with
  | .descent =>
    match (Descent.Cursor.ofTokens tokens).parseExpr with
    | .error e _ => (.error e, Transcript.empty)
    | .ok e cursor => (.ok e, settings.noteDescent cursor)
  | .automaton =>
    match Automaton.parse tokens with
    | .error e => (.error e, Transcript.empty)
    | .ok stopped => (.ok stopped.expr, settings.noteAutomaton stopped)

def read (settings : Settings) (method : Method) (source : String) :
    Except SyntaxError Expr × Transcript :=
  match scan source with
  | .error e => (.error (.lexical e), Transcript.empty)
  | .ok tokens =>
    match settings.parse method tokens with
    | (.error e, notes) => (.error (.grammatical e), settings.noteTokens tokens ++ notes)
    | (.ok e, notes) => (.ok e, settings.noteTokens tokens ++ notes ++ settings.noteTree e)

theorem fst_parse (settings : Settings) (method : Method) (tokens : List Token) :
    (settings.parse method tokens).1 = method.parse tokens := by
  cases method with
  | descent =>
    simp only [Settings.parse, Method.parse, Lox.parse]
    cases (Descent.Cursor.ofTokens tokens).parseExpr <;> rfl
  | automaton =>
    simp only [Settings.parse, Method.parse]
    cases Automaton.parse tokens <;> rfl

theorem fst_read (settings : Settings) (method : Method) (source : String) :
    (settings.read method source).1 = readSource method source := by
  unfold Settings.read readSource
  cases scan source with
  | error e => rfl
  | ok tokens =>
    have same := settings.fst_parse method tokens
    rcases h : settings.parse method tokens with ⟨_ | _, notes⟩ <;>
      simp_all only [← same]

def printValue (settings : Settings) (e : Expr) :
    Except InternalFault (Option Value × Transcript) :=
  match e.evaluate with
  | .ok value => .ok (some value, Transcript.outLine value.display)
  | .error (.typing error) =>
    .ok (none,
      settings.note .evaluation ("evaluation failed: " ++ error.diagnostic.text) ++
        settings.report error.diagnostic)
  | .error (.internal fault) => .error fault

end Settings

end Lox
