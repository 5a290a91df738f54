import Lox.Proofs.Descent.Rules
import Lox.Proofs.Grammar.Derivation

set_option autoImplicit false

namespace Lox

def ParseError.mapToken (f : Token → Token) (e : ParseError) : ParseError :=
  { e with token := e.token.map f }

namespace Descent

def Cursor.map (f : Token → Token) (c : Cursor) : Cursor :=
  ⟨c.behind.map f, c.ahead.map f⟩

def Result.mapTokens (f : Token → Token) : Result Expr → Result Expr
  | .ok e c => .ok (e.mapTokens f) (c.map f)
  | .error e c => .error (e.mapToken f) (c.map f)

def Task.mapTokens (f : Token → Token) : Task → Task
  | .chain l left => .chain l (left.mapTokens f)
  | task => task

@[simp] theorem Task.mapTokens_operand (f : Token → Token) (l : Level) :
    (operand l).mapTokens f = operand l := by
  cases l <;> rfl

@[simp] theorem Cursor.next?_map (f : Token → Token) (c : Cursor) :
    (c.map f).next? = c.next?.map f := by
  simp [map, next?]

theorem Runs.run_eq {task : Task} {c : Cursor} {r : Result Expr} (h : Runs task c r) :
    task.run c = r := by
  induction h with
  | level first rest ihFirst ihRest =>
    rw [Task.run_operand] at ihFirst
    rw [Task.run, Cursor.parseLevel_eq, ihFirst]
    exact ihRest
  | levelFails first ih =>
    rw [Task.run_operand] at ih
    rw [Task.run, Cursor.parseLevel_eq, ih]
  | chainEnds missing => rw [Task.run, Cursor.parseChain_eq, missing]
  | chain taken second rest ihSecond ihRest =>
    rw [Task.run_operand] at ihSecond
    rw [Task.run, Cursor.parseChain_eq, taken]
    simp only [ihSecond]
    exact ihRest
  | chainFails taken second ih =>
    rw [Task.run_operand] at ih
    rw [Task.run, Cursor.parseChain_eq, taken]
    simp only [ih]
  | unary taken inner ih =>
    rw [Task.run] at ih
    rw [Task.run, Cursor.parsePrefixed_eq, taken]
    simp only [ih]
  | unaryFails taken inner ih =>
    rw [Task.run] at ih
    rw [Task.run, Cursor.parsePrefixed_eq, taken]
    simp only [ih]
  | prefixed missing only ih =>
    rw [Task.run, Cursor.parsePrefixed_eq, missing]
    exact ih
  | literal taken => rw [Task.run, Cursor.parseAtom_eq, taken]
  | @group c d f g opening closing inner missing opened inside closed ih =>
    have parsed : d.parseExpr = .ok inner f := ih
    rw [Task.run, Cursor.parseAtom_eq, missing, opened]
    simp only [parsed, closed]
  | @groupFails c d f opening e missing opened inside ih =>
    have parsed : d.parseExpr = .error e f := ih
    rw [Task.run, Cursor.parseAtom_eq, missing, opened]
    simp only [parsed]
  | @groupUnclosed c d f opening inner missing opened inside unclosed ih =>
    have parsed : d.parseExpr = .ok inner f := ih
    rw [Task.run, Cursor.parseAtom_eq, missing, opened]
    simp only [parsed, unclosed]
  | nothing missing unopened =>
    rw [Task.run, Cursor.parseAtom_eq, missing, unopened]

section

variable {f : Token → Token} (keeps : ∀ token, (f token).kind = token.kind)

include keeps

theorem Cursor.take?_map (c : Cursor) (test : Kind → Bool) :
    (c.map f).take? test = (c.take? test).map fun found => (f found.1, found.2.map f) := by
  obtain ⟨behind, ahead⟩ := c
  cases ahead with
  | nil => rfl
  | cons token rest =>
    simp only [map, take?, List.map_cons, keeps]
    split <;> rfl

theorem Cursor.take?_map_of_some {c d : Cursor} {test : Kind → Bool} {token : Token}
    (taken : c.take? test = some (token, d)) :
    (c.map f).take? test = some (f token, d.map f) := by
  rw [take?_map keeps, taken]
  rfl

theorem Cursor.take?_map_of_none {c : Cursor} {test : Kind → Bool} (missing : c.take? test = none) :
    (c.map f).take? test = none := by
  rw [take?_map keeps, missing]
  rfl

theorem Runs.map {task : Task} {c : Cursor} {r : Result Expr} (h : Runs task c r) :
    Runs (task.mapTokens f) (c.map f) (Result.mapTokens f r) := by
  have some {c d : Cursor} {test : Kind → Bool} {token : Token} :=
    @Cursor.take?_map_of_some f keeps c d test token
  have none {c : Cursor} {test : Kind → Bool} := @Cursor.take?_map_of_none f keeps c test
  induction h with
  | level first rest ihFirst ihRest =>
    rw [Task.mapTokens_operand] at ihFirst
    exact .level ihFirst ihRest
  | levelFails first ih =>
    rw [Task.mapTokens_operand] at ih
    exact .levelFails ih
  | chainEnds missing => exact .chainEnds (none missing)
  | chain taken second rest ihSecond ihRest =>
    rw [Task.mapTokens_operand] at ihSecond
    exact .chain (some taken) ihSecond ihRest
  | chainFails taken second ih =>
    rw [Task.mapTokens_operand] at ih
    exact .chainFails (some taken) ih
  | unary taken inner ih => exact .unary (some taken) ih
  | unaryFails taken inner ih => exact .unaryFails (some taken) ih
  | prefixed missing only ih => exact .prefixed (none missing) ih
  | literal taken => exact .literal (some taken)
  | group missing opened inside closed ih =>
    exact .group (none missing) (some opened) ih (some closed)
  | groupFails missing opened inside ih => exact .groupFails (none missing) (some opened) ih
  | @groupUnclosed c d g opening inner missing opened inside unclosed ih =>
    have failed := Runs.groupUnclosed (none missing) (some opened) ih (none unclosed)
    rwa [Cursor.next?_map] at failed
  | @nothing c missing unopened =>
    have failed := Runs.nothing (none missing) (none unopened)
    rwa [Cursor.next?_map] at failed

theorem parseExpr_map (c : Cursor) :
    (c.map f).parseExpr = Result.mapTokens f c.parseExpr :=
  ((runs_parseExpr c).map keeps).run_eq

end

end Descent

theorem parse_map {f : Token → Token} (keeps : ∀ token, (f token).kind = token.kind)
    (tokens : List Token) :
    parse (tokens.map f) =
      ((parse tokens).map (Expr.mapTokens f)).mapError (ParseError.mapToken f) := by
  have mapped : (Descent.Cursor.ofTokens (tokens.map f)).parseExpr =
      Descent.Result.mapTokens f (Descent.Cursor.ofTokens tokens).parseExpr :=
    Descent.parseExpr_map keeps (.ofTokens tokens)
  rw [parse, parse, mapped]
  cases (Descent.Cursor.ofTokens tokens).parseExpr <;> rfl

end Lox
