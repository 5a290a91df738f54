import Lox.Proofs.Descent.Simulation

set_option autoImplicit false

namespace Lox.Descent

def Result.cursor {α : Type} : Result α → Cursor
  | .ok _ d => d
  | .error _ d => d

inductive Onward : Cursor → Cursor → Prop where
  | refl (c : Cursor) : Onward c c
  | take {c d e : Cursor} {token : Token} (ahead : c.ahead = token :: d.ahead)
      (behind : d.behind = token :: c.behind) (proper : token.kind ≠ .eof) (later : Onward d e) :
      Onward c e

namespace Onward

variable {c d e : Cursor}

theorem trans (first : Onward c d) (second : Onward d e) : Onward c e := by
  induction first with
  | refl => exact second
  | take ahead behind proper later ih => exact .take ahead behind proper (ih second)

theorem of_take? {test : Kind → Bool} {token : Token} (taken : c.take? test = some (token, d)) :
    Onward c d := by
  obtain ⟨ahead, behind, proper, -⟩ := Cursor.take?_eq_some taken
  exact .take ahead behind proper (.refl d)

theorem tokens_eq (h : Onward c d) : d.tokens = c.tokens := by
  induction h with
  | refl => rfl
  | take ahead behind proper later ih =>
    rw [ih]
    simp [Cursor.tokens, ahead, behind]

theorem length_eq (h : Onward c d) : d.pos + d.ahead.length = c.pos + c.ahead.length := by
  have same := congrArg List.length h.tokens_eq
  simpa [Cursor.tokens, Cursor.pos] using same

theorem pos_le (h : Onward c d) : c.pos ≤ d.pos := by
  induction h with
  | refl => exact Nat.le_refl _
  | take ahead behind proper later ih =>
    rw [Cursor.pos, behind, List.length_cons] at ih
    exact Nat.le_trans (Nat.le_succ _) ih

theorem proper (h : Onward c d) (start : ∀ token ∈ c.behind, token.kind ≠ .eof) :
    ∀ token ∈ d.behind, token.kind ≠ .eof := by
  induction h with
  | refl => exact start
  | take ahead behind proper later ih =>
    refine ih ?_
    rw [behind]
    exact List.forall_mem_cons.2 ⟨proper, start⟩

end Onward

theorem Runs.onward {task : Task} {c : Cursor} {r : Result Expr} (h : Runs task c r) :
    Onward c (Result.cursor r) := by
  induction h with
  | level first rest ihFirst ihRest => exact ihFirst.trans ihRest
  | levelFails first ih => exact ih
  | chainEnds missing => exact .refl _
  | chain taken second rest ihSecond ihRest =>
    exact (Onward.of_take? taken).trans (ihSecond.trans ihRest)
  | chainFails taken second ih => exact (Onward.of_take? taken).trans ih
  | unary taken inner ih => exact (Onward.of_take? taken).trans ih
  | unaryFails taken inner ih => exact (Onward.of_take? taken).trans ih
  | prefixed missing only ih => exact ih
  | literal taken => exact .of_take? taken
  | group missing opened inside closed ih =>
    exact (Onward.of_take? opened).trans (Onward.trans ih (.of_take? closed))
  | groupFails missing opened inside ih => exact (Onward.of_take? opened).trans ih
  | groupUnclosed missing opened inside unclosed ih => exact (Onward.of_take? opened).trans ih
  | nothing missing unopened => exact .refl _

theorem Runs.tokens_eq {task : Task} {c : Cursor} {r : Result Expr} (h : Runs task c r) :
    (Result.cursor r).tokens = c.tokens :=
  h.onward.tokens_eq

theorem Runs.token_eq {task : Task} {c d : Cursor} {r : Result Expr} {e : ParseError}
    (h : Runs task c r) (failed : r = .error e d) : e.token = d.next? := by
  induction h with
  | level first rest ihFirst ihRest => exact ihRest failed
  | chain taken second rest ihSecond ihRest => exact ihRest failed
  | prefixed missing only ih => exact ih failed
  | levelFails first ih => exact ih failed
  | chainFails taken second ih => exact ih failed
  | unaryFails taken inner ih => exact ih failed
  | groupFails missing opened inside ih => exact ih failed
  | groupUnclosed | nothing =>
    cases failed
    rfl
  | chainEnds | unary | literal | group => cases failed

end Lox.Descent
