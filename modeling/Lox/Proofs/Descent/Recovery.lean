import Lox.Proofs.Descent.Operations
import Mathlib.Order.Bounds.Basic

set_option autoImplicit false

namespace Lox.Descent

def statementKinds : List Kind :=
  [.kwClass, .kwFor, .kwFun, .kwIf, .kwPrint, .kwReturn, .kwVar, .kwWhile]

def Ended (tokens : List Token) (place : Nat) : Prop :=
  place = tokens.length ∨ ∃ token, tokens[place]? = some token ∧ token.kind = .eof

def Boundary (tokens : List Token) (place : Nat) : Prop :=
  Ended tokens place ∨
    (∃ token, tokens[place]? = some token ∧ token.kind ∈ statementKinds) ∨
    ∃ token, tokens[place - 1]? = some token ∧ token.kind = .semicolon

theorem opensStatement_iff (kind : Kind) : kind.opensStatement = true ↔ kind ∈ statementKinds := by
  cases kind <;> decide

namespace Cursor

variable {c d : Cursor}

theorem getElem?_tokens_pos (c : Cursor) : c.tokens[c.pos]? = c.ahead.head? := by
  rw [tokens, pos, List.getElem?_append_right (by simp)]
  simp [List.head?_eq_getElem?]

theorem getElem?_tokens_before {last : Token} {before : List Token}
    (behind : c.behind = last :: before) : c.tokens[c.pos - 1]? = some last := by
  simp [tokens, pos, behind]

theorem pos_eq_length_iff (c : Cursor) : c.pos = c.tokens.length ↔ c.ahead = [] := by
  simp [tokens, pos]

theorem ended_iff (c : Cursor) : Ended c.tokens c.pos ↔ c.atEnd = true := by
  rw [Ended, pos_eq_length_iff, getElem?_tokens_pos, atEnd]
  cases c.ahead <;> simp

theorem boundary_iff {last token : Token} {before rest : List Token}
    (behind : c.behind = last :: before) (ahead : c.ahead = token :: rest) :
    Boundary c.tokens c.pos ↔
      token.kind = .eof ∨ last.kind = .semicolon ∨ token.kind.opensStatement = true := by
  have ended : c.atEnd = true ↔ token.kind = .eof := by simp [atEnd, ahead]
  rw [Boundary, ended_iff, ended, getElem?_tokens_pos, getElem?_tokens_before behind, ahead,
    opensStatement_iff]
  simp [or_comm]

theorem isLeast_skipStatement {last : Token} {before ahead : List Token} (tokens : List Token)
    (same : (Cursor.mk (last :: before) ahead).tokens = tokens) :
    IsLeast {place | before.length + 1 ≤ place ∧ Boundary tokens place}
      (skipStatement last.kind (last :: before) ahead).pos := by
  subst same
  induction ahead generalizing last before with
  | nil =>
    have ended := (ended_iff ⟨last :: before, []⟩).2 rfl
    exact ⟨⟨Nat.le_refl _, .inl ended⟩, fun place within => within.1⟩
  | cons token rest ih =>
    have boundary := boundary_iff (c := ⟨last :: before, token :: rest⟩) rfl rfl
    rw [skipStatement]
    split
    · next stops =>
      have stops : token.kind = .eof ∨ last.kind = .semicolon ∨
          token.kind.opensStatement = true := by
        simpa [or_assoc] using stops
      exact ⟨⟨Nat.le_refl _, boundary.2 stops⟩, fun place within => within.1⟩
    · next further =>
      have further : ¬ (token.kind = .eof ∨ last.kind = .semicolon ∨
          token.kind.opensStatement = true) := by
        simpa [or_assoc] using further
      have moved : (Cursor.mk (token :: last :: before) rest).tokens =
          (Cursor.mk (last :: before) (token :: rest)).tokens := by
        simp [tokens]
      obtain ⟨⟨above, stands⟩, least⟩ := @ih token (last :: before)
      rw [moved] at stands least
      rw [List.length_cons] at above
      refine ⟨⟨by omega, stands⟩, fun place within => least ⟨?_, within.2⟩⟩
      -- The place itself is none of those sought.
      have other : place ≠ before.length + 1 := by
        rintro rfl
        exact further (boundary.1 within.2)
      have low := within.1
      rw [List.length_cons]
      omega

theorem recover_of_atEnd (ended : c.atEnd = true) : c.recover = c := by
  cases ahead : c.ahead with
  | nil => simp [recover, take?, ahead]
  | cons token rest =>
    have last : token.kind = .eof := by simpa [atEnd, ahead] using ended
    simp [recover, take?, ahead, last]

theorem isLeast_recover (further : c.atEnd = false) :
    IsLeast {place | c.pos + 1 ≤ place ∧ Boundary c.tokens place} c.recover.pos := by
  cases ahead : c.ahead with
  | nil => simp [atEnd, ahead] at further
  | cons token rest =>
    have proper : token.kind ≠ .eof := by simpa [atEnd, ahead] using further
    have taken : c.take? (fun _ => true) = some (token, ⟨token :: c.behind, rest⟩) := by
      simp [take?, ahead, proper]
    rw [recover, taken]
    exact isLeast_skipStatement c.tokens (by simp [tokens, ahead])

theorem pos_lt_recover (further : c.atEnd = false) : c.pos < c.recover.pos :=
  (isLeast_recover further).1.1

theorem perform_recover (nonempty : c.tokens ≠ []) : c.perform .recover = .ok .done c.recover := by
  have kept := c.onward_recover.tokens_eq
  cases last : c.recover.last? with
  | none => exact absurd (kept ▸ c.recover.last?_eq_none.1 last) nonempty
  | some token => rw [perform, answerLast, last]

def round (c : Cursor) : Except Failure Cursor :=
  match c.perform .expression with
  | .ok _ d => .ok d
  | .error (.parse _) d =>
    match d.perform .recover with
    | .ok _ e => .ok e
    | .error failure _ => .error failure
  | .error .noToken _ => .error .noToken

inductive Loop : Cursor → Nat → Cursor → Prop where
  | ended {c : Cursor} (ended : c.atEnd = true) : Loop c 0 c
  | more {c d e : Cursor} {rounds : Nat} (further : c.atEnd = false) (made : c.round = .ok d)
      (later : Loop d rounds e) : Loop c (rounds + 1) e

theorem atEnd_congr (tokens : c.tokens = d.tokens) (pos : c.pos = d.pos) :
    c.atEnd = d.atEnd := by
  rw [Bool.eq_iff_iff, ← ended_iff, ← ended_iff, tokens, pos]

theorem round_advances (nonempty : c.tokens ≠ []) (further : c.atEnd = false) :
    ∃ d, c.round = .ok d ∧ d.tokens = c.tokens ∧ c.pos < d.pos := by
  have onward := c.onward_perform .expression
  cases parsed : c.perform .expression with
  | ok answer d =>
    rw [parsed] at onward
    exact ⟨d, by rw [round, parsed], onward.tokens_eq, pos_lt_of_parsed rfl parsed⟩
  | error failure d =>
    rw [parsed] at onward
    have kept : d.tokens = c.tokens := onward.tokens_eq
    have passed : c.pos ≤ d.pos := onward.pos_le
    cases failure with
    | noToken => exact absurd parsed (answering_ne_noToken _ _ _)
    | parse e =>
      have recovered := d.onward_recover
      have made : c.round = .ok d.recover := by
        rw [round, parsed]
        simp only [perform_recover (kept.symm ▸ nonempty)]
      refine ⟨d.recover, made, recovered.tokens_eq.trans kept, ?_⟩
      -- A parse that took nothing before it failed has left a token for the recovery.
      rcases passed.lt_or_eq with later | same
      · exact later.trans_le recovered.pos_le
      · exact same ▸ pos_lt_recover (further ▸ atEnd_congr kept same.symm)

theorem exists_loop (nonempty : c.tokens ≠ []) :
    ∃ rounds d, rounds + c.pos ≤ c.tokens.length ∧ Loop c rounds d := by
  have within (d : Cursor) : d.pos ≤ d.tokens.length := by simp [tokens, pos]
  induction left : c.tokens.length - c.pos using Nat.strong_induction_on generalizing c with
  | h n ih =>
    cases further : c.atEnd with
    | true => exact ⟨0, c, by simpa using within c, .ended further⟩
    | false =>
      obtain ⟨d, made, kept, later⟩ := round_advances nonempty further
      have bound := within d
      rw [kept] at bound
      obtain ⟨rounds, e, counted, loop⟩ :=
        ih (d.tokens.length - d.pos) (by rw [kept]; omega) (kept.symm ▸ nonempty) rfl
      rw [kept] at counted
      exact ⟨rounds + 1, e, by omega, .more further made loop⟩

end Cursor

theorem recovery_exact {c : Cursor} (nonempty : c.tokens ≠ []) :
    (∃ d, c.perform .recover = .ok .done d ∧ d.tokens = c.tokens ∧
      (Ended c.tokens c.pos → d.pos = c.pos) ∧
      (¬ Ended c.tokens c.pos →
        IsLeast {place | c.pos + 1 ≤ place ∧ Boundary c.tokens place} d.pos)) ∧
    (¬ Ended c.tokens c.pos → ∃ d, c.round = .ok d ∧ d.tokens = c.tokens ∧ c.pos < d.pos) ∧
    ∃ rounds d, rounds + c.pos ≤ c.tokens.length ∧ c.Loop rounds d := by
  have going : ¬ Ended c.tokens c.pos → c.atEnd = false := by
    rw [Cursor.ended_iff, Bool.not_eq_true]
    exact id
  refine ⟨⟨c.recover, Cursor.perform_recover nonempty, c.onward_recover.tokens_eq, ?_, ?_⟩, ?_,
    Cursor.exists_loop nonempty⟩
  · intro ended
    rw [Cursor.recover_of_atEnd (c.ended_iff.1 ended)]
  · exact fun further => Cursor.isLeast_recover (going further)
  · exact fun further => Cursor.round_advances nonempty (going further)

def strayOperator : List Token :=
  [⟨.plus, "+", 1, .absent⟩, ⟨.semicolon, ";", 1, .absent⟩, ⟨.kwFor, "for", 1, .absent⟩, .eof 1]

theorem recovery_exact_strayOperator : strayOperator ≠ [] ∧ ¬ Ended strayOperator 0 ∧
    IsLeast {place | 1 ≤ place ∧ Boundary strayOperator place} 2 ∧
    ∃ rounds d, rounds ≤ 4 ∧ (Cursor.ofTokens strayOperator).Loop rounds d := by
  have nonempty : (Cursor.ofTokens strayOperator).tokens ≠ [] := by decide
  have going : ¬ Ended strayOperator 0 := by
    rintro (empty | ⟨token, first, last⟩)
    · cases empty
    · cases first
      cases last
  obtain ⟨⟨d, recovered, -, -, least⟩, -, loop⟩ := recovery_exact nonempty
  cases recovered
  exact ⟨nonempty, going, least going, loop⟩

end Lox.Descent
