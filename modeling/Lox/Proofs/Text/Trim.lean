import Lox.Text.Blank
import Mathlib.Data.List.TakeWhile

set_option autoImplicit false

namespace Lox.Text

variable {test : Char → Bool} {text : List Char}

theorem not_of_mem_head?_dropWhile (test : Char → Bool) (text : List Char) :
    ∀ c ∈ (text.dropWhile test).head?, test c = false := by
  intro c mem
  have first := List.head?_dropWhile_not test text
  rw [mem] at first
  exact first

theorem head?_strip (test : Char → Bool) (text : List Char) :
    (strip test text).head? = (text.dropWhile test).head? := by
  have first := not_of_mem_head?_dropWhile test text
  rw [strip]
  cases left : text.dropWhile test with
  | nil => rfl
  | cons c rest =>
    rw [left] at first
    have kept : test c = false := first c rfl
    rw [List.reverse_cons, List.dropWhile_append]
    split
    · simp [kept]
    · simp

end Lox.Text
