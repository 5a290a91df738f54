import Lox.Text.Ranges

set_option autoImplicit false

namespace Lox.Text

-- The characters with the white space property, and the four information separators.
def blankRanges : Ranges :=
  [(0x09, 0x0d), (0x1c, 0x20), (0x85, 0x85), (0xa0, 0xa0), (0x1680, 0x1680), (0x2000, 0x200a),
   (0x2028, 0x2029), (0x202f, 0x202f), (0x205f, 0x205f), (0x3000, 0x3000)]

def isBlank (c : Char) : Bool :=
  blankRanges.has c

def strip (test : Char → Bool) (text : List Char) : List Char :=
  ((text.dropWhile test).reverse.dropWhile test).reverse

def trim (text : List Char) : List Char :=
  strip isBlank text

theorem dropWhile_of_all_not {test : Char → Bool} {text : List Char}
    (h : ∀ c ∈ text, test c = false) : text.dropWhile test = text := by
  cases text with
  | nil => rfl
  | cons c rest => simp [h c]

theorem strip_of_all_not {test : Char → Bool} {text : List Char}
    (h : ∀ c ∈ text, test c = false) : strip test text = text := by
  rw [strip, dropWhile_of_all_not h, dropWhile_of_all_not, List.reverse_reverse]
  simpa using h

def firstWord (text : List Char) : List Char × List Char :=
  (text.takeWhile (!isBlank ·), trim (text.dropWhile (!isBlank ·)))

end Lox.Text
