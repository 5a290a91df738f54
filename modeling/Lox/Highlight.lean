import Lox.Scan.Lexeme
import Lox.Text.Newlines

set_option autoImplicit false

namespace Lox.Highlight

structure Span where
  style : String
  text : List Char
  deriving DecidableEq

def plain : String := ""

def commentStyle : String := "italic ansigray"

def style : Kind → String
  | .kwTrue | .kwFalse | .kwNil => "ansicyan"
  | .number => "ansimagenta"
  | .string => "ansigreen"
  | .kwAnd | .kwClass | .kwElse | .kwFun | .kwFor | .kwIf | .kwOr | .kwPrint | .kwReturn
  | .kwSuper | .kwThis | .kwVar | .kwWhile => "bold ansicyan"
  | _ => plain

def cut? (pattern : List Char) : List Char → Option (List Char × List Char)
  | [] => if pattern.isEmpty then some ([], []) else none
  | c :: rest =>
    if pattern.isPrefixOf (c :: rest) then some ([], (c :: rest).drop pattern.length)
    else (cut? pattern rest).map fun (before, behind) => (c :: before, behind)

def gap (text : List Char) : List Span :=
  if text.isEmpty then [] else [⟨plain, text⟩]

def trailing (text : List Char) : List Span :=
  match cut? ['/', '/'] text with
  | none => gap text
  | some (before, behind) => gap before ++ [⟨commentStyle, '/' :: '/' :: behind⟩]

-- Tokens carry no positions, so each is looked for behind the one before.
def spans : List Token → List Char → List Span
  | [], text => trailing text
  | token :: tokens, text =>
    let lexeme := token.lexeme.toList
    if token.kind = .eof || lexeme.isEmpty then spans tokens text
    else
      match cut? lexeme text with
      -- A lexeme that is not found has no place; the search goes on where it was.
      | none => spans tokens text
      | some (before, behind) => gap before ++ ⟨style token.kind, lexeme⟩ :: spans tokens behind

def line (text : List Char) : List Span :=
  match scan (String.ofList text) with
  | .error _ => [⟨plain, text⟩]
  | .ok tokens =>
    match spans tokens text with
    | [] => [⟨plain, text⟩]
    | pieces => pieces

/-- The pieces of a line of a document, by its number: past the end one empty piece. A negative
number counts from the end of the document, as long as that is in it. -/
def numbered? (rows : List (List Char)) (number : Int) : Option (List Span) :=
  if 0 ≤ number then
    match rows[number.toNat]? with
    | some row => some (line row)
    | none => some [⟨plain, []⟩]
  else rows.reverse[(-number - 1).toNat]?.map line

structure Document where
  rows : List (List Char)
  kept : List (Int × List Span)

namespace Document

def ofText (text : List Char) : Document :=
  ⟨Text.lines text, []⟩

def request (d : Document) (number : Int) : Option (List Span) × Document :=
  match d.kept.lookup number with
  | some pieces => (some pieces, d)
  | none =>
    match numbered? d.rows number with
    | some pieces => (some pieces, { d with kept := (number, pieces) :: d.kept })
    -- A number that is refused leaves nothing behind.
    | none => (none, d)

def answers (d : Document) : List Int → List (Option (List Span))
  | [] => []
  | number :: rest => (d.request number).1 :: (d.request number).2.answers rest

end Document

end Lox.Highlight
