/-!
# Templates

A template is text with tokens in braces. A token starts at an opening brace and goes on to the next
closing one; it may hold anything but a closing brace, and it holds at least one character. Braces
that enclose no token are text like any other.
-/

namespace ContentEngine

/-- A piece of a template: a character that stands for itself, or a token with its content. -/
inductive TemplatePiece where
  | char (c : Char)
  | token (content : List Char)
deriving Repr, DecidableEq

namespace Template

/-- Characters that stand for themselves. -/
def plain (chars : List Char) : List TemplatePiece :=
  chars.map .char

/-- The pieces of a template after an opening brace, where `content` is what has been read since,
the last character first, or after no opening brace. -/
def piecesFrom (content : Option (List Char)) : List Char → List TemplatePiece
  | [] =>
    match content with
    | none => []
    | some chars => plain ('\x7b' :: chars.reverse)
  | c :: rest =>
    match content with
    | none => if c = '\x7b' then piecesFrom (some []) rest else .char c :: piecesFrom none rest
    | some chars =>
      if c = '\x7d' then
        if chars.isEmpty then plain ['\x7b', '\x7d'] ++ piecesFrom none rest
        else .token chars.reverse :: piecesFrom none rest
      else piecesFrom (some (c :: chars)) rest

/-- The pieces of a template. -/
def pieces (template : String) : List TemplatePiece :=
  piecesFrom none template.toList

/-- The text of a template in which each token is replaced by a text of its own. -/
def render {ε : Type} (token : String → Except ε String) :
    List TemplatePiece → Except ε (List Char)
  | [] => .ok []
  | .char c :: rest => do return c :: (← render token rest)
  | .token content :: rest => do
    let text ← token (String.ofList content)
    return text.toList ++ (← render token rest)

end Template

end ContentEngine
