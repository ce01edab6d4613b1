import Stencil.Text.Basic

/-!
# Tokens of the template language

## Main definitions

- `Symbol` — the operators and brackets, with their texts
- `Lexeme` and `Token` — what a token says, and the line it stands on
- `Token.describe` — how messages name a token
-/

namespace Stencil

namespace Template

/-- Operators and brackets. -/
inductive Symbol where
  | add | sub | mul | div | floordiv | mod | pow | tilde
  | eq | ne | gt | gteq | lt | lteq | assign
  | lbracket | rbracket | lparen | rparen | lbrace | rbrace
  | dot | colon | pipe | comma | semicolon
  deriving DecidableEq, Repr

namespace Symbol

def text : Symbol → String
  | add => "+"
  | sub => "-"
  | mul => "*"
  | div => "/"
  | floordiv => "//"
  | mod => "%"
  | pow => "**"
  | tilde => "~"
  | eq => "=="
  | ne => "!="
  | gt => ">"
  | gteq => ">="
  | lt => "<"
  | lteq => "<="
  | assign => "="
  | lbracket => "["
  | rbracket => "]"
  | lparen => "("
  | rparen => ")"
  | lbrace => "\x7b"
  | rbrace => "\x7d"
  | dot => "."
  | colon => ":"
  | pipe => "|"
  | comma => ","
  | semicolon => ";"

/-- All symbols, a longer text before each of its beginnings. -/
def all : List Symbol := [
  floordiv, pow, eq, ne, gteq, lteq, add, sub, mul, div, mod, tilde, gt, lt, assign,
  lbracket, rbracket, lparen, rparen, lbrace, rbrace, dot, colon, pipe, comma, semicolon]

/-- The symbol at the head of a text. -/
def ofHead? (t : Text) : Option Symbol :=
  all.find? fun s => (Text.ofString s.text).isPrefixOf t

/-- The bracket that closes an opening one. -/
def closing? : Symbol → Option Symbol
  | lbracket => some rbracket
  | lparen => some rparen
  | lbrace => some rbrace
  | _ => none

def isClosing : Symbol → Bool
  | rbracket | rparen | rbrace => true
  | _ => false

end Symbol

/-- What a token says. -/
inductive Lexeme where
  /-- Text outside of all tags. -/
  | data (t : Text)
  | printBegin
  | printEnd
  | tagBegin
  | tagEnd
  | name (t : Text)
  | string (t : Text)
  | integer (i : Int)
  | float (x : Float)
  | symbol (s : Symbol)
  /-- The end of the template. -/
  | stop

structure Token where
  line : Nat
  lexeme : Lexeme

namespace Lexeme

/-- How messages name a kind of token, or the token itself if it is a name. -/
def describe : Lexeme → Text
  | data _ => "template data / text"
  | printBegin => "begin of print statement"
  | printEnd => "end of print statement"
  | tagBegin => "begin of statement block"
  | tagEnd => "end of statement block"
  | name t => t
  | string _ => "string"
  | integer _ => "integer"
  | float _ => "float"
  | symbol s => s.text
  | stop => "end of template"

def isStop : Lexeme → Bool
  | stop => true
  | _ => false

def isTagEnd : Lexeme → Bool
  | tagEnd => true
  | _ => false

def isSymbol (l : Lexeme) (s : Symbol) : Bool :=
  match l with
  | symbol s' => s == s'
  | _ => false

def isName (l : Lexeme) (n : String) : Bool :=
  match l with
  | name t => t == Text.ofString n
  | _ => false

end Lexeme

end Template

end Stencil
