import BracketDecoration.Text.Digits

namespace BracketDecoration.Kdl

def isSpace (char : Char) : Bool :=
  char = '\t' || char = ' ' || char = '\u00A0' || char = '\u1680' ||
    ('\u2000' ≤ char && char ≤ '\u200A') || char = '\u202F' || char = '\u205F' || char = '\u3000'

def isNewline (char : Char) : Bool :=
  char = '\n' || char = '\r' || char = '\u000B' || char = '\u000C' || char = '\u0085' ||
    char = '\u2028' || char = '\u2029'

def isBlank (char : Char) : Bool :=
  isSpace char || isNewline char

/-- A character that no text may hold: controls, direction marks and the byte order mark. -/
def isForbidden (char : Char) : Bool :=
  let code := char.toNat
  code ≤ 0x08 || (0x0E ≤ code && code ≤ 0x1F) || code = 0x200E || code = 0x200F ||
    (0x202A ≤ code && code ≤ 0x202E) || (0x2066 ≤ code && code ≤ 0x2069) || code = 0xFEFF

def isPunctuation (char : Char) : Bool :=
  char = '\\' || char = '/' || char = '(' || char = ')' || char = '{' || char = '}' || char = ';' ||
    char = '[' || char = ']' || char = '"' || char = '#' || char = '='

def isWordChar (char : Char) : Bool :=
  !isPunctuation char && !isBlank char && !isForbidden char

def isSign (char : Char) : Bool :=
  char = '+' || char = '-'

def isDigitOf (base : Nat) (char : Char) : Bool :=
  (Text.digitOf? base char).isSome

end BracketDecoration.Kdl
