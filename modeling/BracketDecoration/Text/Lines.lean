namespace BracketDecoration.Text

def isLineBreak (char : Char) : Bool :=
  char = '\n' || char = '\r' || char = '\u000B' || char = '\u000C' || char = '\u0085' ||
    char = '\u2028' || char = '\u2029'

def countBreaks : List Char → Nat
  | [] => 0
  | '\r' :: '\n' :: rest => countBreaks rest + 1
  | char :: rest => countBreaks rest + if isLineBreak char then 1 else 0

/-- The number of lines; what follows the last line break is a line even if it is empty. -/
def lineCount (text : String) : Nat :=
  countBreaks text.toList + 1

end BracketDecoration.Text
