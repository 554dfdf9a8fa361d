import BracketDecoration.Text.HiddenTable

namespace BracketDecoration.Text

/-- A character that would not show: a control, or beyond ASCII one of the table. -/
def isHidden (char : Char) : Bool :=
  if char.toNat < 0x80 then char.toNat < 0x20 || char.toNat = 0x7F else hiddenCodes.contains char

def quotedChar (char : Char) : List Char :=
  if char = '"' then ['\\', '"']
  else if char = '\\' then ['\\', '\\']
  else if char = '\n' then ['\\', 'n']
  else if char = '\r' then ['\\', 'r']
  else if char = '\t' then ['\\', 't']
  else if char.toNat = 0 then ['\\', '0']
  else if isHidden char then
    ['\\', 'u', '{'] ++ Nat.toDigits 16 char.toNat ++ ['}']
  else [char]

def quoted (text : String) : String :=
  String.ofList ('"' :: text.toList.flatMap quotedChar ++ ['"'])

end BracketDecoration.Text
