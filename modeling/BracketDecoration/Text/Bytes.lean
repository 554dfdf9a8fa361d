namespace BracketDecoration.Text

def charBytes (char : Char) : List UInt8 :=
  String.utf8EncodeChar char

def bytes (chars : List Char) : List UInt8 :=
  chars.flatMap charBytes

def ofBytes? (source : List UInt8) : Option String :=
  String.fromUTF8? ⟨source.toArray⟩

end BracketDecoration.Text
