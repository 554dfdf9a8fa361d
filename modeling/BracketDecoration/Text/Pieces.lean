namespace BracketDecoration.Text

def splitAt (mark : Char) : List Char → List (List Char)
  | [] => [[]]
  | char :: rest =>
    if char = mark then [] :: splitAt mark rest
    else match splitAt mark rest with
      | [] => [[char]]
      | piece :: pieces => (char :: piece) :: pieces

end BracketDecoration.Text
