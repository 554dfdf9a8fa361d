import BracketDecoration.Kdl.Scan

/-!
The three spellings of a string: a bare word, a quoted string with escapes, and a raw string between number
signs. Quoted and raw strings may span lines behind three quotes; the blanks before the closing quotes are
then taken off every line.
-/

namespace BracketDecoration.Kdl

def reservedWords : List String := ["true", "false", "null", "inf", "nan"]

/-- Whether a bare word may begin here: what could begin a number may not. -/
def beginsWord : List Char → Bool
  | [] => false
  | first :: rest =>
    if isSign first then
      match rest with
      | '.' :: second :: _ => !isDigitOf 10 second
      | second :: _ => !isDigitOf 10 second
      | [] => true
    else if first = '.' then
      match rest with
      | second :: _ => !isDigitOf 10 second
      | [] => true
    else isWordChar first && !isDigitOf 10 first

def scanWord : (input : List Char) → Option (Scan String input)
  | [] => none
  | first :: inner =>
    if beginsWord (first :: inner) then
      let word := String.ofList (first :: inner.takeWhile isWordChar)
      if word ∈ reservedWords then none
      else some ⟨word, inner.dropWhile isWordChar, Nat.lt_succ_of_le (length_dropWhile_le _ _)⟩
    else none

/-- Splits before and after the first occurrence of a mark that no backslash escapes. With `escapes` off a
backslash is an ordinary character. -/
def splitAtMark? (escapes : Bool) (mark : List Char) : List Char → Option (List Char × List Char)
  | [] => none
  | first :: rest =>
    if mark.isPrefixOf (first :: rest) then some ([], (first :: rest).drop mark.length)
    else if escapes && first = '\\' then
      match rest with
      | [] => none
      | second :: after =>
        (splitAtMark? escapes mark after).map fun parts => (first :: second :: parts.1, parts.2)
    else (splitAtMark? escapes mark rest).map fun parts => (first :: parts.1, parts.2)

private theorem splitAtMark?_length {escapes : Bool} {mark input : List Char} {parts : List Char × List Char}
    (split : splitAtMark? escapes mark input = some parts) : parts.2.length ≤ input.length := by
  fun_induction splitAtMark? escapes mark input generalizing parts with
  | case1 => cases split
  | case2 => cases split; simp only [List.length_drop]; omega
  | case3 => cases split
  | case4 first _ _ second after hypothesis =>
    obtain ⟨inner, found, rfl⟩ := Option.map_eq_some_iff.mp split
    have := hypothesis found
    simp only [List.length_cons]; omega
  | case5 first rest _ _ hypothesis =>
    obtain ⟨inner, found, rfl⟩ := Option.map_eq_some_iff.mp split
    have := hypothesis found
    simp only [List.length_cons]; omega

def joinEscapedBlanks : List Char → List Char
  | [] => []
  | '\\' :: second :: rest =>
    if isBlank second then joinEscapedBlanks (rest.dropWhile isBlank)
    else '\\' :: second :: joinEscapedBlanks rest
  | first :: rest => first :: joinEscapedBlanks rest
termination_by input => input.length
decreasing_by
  · have := length_dropWhile_le isBlank rest
    simp only [List.length_cons]; omega
  · simp only [List.length_cons]; omega
  · simp only [List.length_cons]; omega

def escapedChar? : Char → Option Char
  | 'n' => some '\n'
  | 'r' => some '\r'
  | 't' => some '\t'
  | 'b' => some '\u0008'
  | 'f' => some '\u000C'
  | 's' => some ' '
  | '"' => some '"'
  | '\\' => some '\\'
  | _ => none

def charOfHex? (digits : List Char) : Option Char :=
  let code := digits.foldl (fun value digit => 16 * value + (Text.digitOf? 16 digit).getD 0) 0
  if 1 ≤ digits.length ∧ digits.length ≤ 6 ∧ code.isValidChar then some (Char.ofNat code) else none

def decodeEscapes? : List Char → Option (List Char)
  | [] => some []
  | '\\' :: 'u' :: '{' :: inner =>
    match closed : inner.dropWhile (isDigitOf 16) with
    | '}' :: rest => do
      have := length_of_dropWhile closed
      let char ← charOfHex? (inner.takeWhile (isDigitOf 16))
      let tail ← decodeEscapes? rest
      some (char :: tail)
    | _ => none
  | '\\' :: letter :: rest => do
    let char ← escapedChar? letter
    let tail ← decodeEscapes? rest
    some (char :: tail)
  | '\\' :: [] => none
  | char :: rest => (decodeEscapes? rest).map (char :: ·)
termination_by input => input.length
decreasing_by
  all_goals simp only [List.length_cons]; omega

def splitLines : List Char → List (List Char)
  | [] => [[]]
  | '\r' :: '\n' :: rest => [] :: splitLines rest
  | char :: rest =>
    if isNewline char then [] :: splitLines rest
    else match splitLines rest with
      | [] => [[char]]
      | line :: lines => (char :: line) :: lines

/-- A line without its indentation. A line of spaces only is empty whatever they are. -/
def dedentLine? (indent line : List Char) : Option (List Char) :=
  if line.all isSpace then some []
  else if indent.isPrefixOf line then some (line.drop indent.length)
  else none

/-- The lines without the indentation that the last of them shows, joined by line feeds. The last line
holds nothing else. -/
def dedent? (text : List Char) : Option (List Char) :=
  let lines := splitLines text
  let indent := lines.getLastD []
  if indent.all isSpace then do
    let body ← lines.dropLast.mapM (dedentLine? indent)
    some (['\n'].intercalate body)
  else none

def quotedContent? (body : List Char) : Option (List Char) :=
  let joined := joinEscapedBlanks body
  if joined.any isNewline then none else decodeEscapes? joined

def rawContent? (body : List Char) : Option (List Char) :=
  if body.any isNewline then none else some body

def blockContent? (escapes : Bool) (body : List Char) : Option (List Char) := do
  let opening ← scanNewline body
  if escapes then
    let lines ← dedent? (joinEscapedBlanks opening.rest)
    decodeEscapes? lines
  else dedent? opening.rest

/-- Reads up to a closing mark and turns what stands before it, which may hold no forbidden character, into the
content. -/
def scanUpTo (escapes : Bool) (mark : List Char) (content? : List Char → Option (List Char))
    (input : List Char) : Option { result : String × List Char // result.2.length ≤ input.length } :=
  match split : splitAtMark? escapes mark input with
  | some (body, rest) =>
    if body.any isForbidden then none
    else (content? body).map fun content => ⟨(String.ofList content, rest), splitAtMark?_length split⟩
  | none => none

def scanQuoted : (input : List Char) → Option (Scan String input)
  | '"' :: '"' :: '"' :: inner =>
    (scanUpTo true ['"', '"', '"'] (blockContent? true) inner).map fun ⟨(text, rest), bound⟩ =>
      ⟨text, rest, by simp only [List.length_cons] at *; omega⟩
  | '"' :: inner =>
    (scanUpTo true ['"'] quotedContent? inner).map fun ⟨(text, rest), bound⟩ =>
      ⟨text, rest, by simp only [List.length_cons] at *; omega⟩
  | _ => none

/-- Whether a text begins with three quotes and the end of a line, as raw strings over several lines do. Any
other raw string begins with one quote, and quotes that follow belong to its content. -/
def opensBlock : List Char → Bool
  | '"' :: '"' :: '"' :: rest => (scanNewline rest).isSome
  | _ => false

/-- A raw string: as many number signs close it as opened it, and a backslash means itself. Its content is not a
quote alone, which could be taken for the beginning of a string over several lines. -/
def scanRaw (input : List Char) : Option (Scan String input) :=
  let hashes := input.takeWhile (· = '#')
  let opening := input.dropWhile (· = '#')
  have bound : opening.length ≤ input.length := length_dropWhile_le _ _
  if hashes.isEmpty then none
  else
    let quotes := if opensBlock opening then ['"', '"', '"'] else ['"']
    let content? := if opensBlock opening then blockContent? false else rawContent?
    if shape : quotes.isPrefixOf opening then
      match scanUpTo false (quotes ++ hashes) content? (opening.drop quotes.length) with
      | some ⟨(text, rest), shorter⟩ =>
        if text = "\"" then none
        else some ⟨text, rest, by
          have marked : 0 < quotes.length := by simp only [quotes]; split <;> simp
          have := (List.isPrefixOf_iff_prefix.mp shape).length_le
          simp only [List.length_drop] at shorter; omega⟩
      | none => none
    else none

def scanText (input : List Char) : Option (Scan String input) :=
  scanWord input <|> scanQuoted input <|> scanRaw input

end BracketDecoration.Kdl
