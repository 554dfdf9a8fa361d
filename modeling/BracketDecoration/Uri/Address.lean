import BracketDecoration.Text.Digits
import BracketDecoration.Text.Pieces

namespace BracketDecoration.Uri

open Text (natOfDigits? splitAt)

namespace Ipv4

/-- One number of an address. A leading zero marks base eight, and with an x base sixteen. -/
def number? : List Char → Option Nat
  | [] => none
  | '0' :: 'x' :: digits | '0' :: 'X' :: digits => natOfDigits? 16 digits
  | '0' :: digit :: digits => natOfDigits? 8 (digit :: digits)
  | digits => natOfDigits? 10 digits

def pieces (name : List Char) : List (List Char) :=
  let all := splitAt '.' name
  if all.length > 1 && all.getLast? = some [] then all.dropLast else all

/-- Whether a name has to be an address: its last piece is a number. -/
def isNumeric (name : List Char) : Bool :=
  match (pieces name).getLast? with
  | some last => (!last.isEmpty && last.all Char.isDigit) || (number? last).isSome
  | none => false

/-- The bytes of an address. All numbers but the last are bytes, and the last fills what they leave. -/
def parse? (name : List Char) : Option (List Nat) := do
  let numbers ← (pieces name).mapM number?
  let last ← numbers.getLast?
  let first := numbers.dropLast
  let free := 4 - first.length
  if first.length < 4 ∧ first.all (· ≤ 255) ∧ last < Nat.pow 256 free then
    some (first ++ (List.range free).reverse.map fun index => last / Nat.pow 256 index % 256)
  else none

def text (bytes : List Nat) : List Char :=
  ['.'].intercalate (bytes.map fun byte => (toString byte).toList)

end Ipv4

namespace Ipv6

def word? (digits : List Char) : Option Nat :=
  if 1 ≤ digits.length ∧ digits.length ≤ 4 then natOfDigits? 16 digits else none

def byte? : List Char → Option Nat
  | [] => none
  | ['0'] => some 0
  | '0' :: _ => none
  | digits => (natOfDigits? 10 digits).bind fun value => if value ≤ 255 then some value else none

def wordsOfBytes? (text : List Char) : Option (List Nat) :=
  match splitAt '.' text with
  | [first, second, third, fourth] => do
    some [256 * (← byte? first) + (← byte? second), 256 * (← byte? third) + (← byte? fourth)]
  | _ => none

/-- Words with colons between them. Where `final` holds the last piece may be four bytes. -/
def words? (final : Bool) : List (List Char) → Option (List Nat)
  | [] => some []
  | [piece] => if final && piece.contains '.' then wordsOfBytes? piece else (word? piece).map ([·])
  | piece :: rest => do some ((← word? piece) :: (← words? final rest))

def splitAtGap? : List Char → Option (List Char × List Char)
  | ':' :: ':' :: rest => some ([], rest)
  | char :: rest => (splitAtGap? rest).map fun parts => (char :: parts.1, parts.2)
  | [] => none

def side? (final : Bool) (text : List Char) : Option (List Nat) :=
  if text.isEmpty then some [] else words? final (splitAt ':' text)

/-- The eight words of an address. A gap stands for at least one word of zero. -/
def parse? (text : List Char) : Option (List Nat) :=
  match splitAtGap? text with
  | some (before, after) => do
    let first ← side? false before
    let last ← side? true after
    let count := first.length + last.length
    if count < 8 then some (first ++ List.replicate (8 - count) 0 ++ last) else none
  | none => do
    let all ← words? true (splitAt ':' text)
    if all.length = 8 then some all else none

def zeroRun (words : List Nat) : Nat :=
  (words.takeWhile (· = 0)).length

def longestRun (words : List Nat) : Nat × Nat :=
  (List.range words.length).foldl (fun best index =>
    let length := zeroRun (words.drop index)
    if length > best.2 then (index, length) else best) (0, 0)

def wordText (word : Nat) : List Char :=
  Nat.toDigits 16 word

def wordsText (words : List Nat) : List Char :=
  [':'].intercalate (words.map wordText)

/-- The written form without its brackets: the longest run of two or more zeros is left out. -/
def text (words : List Nat) : List Char :=
  let (position, length) := longestRun words
  if length < 2 then wordsText words
  else wordsText (words.take position) ++ [':', ':'] ++ wordsText (words.drop (position + length))

end Ipv6

end BracketDecoration.Uri
