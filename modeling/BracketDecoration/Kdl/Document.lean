import BracketDecoration.Kdl.Number
import BracketDecoration.Kdl.Text

namespace BracketDecoration.Kdl

def keywords : List (List Char × Value) :=
  [("true".toList, .bool true), ("false".toList, .bool false), ("null".toList, .null),
    ("inf".toList, .float "inf"), ("-inf".toList, .float "-inf"), ("nan".toList, .float "nan")]

def scanKeyword : (input : List Char) → Option (Scan Value input)
  | '#' :: inner =>
    (keywords.find? fun keyword => keyword.1.isPrefixOf inner).map fun keyword =>
      ⟨keyword.2, inner.drop keyword.1.length, by simp only [List.length_drop, List.length_cons]; omega⟩
  | _ => none

def scanChar (expected : Char) : (input : List Char) → Option (Scan Unit input)
  | first :: rest => if first = expected then some (.ofFirst () first rest) else none
  | [] => none

def scanTypeMark : (input : List Char) → Option (Scan Unit input)
  | '(' :: inner => do
    let start := skipNodeSpace inner
    let name ← scanText start.val
    let after := skipNodeSpace name.rest
    let closing ← scanChar ')' after.val
    some ⟨(), closing.rest, by
      have := start.property; have := name.shorter; have := after.property
      have := closing.shorter; simp only [List.length_cons]; omega⟩
  | _ => none

/-- What follows a type mark and the space after it, if there is one; nothing if one is begun and is
not well formed. -/
def skipTypeMark? : (input : List Char) → Option (Remainder input)
  | '(' :: inner =>
    (scanTypeMark ('(' :: inner)).map fun scan =>
      let start := skipNodeSpace scan.rest
      ⟨start.val, Nat.le_trans start.property (Nat.le_of_lt scan.shorter)⟩
  | input => some (.whole input)

def scanValue (input : List Char) : Option (Scan Value input) := do
  let ⟨start, bound⟩ ← skipTypeMark? input
  let scan ← (scanText start).map (Scan.map Value.string) <|> scanNumber start <|> scanKeyword start
  some (scan.within bound)

/-- The mark that takes out what follows it, and the space after the mark. -/
def scanSlashdash : (input : List Char) → Option (Scan Unit input)
  | '/' :: '-' :: inner =>
    let start := skipLineSpace inner
    some ⟨(), start.val, by have := start.property; simp only [List.length_cons]; omega⟩
  | _ => none

/-- What a scanner read, unless a mark that takes out stands directly behind it: names and entries need a
space before such a mark. -/
def Scan.apart? {α : Type} {input : List Char} (scan : Scan α input) : Option (Scan α input) :=
  if ['/', '-'].isPrefixOf scan.rest then none else some scan

def scanProperty (input : List Char) : Option (Scan Entry input) := do
  let name ← scanText input
  let afterName := skipNodeSpace name.rest
  let equals ← scanChar '=' afterName.val
  let start := skipNodeSpace equals.rest
  let scan ← scanValue start.val
  some ⟨⟨some name.value, scan.value⟩, scan.rest, by
    have := name.shorter; have := afterName.property; have := equals.shorter
    have := start.property; have := scan.shorter; omega⟩

def scanArgument (input : List Char) : Option (Scan Entry input) :=
  (scanValue input).map (Scan.map fun value => ⟨none, value⟩)

def scanEntry (input : List Char) : Option (Scan Entry input) :=
  (scanProperty input <|> scanArgument input).bind Scan.apart?

def scanGap (input : List Char) : Option (Scan Unit input) :=
  (scanNodeSpace input).map fun space => space.skipTo (skipNodeSpace space.rest)

mutual

def scanKeptEntry (input : List Char) : Option (Scan Entry input) :=
  let ⟨start, bound⟩ := skipNodeSpace input
  match scanRemovedEntries start with
  | some removed =>
    match scanGap removed.rest with
    | some gap =>
      (scanEntry gap.rest).map fun entry =>
        entry.within (Nat.le_trans (Nat.le_of_lt (Nat.lt_trans gap.shorter removed.shorter)) bound)
    | none => none
  | none => (scanEntry start).map fun entry => entry.within bound
termination_by (input.length, 1)
decreasing_by
  rcases Nat.lt_or_eq_of_le bound with smaller | same
  · exact Prod.Lex.left _ _ smaller
  · rw [same]; exact Prod.Lex.right _ (by decide)

/-- Entries that are taken out, with gaps between them. A mark takes out the next entry that is kept, so two
marks in a row take out two. -/
def scanRemovedEntries (input : List Char) : Option (Scan Unit input) :=
  match scanSlashdash input with
  | some mark =>
    match scanKeptEntry mark.rest with
    | some entry =>
      have shorter : entry.rest.length < input.length := Nat.lt_trans entry.shorter mark.shorter
      match scanGap entry.rest with
      | some gap =>
        have smaller : gap.rest.length < input.length := Nat.lt_trans gap.shorter shorter
        match scanRemovedEntries gap.rest with
        | some others => some (others.within (Nat.le_of_lt smaller))
        | none => some ⟨(), entry.rest, shorter⟩
      | none => some ⟨(), entry.rest, shorter⟩
    | none => none
  | none => none
termination_by (input.length, 0)
decreasing_by
  · exact Prod.Lex.left _ _ mark.shorter
  · exact Prod.Lex.left _ _ smaller

end

def scanEntries (input : List Char) : List Entry × Remainder input :=
  match scanGap input with
  | some gap =>
    match scanKeptEntry gap.rest with
    | some entry =>
      have shorter : entry.rest.length < input.length := Nat.lt_trans entry.shorter gap.shorter
      let tail := scanEntries entry.rest
      (entry.value :: tail.1, tail.2.within (Nat.le_of_lt shorter))
    | none => ([], .whole input)
  | none => ([], .whole input)
termination_by input.length

/-- What follows entries that are taken out and have no entry behind them that is kept. -/
def skipRemovedEntries (input : List Char) : Remainder input :=
  match scanGap input with
  | some gap =>
    match scanRemovedEntries gap.rest with
    | some removed => removed.remainder.within (Nat.le_of_lt gap.shorter)
    | none => .whole input
  | none => .whole input

def endNode? : (input : List Char) → Option (Remainder input)
  | [] => some (.whole [])
  | ';' :: rest => some (Scan.ofFirst () ';' rest).remainder
  | first :: inner =>
    (scanNewline (first :: inner) <|> scanLineComment (first :: inner)).map Scan.remainder

mutual

/-- What follows the spaces, breaks and comments between nodes. A node that is taken out stands among them, so
nothing has to end it. -/
def skipBetween (input : List Char) : Remainder input :=
  match scanLineSpace input with
  | some space => (skipBetween space.rest).within (Nat.le_of_lt space.shorter)
  | none =>
    match scanSlashdash input with
    | some mark =>
      match scanNode mark.rest with
      | some node =>
        have shorter : node.rest.length < input.length := Nat.lt_trans node.shorter mark.shorter
        (skipBetween node.rest).within (Nat.le_of_lt shorter)
      | none => .whole input
    | none => .whole input
termination_by (input.length, 2)
decreasing_by
  · exact Prod.Lex.left _ _ space.shorter
  · exact Prod.Lex.left _ _ mark.shorter
  · exact Prod.Lex.left _ _ shorter

def scanNodes (input : List Char) : List Node × Remainder input :=
  let ⟨start, bound⟩ := skipBetween input
  match scanNode start with
  | some node =>
    have shorter : node.rest.length < input.length := Nat.lt_of_lt_of_le node.shorter bound
    match endNode? node.rest with
    | some behind =>
      have smaller : behind.val.length < input.length := Nat.lt_of_le_of_lt behind.property shorter
      let others := scanNodes behind.val
      (node.value :: others.1, others.2.within (Nat.le_of_lt smaller))
    | none => ([node.value], (skipBetween node.rest).within (Nat.le_of_lt shorter))
  | none => ([], ⟨start, bound⟩)
termination_by (input.length, 3)
decreasing_by
  · exact Prod.Lex.right _ (by decide)
  · rcases Nat.lt_or_eq_of_le bound with smaller | same
    · exact Prod.Lex.left _ _ smaller
    · rw [same]; exact Prod.Lex.right _ (by decide)
  · exact Prod.Lex.left _ _ smaller
  · exact Prod.Lex.left _ _ shorter

def scanNode (input : List Char) : Option (Scan Node input) :=
  match skipTypeMark? input with
  | some named =>
    match (scanText named.val).bind Scan.apart? with
    | some name =>
      let (entries, afterEntries) := scanEntries name.rest
      let afterRemoved := skipRemovedEntries afterEntries.val
      have shorter : afterRemoved.val.length < input.length := by
        have := named.property; have := name.shorter; have := afterEntries.property
        have := afterRemoved.property; omega
      let ⟨beforeBlock, blockBound⟩ := skipRemovedBlocks true afterRemoved.val
      let start := skipNodeSpace beforeBlock
      have smaller : start.val.length < input.length := by have := start.property; omega
      match scanBlock start.val with
      | some block =>
        have smallest : block.rest.length < input.length := Nat.lt_trans block.shorter smaller
        let ⟨behind, behindBound⟩ := skipRemovedBlocks false block.rest
        let rest := skipNodeSpace behind
        some ⟨⟨name.value, entries, some block.value⟩, rest.val, by have := rest.property; omega⟩
      | none => some ⟨⟨name.value, entries, none⟩, start.val, smaller⟩
    | none => none
  | none => none
termination_by (input.length, 1)
decreasing_by
  · exact Prod.Lex.left _ _ shorter
  · exact Prod.Lex.left _ _ smaller
  · exact Prod.Lex.left _ _ smallest

def scanBlock (input : List Char) : Option (Scan (List Node) input) :=
  match scanChar '{' input with
  | some opening =>
    let (nodes, ⟨body, bound⟩) := scanNodes opening.rest
    (scanChar '}' body).map fun closing =>
      ⟨nodes, closing.rest, by have := opening.shorter; have := closing.shorter; omega⟩
  | none => none
termination_by (input.length, 0)
decreasing_by exact Prod.Lex.left _ _ opening.shorter

/-- What follows blocks that are taken out, with gaps between them. Where `spaced` holds there has to be a gap
before the first one too. -/
def skipRemovedBlocks (spaced : Bool) (input : List Char) : Remainder input :=
  if spaced && (scanGap input).isNone then .whole input
  else
    let ⟨start, bound⟩ := skipNodeSpace input
    match scanSlashdash start with
    | some mark =>
      have shorter : mark.rest.length < input.length := Nat.lt_of_lt_of_le mark.shorter bound
      match scanBlock mark.rest with
      | some block =>
        have smaller : block.rest.length < input.length := Nat.lt_trans block.shorter shorter
        (skipRemovedBlocks true block.rest).within (Nat.le_of_lt smaller)
      | none => .whole input
    | none => .whole input
termination_by (input.length, 0)
decreasing_by
  · exact Prod.Lex.left _ _ shorter
  · exact Prod.Lex.left _ _ smaller

end

def parse? (text : String) : Option (List Node) :=
  let chars := match text.toList with
    | '\uFEFF' :: rest => rest
    | chars => chars
  match scanNodes chars with
  | (nodes, ⟨[], _⟩) => some nodes
  | _ => none

end BracketDecoration.Kdl
