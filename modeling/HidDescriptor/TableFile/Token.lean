import HidDescriptor.TableFile.Lexeme

/-!
# Tokens of table files

A table file is first cut into tokens. Indentation and line ends matter only here: a collection
without brackets starts and ends with a token like one in brackets.

- `Token`: the tokens
- `Cursor`: a place in a text
- `Candidate`: a token that becomes a key if a colon follows it
- `Scan`: a text of which a part is cut into tokens
- `Token.ofText`: the tokens of a text
-/

namespace HidDescriptor
namespace TableFile

inductive Token
  /-- The mark between documents. -/
  | documentStart
  /-- The mark after a document. -/
  | documentEnd
  /-- The start of a list that is shown by indentation. -/
  | listStart
  /-- The start of a mapping that is shown by indentation. -/
  | mappingStart
  /-- The end of a list or mapping that is shown by indentation. -/
  | blockEnd
  /-- The dash of an entry. -/
  | entry
  /-- The start of a key. -/
  | key
  /-- The colon after a key. -/
  | value
  | openList
  | closeList
  | openMapping
  | closeMapping
  | comma
  /-- A scalar, `plain` if it has no quotes. -/
  | scalar (plain : Bool) (text : List Char)
  deriving DecidableEq, Repr

/-! ## Places -/

/-- A place in a text: what follows, how many characters lie before it, and its line and column. -/
structure Cursor where
  rest : List Char
  index : Nat
  line : Nat
  column : Nat
  deriving DecidableEq, Repr

namespace Cursor

/-- The place after the next character. A byte order mark takes no column. -/
def step (p : Cursor) : Cursor :=
  match p.rest with
  | [] => p
  | c :: rest =>
      if isBreak c then ⟨rest, p.index + 1, p.line + 1, 0⟩
      -- A byte order mark takes up no column.
      else if c.toNat = 0xFEFF then { p with rest, index := p.index + 1 }
      else { p with rest, index := p.index + 1, column := p.column + 1 }

def advance : Nat → Cursor → Cursor
  | 0, p => p
  | n + 1, p => advance n p.step

def moveTo (p : Cursor) (rest : List Char) : Cursor :=
  advance (p.rest.length - rest.length) p

/-- The start of a text. A byte order mark there is passed over. -/
def start (cs : List Char) : Cursor :=
  let p : Cursor := ⟨cs, 0, 0, 0⟩
  match cs with
  | c :: _ => if c.toNat = 0xFEFF then p.step else p
  | [] => p

end Cursor

/-- A scalar without quotes from a place on, in at most `fuel` parts: its text after `lead`, the
place after it, and whether that is on a later line than its last part. Outside brackets further
lines must reach the column `least`. -/
def plainFrom (inFlow : Bool) (least : Int) :
    (fuel : Nat) → (lead : List Char) → (crossed : Bool) → Cursor → List Char × Cursor × Bool
  | 0, _, crossed, p => ([], p, crossed)
  | fuel + 1, lead, crossed, p =>
      let (run, after) := plainRun inFlow p.rest
      if run.isEmpty then ([], p, crossed)
      else
        let gap := plainGap after
        let next := p.moveTo gap.rest
        if gap.text.isEmpty || startsWith '#' next.rest || (!inFlow && next.column < least) then
          (lead ++ run, next, gap.crossesLine)
        else
          let (more, last, crossed) := plainFrom inFlow least fuel gap.text gap.crossesLine next
          (lead ++ run ++ more, last, crossed)

/-! ## Scans -/

/-- A token that becomes a key if a colon follows it: how many tokens lie before it and its place.
A required one must become a key. -/
structure Candidate where
  number : Nat
  required : Bool
  index : Nat
  line : Nat
  column : Nat
  deriving DecidableEq, Repr

/-- The most characters from the start of a key to its colon. -/
def keyLimit : Nat := 1024

/-- A text of which the part before `cursor` is cut into tokens. -/
structure Scan where
  cursor : Cursor
  /-- The column of the innermost list or mapping that is shown by indentation. -/
  indent : Int
  /-- The columns of the lists and mappings around it, the innermost first. -/
  outer : List Int
  /-- The candidate inside the innermost brackets. -/
  candidate : Option Candidate
  /-- The candidates outside of each of the open brackets, the innermost first. -/
  around : List (Option Candidate)
  /-- Whether a key may start here. -/
  keyAllowed : Bool
  /-- The tokens so far, the latest first. -/
  tokens : List Token
  deriving DecidableEq, Repr

namespace Scan

def start (cs : List Char) : Scan :=
  ⟨.start cs, -1, [], none, [], true, []⟩

def inFlow (s : Scan) : Bool := !s.around.isEmpty

def emit (t : Token) (s : Scan) : Scan :=
  { s with tokens := t :: s.tokens }

def insertAt (number : Nat) (t : Token) (s : Scan) : Scan :=
  let later := s.tokens.length - number
  { s with tokens := s.tokens.take later ++ t :: s.tokens.drop later }

def pass (n : Nat) (s : Scan) : Scan :=
  { s with cursor := s.cursor.advance n }

/-! ### Candidates for keys -/

/-- Gives up the candidate, which must not be a required one. -/
def dropCandidate (s : Scan) : Except ReadFault Scan :=
  match s.candidate with
  | some candidate =>
      if candidate.required then .error .malformed else .ok { s with candidate := none }
  | none => .ok s

/-- Makes the next token a candidate if a key may start here. It is required in the column of a
mapping that is shown by indentation. -/
def markCandidate (s : Scan) : Except ReadFault Scan :=
  if !s.keyAllowed then .ok s
  else do
    let s ← s.dropCandidate
    let p := s.cursor
    let required := !s.inFlow && s.indent = p.column
    .ok { s with candidate := some ⟨s.tokens.length, required, p.index, p.line, p.column⟩ }

/-- Whether a candidate lies on an earlier line or too far before a place. -/
def isStale (p : Cursor) (candidate : Candidate) : Bool :=
  candidate.line != p.line || keyLimit < p.index - candidate.index

/-- A candidate that can still become a key. A required one must not be lost. -/
def refresh (p : Cursor) : Option Candidate → Except ReadFault (Option Candidate)
  | none => .ok none
  | some candidate =>
      if !isStale p candidate then .ok (some candidate)
      else if candidate.required then .error .malformed
      else .ok none

/-! ### Indentation -/

/-- Starts a list or mapping if the column lies deeper than the innermost one. -/
def deepen (column : Nat) (s : Scan) : Scan × Bool :=
  if s.indent < column then ({ s with indent := column, outer := s.indent :: s.outer }, true)
  else (s, false)

/-- Starts a list or mapping here if this column lies deeper than the innermost one. -/
def openHere (t : Token) (s : Scan) : Scan :=
  let (s, deeper) := s.deepen s.cursor.column
  if deeper then s.emit t else s

/-- Ends the lists and mappings that lie deeper than a column. -/
def closeTo (column indent : Int) : (outer : List Int) → (tokens : List Token) →
    Int × List Int × List Token
  | [], tokens => (indent, [], tokens)
  | next :: outer, tokens =>
      if column < indent then closeTo column next outer (.blockEnd :: tokens)
      else (indent, next :: outer, tokens)

/-- Ends the lists and mappings that lie deeper than a column. Between brackets indentation says
nothing. -/
def unwind (column : Int) (s : Scan) : Scan :=
  if s.inFlow then s
  else
    let (indent, outer, tokens) := closeTo column s.indent s.outer s.tokens
    { s with indent, outer, tokens }

/-! ### Tokens -/

def separator (t : Token) (s : Scan) : Except ReadFault Scan := do
  let s ← (s.unwind (-1)).dropCandidate
  .ok ({ s with keyAllowed := false }.emit t |>.pass 3)

def openFlow (t : Token) (s : Scan) : Except ReadFault Scan := do
  let s ← s.markCandidate
  -- The collection may turn out to be a key when it is closed.
  .ok ({ s with candidate := none, around := s.candidate :: s.around, keyAllowed := true }.emit t
    |>.pass 1)

def closeFlow (t : Token) (s : Scan) : Except ReadFault Scan := do
  let s ← s.dropCandidate
  match s.around with
  | [] => .error .malformed
  | candidate :: around =>
      .ok ({ s with candidate, around, keyAllowed := false }.emit t |>.pass 1)

def comma (s : Scan) : Except ReadFault Scan := do
  let s ← s.dropCandidate
  .ok ({ s with keyAllowed := true }.emit .comma |>.pass 1)

/-- Outside brackets, starts a list or mapping where one may start. -/
def openBlock (t : Token) (s : Scan) : Except ReadFault Scan :=
  if s.inFlow then .ok s
  else if s.keyAllowed then .ok (s.openHere t)
  else .error .malformed

def entry (s : Scan) : Except ReadFault Scan := do
  let s ← (← s.openBlock .listStart).dropCandidate
  .ok ({ s with keyAllowed := true }.emit .entry |>.pass 1)

def questionMark (s : Scan) : Except ReadFault Scan := do
  let s ← (← s.openBlock .mappingStart).dropCandidate
  .ok ({ s with keyAllowed := !s.inFlow }.emit .key |>.pass 1)

/-- The colon after a key. The candidate, if there is one, becomes the key. -/
def colon (s : Scan) : Except ReadFault Scan :=
  match s.candidate with
  | some candidate =>
      -- The tokens of the key are there already, so its marks are put in front of them.
      let s := { s with candidate := none, keyAllowed := false }.insertAt candidate.number .key
      let (deeper, opened) := s.deepen candidate.column
      let s :=
        if !s.inFlow && opened then deeper.insertAt candidate.number .mappingStart else s
      .ok (s.emit .value |>.pass 1)
  | none => do
      let s ← s.openBlock .mappingStart
      .ok ({ s with keyAllowed := !s.inFlow }.emit .value |>.pass 1)

def quotedScalar (quote : Char) (rest : List Char) (s : Scan) : Except ReadFault Scan := do
  let s ← s.markCandidate
  let (text, after) ← quoted quote rest
  .ok ({ s with cursor := s.cursor.moveTo after, keyAllowed := false }.emit (.scalar false text))

def plainScalar (s : Scan) : Except ReadFault Scan := do
  let s ← s.markCandidate
  let (text, cursor, crossed) :=
    plainFrom s.inFlow (s.indent + 1) s.cursor.rest.length [] false s.cursor
  .ok ({ s with cursor, keyAllowed := crossed }.emit (.scalar true text))

def token (c : Char) (rest : List Char) (s : Scan) : Except ReadFault Scan :=
  if s.cursor.column = 0 && isSeparator (c :: rest) then
    s.separator (if c = '-' then .documentStart else .documentEnd)
  else if c = '[' then s.openFlow .openList
  else if c = Char.ofNat 0x7B then s.openFlow .openMapping
  else if c = ']' then s.closeFlow .closeList
  else if c = Char.ofNat 0x7D then s.closeFlow .closeMapping
  else if c = ',' then s.comma
  else if c = '-' && endsWord rest then s.entry
  else if c = '?' && (s.inFlow || endsWord rest) then s.questionMark
  else if c = ':' && (s.inFlow || endsWord rest) then s.colon
  else if c = Text.apostrophe || c = Text.doubleQuote then s.quotedScalar c rest
  else if startsPlain s.inFlow c rest then s.plainScalar
  else .error .malformed

/-- Passes over what lies before the next token, and ends what ends before it. A key may start a
line outside brackets. -/
def settle (s : Scan) : Except ReadFault Scan := do
  let (rest, crossed) := skipGap false s.cursor.rest
  let cursor := s.cursor.moveTo rest
  let candidate ← refresh cursor s.candidate
  let around ← s.around.mapM (refresh cursor)
  let keyAllowed := s.keyAllowed || (crossed && !s.inFlow)
  .ok ({ s with cursor, candidate, around, keyAllowed }.unwind cursor.column)

def finish (s : Scan) : Except ReadFault (List Token) := do
  let s ← (s.unwind (-1)).dropCandidate
  .ok s.tokens.reverse

/-- The tokens of a text from a place on, at most `fuel` of them. -/
def tokensFrom : (fuel : Nat) → Scan → Except ReadFault (List Token)
  | 0, _ => .error .malformed
  | fuel + 1, s => do
      let s ← s.settle
      match s.cursor.rest with
      | [] => s.finish
      | c :: rest => tokensFrom fuel (← s.token c rest)

end Scan

/-- The tokens of a text. A token takes at least one character. -/
def Token.ofText (cs : List Char) : Except ReadFault (List Token) :=
  (Scan.start cs).tokensFrom (cs.length + 1)

end TableFile
end HidDescriptor
