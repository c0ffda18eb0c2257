import HidDescriptor.Fault

/-!
# Characters and scalars of table files

The words that a table file is made of. A scalar stands without quotes or between quotes, and may
go on over several lines, which are then folded.

- `isBreak`, `endsWord`, `isSeparator`: line ends, ends of marks, and lines between documents
- `fold`: the text of the line ends between two parts of a scalar
- `skipGap`: blanks, comments and line ends between tokens
- `plainRun`, `plainGap`: the parts of a scalar without quotes
- `quoted`: a scalar in quotes
-/

namespace HidDescriptor
namespace TableFile

/-! ## Characters -/

def isAllowed (c : Char) : Bool :=
  let n := c.toNat
  n == 0x09 || n == 0x0A || n == 0x0D || (0x20 ≤ n && n ≤ 0x7E) || n == 0x85 ||
    (0xA0 ≤ n && n ≤ 0xFFFD) || 0x10000 ≤ n

/-- Whether a character ends a line. Carriage returns are written as line feeds before. -/
def isBreak (c : Char) : Bool :=
  let n := c.toNat
  n == 0x0A || n == 0x85 || n == 0x2028 || n == 0x2029

def isSpace (c : Char) : Bool := c = ' ' || c = '\t'

/-- Whether nothing follows, or a blank, a tab or the end of the line. A mark is one only there. -/
def endsWord : List Char → Bool
  | [] => true
  | c :: _ => isSpace c || isBreak c

/-- Whether a line starts with the mark between documents or the mark after one. -/
def isSeparator (cs : List Char) : Bool :=
  (cs.take 3 = ['-', '-', '-'] || cs.take 3 = ['.', '.', '.']) && endsWord (cs.drop 3)

/-- The mark of a line end in a text: the line and paragraph separators stand for themselves. -/
def breakMark (c : Char) : Char :=
  if c.toNat = 0x85 then '\n' else c

/-- The text of a line end and of the empty lines after it. A single line end is a blank. -/
def fold (first : Char) (others : List Char) : List Char :=
  if breakMark first != '\n' then breakMark first :: others
  else if others.isEmpty then [' ']
  else others

/-- What follows blanks, comments and line ends, and whether a line end was among them. -/
def skipGap (inComment : Bool) : List Char → List Char × Bool
  | [] => ([], false)
  | c :: rest =>
      if isBreak c then ((skipGap false rest).1, true)
      else if inComment || c = ' ' then skipGap inComment rest
      else if c = '#' then skipGap true rest
      else (c :: rest, false)

/-! ## Scalars without quotes -/

def flowMarks : List Char := ",[]\x7b\x7d".toList

def startsWithMark : List Char → Bool
  | [] => false
  | c :: _ => flowMarks.contains c

def indicators : List Char :=
  Text.apostrophe :: Text.doubleQuote :: "-?:,[]\x7b\x7d#&*!|>%@\x60".toList

/-- Whether a scalar without quotes may start with a character. A dash may do so before a character
that is no blank, and outside brackets a question mark or a colon too. -/
def startsPlain (inFlow : Bool) (c : Char) (rest : List Char) : Bool :=
  !(indicators.contains c || isSpace c || isBreak c) ||
    (!endsWord rest && (c = '-' || (!inFlow && (c = '?' || c = ':'))))

/-- Whether a part of a scalar without quotes ends before a character. -/
def endsRun (inFlow : Bool) (c : Char) (rest : List Char) : Bool :=
  isSpace c || isBreak c ||
    (c = ':' && (endsWord rest || (inFlow && startsWithMark rest))) ||
    (inFlow && (c = '?' || flowMarks.contains c))

/-- A part of a scalar without quotes, without blanks inside, and what follows it. -/
def plainRun (inFlow : Bool) : List Char → List Char × List Char
  | [] => ([], [])
  | c :: rest =>
      if endsRun inFlow c rest then ([], c :: rest)
      else
        let (run, after) := plainRun inFlow rest
        (c :: run, after)

/-- What lies between two parts of a scalar without quotes: its folded text, whether it has a line
end, and what follows. No text means that the scalar is over. -/
structure Gap where
  text : List Char
  crossesLine : Bool
  rest : List Char

/-- The line ends among leading blanks, up to a line between documents; whether there is such a
line; and what follows. -/
def plainBreaks : List Char → List Char × Bool × List Char
  | [] => ([], false, [])
  | c :: rest =>
      if c = ' ' then plainBreaks rest
      else if isBreak c then
        if isSeparator rest then ([], true, rest)
        else
          let (others, stop, after) := plainBreaks rest
          (breakMark c :: others, stop, after)
      else ([], false, c :: rest)

def plainGap (cs : List Char) : Gap :=
  match cs.dropWhile (· = ' ') with
  | [] => ⟨cs.takeWhile (· = ' '), false, []⟩
  | c :: rest =>
      if !isBreak c then ⟨cs.takeWhile (· = ' '), false, c :: rest⟩
      else if isSeparator rest then ⟨[], true, rest⟩
      else
        match plainBreaks rest with
        | (_, true, after) => ⟨[], true, after⟩
        | (others, false, after) => ⟨fold c others, true, after⟩

/-! ## Scalars in quotes -/

/-- The line ends among leading blanks and tabs, and what follows. A line between documents must not
occur. -/
def quotedBreaks : List Char → Except ReadFault (List Char × List Char)
  | [] => .ok ([], [])
  | c :: rest =>
      if isSpace c then quotedBreaks rest
      else if isBreak c then
        if isSeparator rest then .error .malformed
        else do
          let (others, after) ← quotedBreaks rest
          .ok (breakMark c :: others, after)
      else .ok ([], c :: rest)

def furtherBreaks (cs : List Char) : Except ReadFault (List Char × List Char) :=
  if isSeparator cs then .error .malformed else quotedBreaks cs

/-- Blanks and line ends inside quotes, and what follows. Blanks around a line end are dropped. -/
def quotedGap (cs : List Char) : Except ReadFault (List Char × List Char) :=
  match cs.dropWhile isSpace with
  | [] => .error .malformed
  | c :: rest =>
      if isBreak c then do
        let (others, after) ← furtherBreaks rest
        .ok (fold c others, after)
      else .ok (cs.takeWhile isSpace, c :: rest)

def escapes : List (Char × Nat) :=
  [('0', 0x00), ('a', 0x07), ('b', 0x08), ('t', 0x09), ('\t', 0x09), ('n', 0x0A), ('v', 0x0B),
    ('f', 0x0C), ('r', 0x0D), ('e', 0x1B), (' ', 0x20), ('/', 0x2F), (Text.doubleQuote, 0x22),
    (Text.backslash, 0x5C), ('N', 0x85), ('_', 0xA0), ('L', 0x2028), ('P', 0x2029)]

def escapeLength? (c : Char) : Option Nat :=
  if c = 'x' then some 2 else if c = 'u' then some 4 else if c = 'U' then some 8 else none

def escapedCode (count : Nat) (cs : List Char) : Except ReadFault Char :=
  match (cs.take count).mapM Numeral.hexDigit? with
  | none => .error .malformed
  | some ds =>
      if ds.length != count then .error .malformed
      else if 0x110000 ≤ Numeral.value 16 ds then .error .codeRange
      else .ok (Char.ofNat (Numeral.value 16 ds))

/-- What a backslash in double quotes stands for, and what follows. At the end of a line it joins
the next line without a blank. -/
def escape : List Char → Except ReadFault (List Char × List Char)
  | [] => .error .malformed
  | c :: rest =>
      match escapes.lookup c, escapeLength? c with
      | some code, _ => .ok ([Char.ofNat code], rest)
      | none, some count => do
          let d ← escapedCode count rest
          .ok ([d], rest.drop count)
      | none, none => if isBreak c then furtherBreaks rest else .error .malformed

def startsWith (c : Char) : List Char → Bool
  | [] => false
  | d :: _ => d = c

/-- The rest of a scalar in quotes, in at most `fuel` steps, and what follows it. A doubled
apostrophe stands for one between apostrophes, and a backslash starts an escape between double
quotes. -/
def quotedFrom (quote : Char) : (fuel : Nat) → List Char → Except ReadFault (List Char × List Char)
  | 0, _ => .error .malformed
  | _ + 1, [] => .error .malformed
  | fuel + 1, c :: rest => do
      if c = quote && !(c = Text.apostrophe && startsWith c rest) then .ok ([], rest)
      else
        let (part, after) ←
          if c = quote then .ok ([c], rest.drop 1)
          else if c = Text.backslash && quote = Text.doubleQuote then escape rest
          else if isSpace c || isBreak c then quotedGap (c :: rest)
          else .ok ([c], rest)
        let (parts, after) ← quotedFrom quote fuel after
        .ok (part ++ parts, after)

/-- The rest of a scalar in quotes, and what follows it. Every step takes a character. -/
def quoted (quote : Char) (cs : List Char) : Except ReadFault (List Char × List Char) :=
  quotedFrom quote (cs.length + 1) cs

end TableFile
end HidDescriptor
