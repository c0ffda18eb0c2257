/-!
# Lines of a text

Two ways to cut a text into lines, and the reduction of every line end to a line feed.

- `splitLines`: cuts at every line boundary of Unicode and drops the boundaries
- `splitAfterFeed`: cuts after each line feed and keeps it
- `unifyReturns`: writes each carriage return, with or without a line feed, as one line feed
- `unifyBreaks`: writes every line boundary as one line feed
-/

namespace HidDescriptor
namespace Text

/-- The characters that end a line: line feed, vertical tab, form feed, carriage return, the file,
group and record separators, next line, and the line and paragraph separators. -/
def endsLine (c : Char) : Bool :=
  let n := c.toNat
  (0x0A ≤ n && n ≤ 0x0D) || (0x1C ≤ n && n ≤ 0x1E) || n == 0x85 || n == 0x2028 || n == 0x2029

def consToHead (c : Char) : List (List Char) → List (List Char)
  | [] => [[c]]
  | line :: rest => (c :: line) :: rest

/-- Writes each line boundary, a carriage return with its line feed counting as one, as one line
feed. -/
def unifyBreaks : List Char → List Char
  | [] => []
  | '\r' :: '\n' :: rest => '\n' :: unifyBreaks rest
  | c :: rest => (if endsLine c then '\n' else c) :: unifyBreaks rest

/-- Writes a carriage return, and a carriage return with its line feed, as one line feed. -/
def unifyReturns : List Char → List Char
  | [] => []
  | '\r' :: '\n' :: rest => '\n' :: unifyReturns rest
  | c :: rest => (if c = '\r' then '\n' else c) :: unifyReturns rest

/-- Cuts at every line boundary. The boundaries are dropped, and one at the very end opens no
further line. -/
def splitLines : List Char → List (List Char)
  | [] => []
  | '\r' :: '\n' :: rest => [] :: splitLines rest
  | c :: rest => if endsLine c then [] :: splitLines rest else consToHead c (splitLines rest)

/-- Cuts after each line feed, which stays with its line. -/
def splitAfterFeed : List Char → List (List Char)
  | [] => []
  | c :: rest => if c = '\n' then ['\n'] :: splitAfterFeed rest else consToHead c (splitAfterFeed rest)

end Text
end HidDescriptor
