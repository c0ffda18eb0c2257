import HidDescriptor.Literal
import HidDescriptor.Listing
import HidDescriptor.Text.DecimalDigit

/-!
# Options of the command line

Words of a command line are options, their values, and the name of the input. Options may stand
before and after the input, long ones may be cut short, and short ones may be joined.

- `OptionName`, `OutputFormat`, `Options`: what can be asked for
- `Refusal`: why a command line is not understood
- `Word`, `classify`: the role of a word by its spelling
- `Progress.consume`: the roles of words by their order
- `Options.parse`: the options of a command line
-/

namespace HidDescriptor
namespace CommandLine

/-! ## Options -/

inductive OptionName
  | help
  | output
  | format
  | tables
  | verbose
  | log
  deriving DecidableEq, Repr

namespace OptionName

def all : List OptionName := [help, output, format, tables, verbose, log]

def spellings : OptionName → List String
  | help => ["-h", "--help"]
  | output => ["-o", "--output"]
  | format => ["-f", "--format"]
  | tables => ["-t", "--tables"]
  | verbose => ["-v", "--verbose"]
  | log => ["--log"]

def takesValue : OptionName → Bool
  | help | verbose => false
  | output | format | tables | log => true

/-- An option in messages. -/
def label (name : OptionName) : String :=
  "/".intercalate name.spellings

def lexicon : List (String × OptionName) :=
  all.flatMap fun name => name.spellings.map (·, name)

def ofSpelling? (spelling : String) : Option OptionName :=
  lexicon.lookup spelling

end OptionName

inductive OutputFormat
  | binary
  | listing (format : Listing.Format)
  deriving DecidableEq, Repr

namespace OutputFormat

def name : OutputFormat → String
  | binary => "binary"
  | listing format => format.name

def all : List OutputFormat := binary :: Listing.Format.all.map listing

def ofName? (name : String) : Option OutputFormat :=
  all.find? (·.name == name)

end OutputFormat

structure Options where
  input : String
  output : Option String
  format : OutputFormat
  tables : List String
  verbose : Bool
  log : Option String
  deriving DecidableEq, Repr

/-! ## Refusals -/

inductive Refusal
  | ambiguous (word : String) (spellings : List String)
  | valueExpected (name : OptionName)
  | unwantedValue (name : OptionName) (value : String)
  | invalidFormat (value : String)
  | inputRequired
  | unrecognized (words : List String)
  deriving DecidableEq, Repr

def Refusal.message : Refusal → String
  | ambiguous word spellings =>
      "ambiguous option: " ++ word ++ " could match " ++ ", ".intercalate spellings
  | valueExpected name => "argument " ++ name.label ++ ": expected one argument"
  | unwantedValue name value =>
      "argument " ++ name.label ++ ": ignored explicit argument " ++ Text.quoted value
  | invalidFormat value =>
      "argument " ++ OptionName.format.label ++ ": invalid choice: " ++ Text.quoted value ++
        " (choose from " ++
        ", ".intercalate (OutputFormat.all.map fun f => Text.quoted f.name) ++ ")"
  | inputRequired => "the following arguments are required: input"
  | unrecognized words => "unrecognized arguments: " ++ " ".intercalate words

/-- Why reading a command line ends early. -/
inductive Stop
  | help
  | refused (refusal : Refusal)
  deriving DecidableEq, Repr

/-! ## Words -/

/-- The role of a word by its spelling. A single dash starts a group of short options. What is
attached to an option in its word is a value or further short options. -/
inductive Word
  | value
  /-- The word `--`, after which there are no options. -/
  | terminator
  | unknown
  | option (name : OptionName) (grouped : Bool) (attached : Option (List Char))
  deriving DecidableEq, Repr

/-- The word after which there are no options. As a word of its own it is never the value of an
option. -/
def terminator : String := "--"

/-- A word cut at its first equals sign. -/
def cutAtEquals? (cs : List Char) : Option (List Char × List Char) :=
  match cs.dropWhile (· != '=') with
  | '=' :: rest => some (cs.takeWhile (· != '='), rest)
  | _ => none

def isNegativeNumber (cs : List Char) : Bool :=
  match Literal.dropFeed cs with
  | '-' :: body =>
      let isDigit (c : Char) : Bool := (Text.decimalDigit? c).isSome
      match body.dropWhile isDigit with
      | [] => !body.isEmpty
      | '.' :: rest => !rest.isEmpty && rest.all isDigit
      | _ => false
  | _ => false

def isLong : List Char → Bool
  | '-' :: '-' :: _ => true
  | _ => false

/-- The readings of a word as a long option that is cut short. -/
def longReadings (cs : List Char) : List (String × Word) :=
  let (start, attached) : List Char × Option (List Char) :=
    match cutAtEquals? cs with
    | some (start, value) => (start, some value)
    | none => (cs, none)
  (OptionName.lexicon.filter fun entry => start.isPrefixOf entry.1.toList).map fun entry =>
    (entry.1, .option entry.2 false attached)

/-- The readings of a word as a short option with its value or with further short options. -/
def shortReadings (cs : List Char) : List (String × Word) :=
  (OptionName.lexicon.filter fun entry => entry.1.toList = cs.take 2).map fun entry =>
    (entry.1, .option entry.2 true (some (cs.drop 2)))

/-- The role of a word that starts with a dash and is no spelling of an option. -/
def classifyDashed (word : String) : Except Refusal Word :=
  let cs := word.toList
  -- A full spelling in front of an equals sign comes before spellings that are cut short.
  let spelled? : Option Word := do
    let (start, value) ← cutAtEquals? cs
    let name ← OptionName.ofSpelling? (String.ofList start)
    some (.option name (!isLong start) (some value))
  match spelled? with
  | some role => .ok role
  | none =>
      match if isLong cs then longReadings cs else shortReadings cs with
      | [(_, role)] => .ok role
      | [] =>
          -- No option looks like a number or holds a blank, so such a word can be a value.
          if isNegativeNumber cs || cs.contains ' ' then .ok .value else .ok .unknown
      | readings => .error (.ambiguous word (readings.map (·.1)))

def classify (word : String) : Except Refusal Word :=
  match word.toList with
  | '-' :: c :: rest =>
      match OptionName.ofSpelling? word with
      | some name => .ok (.option name (!isLong ('-' :: c :: rest)) none)
      | none => classifyDashed word
  | _ => .ok .value

def classifyAll : List String → Except Refusal (List (String × Word))
  | [] => .ok []
  | word :: rest =>
      if word = terminator then .ok ((word, .terminator) :: rest.map (·, .value))
      else do
        let role ← classify word
        let others ← classifyAll rest
        .ok ((word, role) :: others)

/-! ## Reading -/

structure Progress where
  input : Option String
  output : Option String
  format : OutputFormat
  tables : List String
  verbose : Bool
  log : Option String
  extras : List String

namespace Progress

def start : Progress := ⟨none, none, .binary, [], false, none, []⟩

def take (p : Progress) (name : OptionName) (value : String) : Except Stop Progress :=
  match name with
  | .help => .error .help
  | .output => .ok { p with output := some value }
  | .format =>
      match OutputFormat.ofName? value with
      | some format => .ok { p with format }
      | none => .error (.refused (.invalidFormat value))
  | .tables => .ok { p with tables := p.tables ++ [value] }
  | .verbose => .ok { p with verbose := true }
  | .log => .ok { p with log := some value }

def takeAll (p : Progress) (names : List (OptionName × String)) : Except Stop Progress :=
  names.foldlM (fun p entry => p.take entry.1 entry.2) p

/-- What a word with options amounts to: the options with their values, and whether the next word
is a value of it. -/
structure Group where
  names : List (OptionName × String)
  usesNext : Bool

/-- An option with nothing attached. `next` is the value that follows the word. -/
def alone (next : Option String) (name : OptionName) : Except Refusal Group :=
  if name.takesValue then
    match next with
    | some value => .ok ⟨[(name, value)], true⟩
    | none => .error (.valueExpected name)
  else .ok ⟨[(name, "")], false⟩

/-- An option with something attached: its value, or further options if it is a short one that
takes none. -/
def group (next : Option String) (name : OptionName) (grouped : Bool) :
    List Char → Except Refusal Group
  -- The word ends in an equals sign, and the value behind it is empty.
  | [] =>
      if name.takesValue then .ok ⟨[(name, "")], false⟩ else .error (.unwantedValue name "")
  | c :: rest =>
      if name.takesValue then .ok ⟨[(name, String.ofList (c :: rest))], false⟩
      else
        match grouped, OptionName.ofSpelling? (String.ofList ['-', c]) with
        | true, some following =>
            let others := if rest.isEmpty then alone next following else group next following true rest
            others.map fun g => { g with names := (name, "") :: g.names }
        | _, _ => .error (.unwantedValue name (String.ofList (c :: rest)))

def groupOf (next : Option String) (name : OptionName) (grouped : Bool) :
    Option (List Char) → Except Refusal Group
  | none => alone next name
  | some attached => group next name grouped attached

def nextValue? : List (String × Word) → Option String
  | (word, .value) :: _ => some word
  | _ => none

def isOption : Word → Bool
  | .option _ _ _ | .unknown => true
  | _ => false

/-- Reads the words after the last option. The input takes a terminator beside it along. -/
def consumeRest (p : Progress) (words : List (String × Word)) : Progress :=
  let leave (p : Progress) (words : List (String × Word)) : Progress :=
    { p with extras := p.extras ++ words.map (·.1) }
  match p.input, words with
  | none, (_, .terminator) :: (word, _) :: rest => leave { p with input := some word } rest
  | none, (word, .value) :: (_, .terminator) :: rest => leave { p with input := some word } rest
  | none, (word, .value) :: rest => leave { p with input := some word } rest
  | _, words => leave p words

/-- Reads words in turn. The first value that belongs to no option is the input. -/
def consume (p : Progress) (words : List (String × Word)) : Except Stop Progress :=
  match words with
  | [] => .ok p
  | (word, role) :: rest =>
      match role with
      | .option name grouped attached => do
          let g ← (groupOf (nextValue? rest) name grouped attached).mapError .refused
          let p ← p.takeAll g.names
          consume p (if g.usesNext then rest.drop 1 else rest)
      | .unknown => consume { p with extras := p.extras ++ [word] } rest
      | .value =>
          -- Values behind the last option are read together, with a terminator among them.
          if rest.any (isOption ·.2) then
            match p.input with
            | none => consume { p with input := some word } rest
            | some _ => consume { p with extras := p.extras ++ [word] } rest
          else .ok (p.consumeRest words)
      | .terminator => .ok (p.consumeRest words)
termination_by words.length
decreasing_by
  all_goals simp only [List.length_cons]
  · split
    · have := List.length_drop (l := rest) (i := 1)
      omega
    · omega
  all_goals omega

end Progress

def Options.parse (argv : List String) : Except Stop Options := do
  let words ← (classifyAll argv).mapError .refused
  let p ← Progress.start.consume words
  match p.input with
  | none => .error (.refused .inputRequired)
  | some input =>
      if p.extras.isEmpty then
        .ok ⟨input, p.output, p.format, p.tables, p.verbose, p.log⟩
      else .error (.refused (.unrecognized p.extras))

end CommandLine
end HidDescriptor
