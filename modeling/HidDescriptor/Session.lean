import HidDescriptor.Function
import HidDescriptor.Item.Encoding
import HidDescriptor.SourceLine
import HidDescriptor.Text.LineBreak

/-!
# Compile sessions

A session reads one source, line by line, and collects the items of its calls. The first rejected
line ends it.

- `Record`, `Descriptor`: a compiled item, and a compiled source
- `Session`: tables, item state, the items so far with their bytes, and the phase
- `Session.feed`, `Session.finish`: one line, and the end of the source
- `Session.feedAll`, `compileLines`, `compileText`, `compileFile`: whole sources
-/

namespace HidDescriptor

/-! ## Results -/

/-- A compiled item with the call it came from. -/
structure Record where
  item : Item
  payload : Payload
  args : List String
  line : Int
  deriving DecidableEq, Repr

def Record.bytes (r : Record) : Except Fault (List UInt8) :=
  r.item.encode r.payload

/-- A compiled source: its items in order, and their bytes. -/
structure Descriptor where
  records : List Record
  data : List UInt8
  deriving DecidableEq, Repr

def Descriptor.size (d : Descriptor) : Nat :=
  d.data.length

/-! ## Sessions -/

/-- A compilation under way. -/
structure Session where
  tables : Tables
  state : ItemState
  records : List Record
  data : List UInt8
  phase : Phase

namespace Session

def start (tables : Tables) : Session := ⟨tables, .empty, [], [], .scanning⟩

/-- Ends the session with a fault. Only a rejected source makes it fail. -/
def stop (s : Session) (fault : Fault) : Session × Except Fault Unit :=
  match fault with
  | .compile _ => ({ s with phase := .failed }, .error fault)
  | _ => (s, .error fault)

/-- Makes the change of an outcome without emitting an item. -/
def apply (s : Session) (item : Item) (outcome : Outcome) : Session × Except Fault Unit :=
  let (state, result) := s.state.apply item outcome
  ({ s with state }, result)

/-- Carries out a known function: the payload has to be encodable before the state changes, and
the line number has to be writable before the item is kept. -/
def execute (s : Session) (f : Function) (item : Item) (args : List String) (number : Int)
    (text : String) : Session × Except Fault Unit :=
  match f.call s.state s.tables args with
  | .error fault => s.stop (fault.locate number text)
  | .ok outcome =>
      match item.encode outcome.payload with
      | .error fault => s.stop (fault.locate number text)
      | .ok bytes =>
          match s.apply item outcome with
          | (s, .error fault) => s.stop (fault.locate number text)
          | (s, .ok ()) =>
              if Numeral.printable number then
                ({ s with
                    records := s.records ++ [⟨item, outcome.payload, args, number⟩]
                    data := s.data ++ bytes },
                  .ok ())
              -- The state has changed by now, although no item is kept.
              else (s, .error .longInteger)

def call (s : Session) (c : Call) (number : Int) (text : String) : Session × Except Fault Unit :=
  match Function.ofName? c.name, Item.byName? c.name with
  | some f, some item => s.execute f item c.args number text
  | _, _ =>
      ({ s with phase := .failed },
        .error ((Fault.ofCause (.unknownFunction c.name number)).locate number text))

def feed (s : Session) (line : SourceLine) : Session × Except Fault Unit :=
  match s.phase with
  | .scanning =>
      match line.content with
      | .call c => s.call c line.number line.text
      | _ => (s, .ok ())
  | phase => (s, .error (.closedToLines phase))

/-- Ends the source. Every collection has to be closed. -/
def finish (s : Session) : Session × Except Fault Descriptor :=
  match s.phase with
  | .scanning =>
      match s.state.checkClosed with
      | .error fault => ((s.stop fault).1, .error fault)
      | .ok () => ({ s with phase := .done }, .ok ⟨s.records, s.data⟩)
  | phase => (s, .error (.closedToEnd phase))

/-- Reads lines numbered from `number` on, up to the first that is faulty or rejected. -/
def feedAll (s : Session) (number : Int) : List String → Session × Except Fault Unit
  | [] => (s, .ok ())
  | text :: rest =>
      match SourceLine.parse text number with
      | .error fault => (s, .error fault)
      | .ok line =>
          match s.feed line with
          | (s, .error fault) => (s, .error fault)
          | (s, .ok ()) => feedAll s (number + 1) rest

end Session

/-! ## Whole sources -/

def compileLines (tables : Tables) (lines : List String) : Except Fault Descriptor :=
  match (Session.start tables).feedAll 1 lines with
  | (_, .error fault) => .error fault
  | (s, .ok ()) => s.finish.2

/-- Compiles a text, cut into lines at every line boundary. -/
def compileText (tables : Tables) (text : String) : Except Fault Descriptor :=
  compileLines tables ((Text.splitLines text.toList).map String.ofList)

/-- Compiles the content of a file, cut into lines after each line feed. -/
def compileFile (tables : Tables) (content : String) : Except Fault Descriptor :=
  compileLines tables ((Text.splitAfterFeed content.toList).map String.ofList)

end HidDescriptor
