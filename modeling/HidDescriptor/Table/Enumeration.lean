import HidDescriptor.Datum
import HidDescriptor.Payload
import HidDescriptor.Text.LowerCase

/-!
# Tables from data

An enumeration is a list of directives that hands out consecutive codes to names. A flag table
maps names to codes directly.

- `Directive`, `Directive.ofDatum`: the directives and their form in table files
- `Enumeration`, `Enumeration.step`, `Enumeration.build`: the codes that directives hand out
- `Table.ofFlags`, `Table.ofDatum`: tables from data
-/

namespace HidDescriptor

/-! ## Directives -/

/-- A step of an enumeration. -/
inductive Directive
  /-- A name for the next code. -/
  | assign (name : String)
  /-- Leaves codes unassigned. -/
  | skip (count : Int)
  /-- A further name for the latest code. -/
  | alias (name : String)
  /-- Continues from the given code. -/
  | startAt (index : Int)
  deriving DecidableEq, Repr

/-- The fault of a table cause. Its wording has to be written out, so a count that is too long to
write is the fault instead. -/
def Fault.ofTableCause (cause : TableCause) : Fault :=
  match cause with
  | .negativeSkip count => if Numeral.printable count then .table cause else .longInteger
  | cause => .table cause

/-- A name as tables keep it: without the blanks around it, in lower case. -/
def Table.nameOf (s : String) : String :=
  String.ofList (Text.lower (Text.trim s.toList))

namespace Directive

/-- Directives that assign names to consecutive codes. -/
def names (list : List String) : List Directive :=
  list.map .assign

def indexOf (directive : String) (operand : Datum) : Except Fault Int := do
  match ← operand.index? with
  | some n => .ok n
  | none =>
      let shown ← operand.quote
      .error (.table (.invalidIndex directive shown))

def refuse (raw : Datum) : Except Fault Directive := do
  let shown ← raw.quote
  .error (.table (.invalidDirective shown))

/-- The directive of one entry of a table file: a name, or a mapping of one of the words `skip`,
`alias` and `start` to its operand. -/
def ofDatum (raw : Datum) : Except Fault Directive :=
  match raw with
  | .text s => .ok (.assign (Table.nameOf s))
  | .map [(.text key, operand)] =>
      if key = "skip" then
        match operand with
        -- The word alone leaves out a single code.
        | .null => .ok (.skip 1)
        | operand => do
            let n ← indexOf key operand
            .ok (.skip n)
      else if key = "alias" then do
        let s ← operand.display
        .ok (.alias (Table.nameOf s))
      else if key = "start" then do
        let n ← indexOf key operand
        .ok (.startAt n)
      else refuse raw
  | raw => refuse raw

end Directive

/-! ## Enumerations -/

/-- An enumeration under way: the next code, the latest assigned code, and the names so far. -/
structure Enumeration where
  next : Int
  latest : Option Int
  table : Table
  deriving DecidableEq, Repr

namespace Enumeration

def start (index : Int) : Enumeration := ⟨index, none, .empty⟩

def put (table : Table) (name : String) (value : Int) : Except Fault Table :=
  if table.contains name then .error (.table (.duplicateName name value))
  else .ok (table.insert name value)

def step (e : Enumeration) : Directive → Except Fault Enumeration
  | .assign name => do
      let table ← put e.table name e.next
      .ok ⟨e.next + 1, some e.next, table⟩
  | .skip count =>
      -- The latest code stays, so an alias behind a gap is one for the code in front of it.
      if count < 0 then .error (.ofTableCause (.negativeSkip count))
      else .ok { e with next := e.next + count }
  | .alias name =>
      match e.latest with
      | none => .error (.table (.aliasFirst name))
      | some code => do
          let table ← put e.table name code
          .ok { e with table }
  | .startAt index =>
      if index < e.next then .error (.table (.startBelow index e.next))
      else .ok { e with next := index }

/-- Carries out entries in turn, each read only when the ones before it have been carried out. -/
def runEntries {α : Type} (read : α → Except Fault Directive) (e : Enumeration) :
    List α → Except Fault Enumeration
  | [] => .ok e
  | entry :: rest => do
      let directive ← read entry
      let e ← e.step directive
      runEntries read e rest

def buildFrom {α : Type} (read : α → Except Fault Directive) (entries : List α) (index : Int) :
    Except Fault Table :=
  (runEntries read (start index) entries).map (·.table)

def build (directives : List Directive) (index : Int) : Except Fault Table :=
  buildFrom .ok directives index

end Enumeration

/-! ## Tables -/

namespace Table

/-- Enters the pairs of a mapping as flags. Later pairs of one name replace earlier ones. -/
def enterFlags (table : Table) : List (Datum × Datum) → Except Fault Table
  | [] => .ok table
  | (key, value) :: rest =>
      match value with
      | .int n =>
          if n < 0 then refuseFlag key value
          else do
            let name ← key.display
            enterFlags (table.insert (nameOf name) n) rest
      | value => refuseFlag key value
where
  /-- A flag without a natural number. -/
  refuseFlag (key value : Datum) : Except Fault Table := do
    let name ← key.display
    let shown ← value.quote
    .error (.table (.invalidFlag name shown))

def ofFlags (raw : Datum) : Except Fault Table :=
  match raw with
  | .map pairs => enterFlags .empty pairs
  | raw => .error (.table (.flagsNotMapping raw.typeName))

def inFile (file : String) : Fault → Fault
  | .table cause => .table (.inFile file cause)
  | fault => fault

/-- The table of the content of a file: nothing, a flag mapping, or an enumeration from zero. -/
def ofDatum (raw : Datum) (file : String) : Except Fault Table :=
  match raw with
  | .null => .ok .empty
  | .map pairs => ofFlags (.map pairs)
  | .list entries => (Enumeration.buildFrom Directive.ofDatum entries 0).mapError (inFile file)
  | _ => .error (.table (.notATable file))

end Table
end HidDescriptor
