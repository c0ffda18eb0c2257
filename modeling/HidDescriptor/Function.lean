import HidDescriptor.Item
import HidDescriptor.ItemState

/-!
# Functions of the source language

Each function of the source stands for one item. A call is turned into the payload of that item
and a change of the item state.

- `Tables`: the lookup tables that arguments refer to
- `Function`, `Function.ofName?`: the functions
- `Update`, `Outcome`: what a call yields
- `Function.call`: the meaning of a call
- `ItemState.apply`: the change that an outcome makes
-/

namespace HidDescriptor

/-! ## Tables -/

/-- The lookup tables. Usages have a table for each usage page. -/
structure Tables where
  usagePages : Table
  usages : Dictionary Table
  collections : Table
  flags : Table
  deriving DecidableEq

namespace Tables

def empty : Tables := ⟨.empty, .empty, .empty, .empty⟩

instance : Inhabited Tables := ⟨empty⟩

end Tables

/-! ## Outcomes -/

/-- How an item changes the item state. -/
inductive Update
  | keep
  | setGlobal
  | clearGlobal
  | openScope
  | closeScope
  deriving DecidableEq, Repr

/-- What a call yields: a payload, a change of the state, and the value it is about. -/
structure Outcome where
  payload : Payload
  update : Update
  value : Datum

namespace Outcome

/-- A payload that leaves the state alone. -/
def plain (payload : Payload) : Outcome := ⟨payload, .keep, .null⟩

end Outcome

namespace ItemState

def applyUpdate (state : ItemState) (item : Item) (update : Update) (value : Datum) :
    Except Fault ItemState :=
  match update with
  | .keep => .ok state
  | .setGlobal => .ok (state.setGlobal item.name value)
  | .clearGlobal => .ok (state.setGlobal item.name .null)
  | .openScope => .ok state.openScope
  | .closeScope => state.closeScope.map (·.2)

/-- Whether an item records its value in the innermost scope: every item that is not global and
has a value does. -/
def records (item : Item) (value : Datum) : Bool :=
  item.type != ItemType.global.code &&
    match value with
    | .null => false
    | _ => true

/-- Makes the change of an outcome. The value is recorded after the change, so a fault there leaves
the change in place. -/
def apply (state : ItemState) (item : Item) (outcome : Outcome) : ItemState × Except Fault Unit :=
  match state.applyUpdate item outcome.update outcome.value with
  | .error fault => (state, .error fault)
  | .ok state =>
      if records item outcome.value then
        match state.recordLocal item.name outcome.value with
        | .error fault => (state, .error fault)
        | .ok state => (state, .ok ())
      else (state, .ok ())

end ItemState

/-! ## Functions -/

inductive Function
  | usagePage
  | usage
  | usageMinimum
  | usageMaximum
  | logicalMinimum
  | logicalMaximum
  | physicalMinimum
  | physicalMaximum
  | reportSize
  | reportCount
  | reportId
  | input
  | output
  | feature
  | collection
  | endCollection
  deriving DecidableEq, Repr

namespace Function

/-- The name of a function, which is also the name of its item. -/
def name : Function → String
  | usagePage => "usage_page"
  | usage => "usage"
  | usageMinimum => "usage_minimum"
  | usageMaximum => "usage_maximum"
  | logicalMinimum => "logical_minimum"
  | logicalMaximum => "logical_maximum"
  | physicalMinimum => "physical_minimum"
  | physicalMaximum => "physical_maximum"
  | reportSize => "report_size"
  | reportCount => "report_count"
  | reportId => "report_id"
  | input => "input"
  | output => "output"
  | feature => "feature"
  | collection => "collection"
  | endCollection => "end_collection"

def all : List Function :=
  [usagePage, usage, usageMinimum, usageMaximum, logicalMinimum, logicalMaximum, physicalMinimum,
    physicalMaximum, reportSize, reportCount, reportId, input, output, feature, collection,
    endCollection]

def ofName? (name : String) : Option Function :=
  all.find? (·.name == name)

/-! ## Arguments -/

def oneArgument (name : String) : List String → Except Fault String
  | [arg] => .ok arg
  | args => .error (.ofCause (.argumentCount name args.length))

/-- The payload of a literal or of a name of a table. -/
def symbol (name : String) (table : Table) (arg : String) : Except Fault Payload := do
  match ← Payload.resolve (some table) arg none with
  | some payload => .ok payload
  | none => .error (.ofCause (.undefinedSymbol arg name))

/-- The name under which the state holds the usage page. -/
def pageName : String := usagePage.name

/-- The page whose usages a page has: the keypad has those of the keyboard. -/
def usagesPage : Datum → Datum
  | .text page => .text (if page = "keypad" then "keyboard" else page)
  | page => page

def usageTable (state : ItemState) (tables : Tables) (name : String) : Except Fault Table :=
  match state.current? pageName with
  | none => .error (.ofCause (.missingUsagePage name))
  | some page =>
      let page := usagesPage page
      -- Tables are found by the argument that set the page, and a number is no name of a page.
      let table :=
        match page with
        | .text page => tables.usages.get? page
        | _ => none
      match table with
      | some table => .ok table
      | none => do
          let shown ← page.display
          .error (.ofCause (.missingUsageTable shown))

/-! ## Calls -/

/-- Sets the usage page. The state keeps the argument, by which usages find their table. -/
def callUsagePage (tables : Tables) (name : String) (args : List String) : Except Fault Outcome := do
  let page ← oneArgument name args
  let payload ← symbol name tables.usagePages page
  .ok ⟨payload, .setGlobal, .text page⟩

/-- A usage of the current page, or an end of a range of them. -/
def callUsage (state : ItemState) (tables : Tables) (name : String) (args : List String) :
    Except Fault Outcome := do
  let arg ← oneArgument name args
  let table ← usageTable state tables name
  let payload ← symbol name table arg
  .ok (.plain payload)

def callNumber (name : String) (args : List String) : Except Fault Outcome := do
  let arg ← oneArgument name args
  match ← Literal.read arg with
  | none => .error (.ofCause (.notNumeric arg name))
  | some value => (Payload.encode value none true).map .plain

def callCount (name : String) (args : List String) : Except Fault Outcome := do
  let arg ← oneArgument name args
  match ← Literal.read arg with
  | none => .error (.ofCause (.notNumeric arg name))
  | some value =>
      -- A negative count is refused in the words for an argument that is no number.
      if value < 0 then .error (.ofCause (.notNumeric arg name))
      else (Payload.encode value none false).map .plain

/-- A report identifier, which is never zero. -/
def callReportId (name : String) (args : List String) : Except Fault Outcome := do
  let arg ← oneArgument name args
  match ← Literal.read arg with
  | none => .error (.ofCause (.reportIdRange arg))
  | some value =>
      -- The range leaves no width to choose: the payload is one byte.
      if 1 ≤ value && value ≤ 0xFF then .ok (.plain [value])
      else .error (.ofCause (.reportIdRange arg))

def unknownFlag (table : Table) (flags : List String)
    (h : Payload.composeFlags table flags = none) : String :=
  (flags.find? (!table.contains ·)).get (Payload.isSome_find?_of_composeFlags_eq_none h)

/-- The union of flags. The first unknown one is named. -/
def callFlags (tables : Tables) (name : String) (args : List String) : Except Fault Outcome :=
  match h : Payload.composeFlags tables.flags args with
  | some value => (Payload.encode value none false).map .plain
  | none => .error (.ofCause (.undefinedSymbol (unknownFlag tables.flags args h) name))

/-- Opens a collection. The scope records the argument. -/
def callCollection (tables : Tables) (name : String) (args : List String) :
    Except Fault Outcome := do
  let kind ← oneArgument name args
  let payload ← symbol name tables.collections kind
  .ok ⟨payload, .openScope, .text kind⟩

def callEndCollection (name : String) (args : List String) : Except Fault Outcome :=
  if args.isEmpty then .ok ⟨[], .closeScope, .null⟩
  else .error (.ofCause (.unwantedArguments name))

def call (f : Function) (state : ItemState) (tables : Tables) (args : List String) :
    Except Fault Outcome :=
  match f with
  | usagePage => callUsagePage tables f.name args
  | usage | usageMinimum | usageMaximum => callUsage state tables f.name args
  | logicalMinimum | logicalMaximum | physicalMinimum | physicalMaximum => callNumber f.name args
  | reportSize | reportCount => callCount f.name args
  | reportId => callReportId f.name args
  | input | output | feature => callFlags tables f.name args
  | collection => callCollection tables f.name args
  | endCollection => callEndCollection f.name args

end Function
end HidDescriptor
