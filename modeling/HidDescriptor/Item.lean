import HidDescriptor.Payload

/-!
# Items

A report descriptor is a sequence of items. An item has a name, a tag and a type.

- `ItemType`: main, global and local items
- `Item`, `Item.catalog`, `Item.byName?`: the items of report descriptors
- `Item.title`: the name of an item in listings
-/

namespace HidDescriptor

inductive ItemType
  | main
  | global
  | local
  deriving DecidableEq, Repr

namespace ItemType

/-- The type field of a header. -/
def code : ItemType → Int
  | main => 0
  | global => 1
  | «local» => 2

def label : ItemType → String
  | main => "MAIN"
  | global => "GLOBAL"
  | «local» => "LOCAL"

end ItemType

/-- An item by name, with its tag and its type field. Only the lowest four bits of the tag and the
lowest two of the type are emitted. -/
structure Item where
  name : String
  tag : Int
  type : Int
  deriving DecidableEq, Repr

namespace Item

/-! ## The catalog -/

def family (type : ItemType) (names : List (String × Int)) : List (ItemType × Item) :=
  names.map fun (name, tag) => (type, ⟨name, tag, type.code⟩)

def mainItems : List (ItemType × Item) :=
  family .main
    [("input", 8), ("output", 9), ("feature", 11), ("collection", 10), ("end_collection", 12)]

def globalItems : List (ItemType × Item) :=
  family .global
    [("usage_page", 0), ("logical_minimum", 1), ("logical_maximum", 2), ("physical_minimum", 3),
      ("physical_maximum", 4), ("unit_exponent", 5), ("unit", 6), ("report_size", 7),
      ("report_id", 8), ("report_count", 9), ("push", 10), ("pop", 11)]

def localItems : List (ItemType × Item) :=
  family .local
    [("usage", 0), ("usage_minimum", 1), ("usage_maximum", 2), ("designator_index", 3),
      ("designator_minimum", 4), ("designator_maximum", 5), ("string_index", 7),
      ("string_minimum", 8), ("string_maximum", 9), ("delimiter", 10)]

def catalog : List (ItemType × Item) :=
  mainItems ++ globalItems ++ localItems

def find? (name : String) : Option (ItemType × Item) :=
  catalog.find? fun entry => entry.2.name == name

def byName? (name : String) : Option Item :=
  (find? name).map (·.2)

/-! ## Titles -/

/-- A word of a title: `id` in capitals, any other with a capital first letter only. Item names are
ASCII. -/
def titleWord (word : List Char) : List Char :=
  if word = ['i', 'd'] then ['I', 'D']
  else
    match word with
    | [] => []
    | c :: rest => c.toUpper :: rest.map Char.toLower

/-- The name of an item in listings: its words, parted by blanks. -/
def title (item : Item) : String :=
  String.ofList ((item.name.toList.splitOn '_').map titleWord |>.intersperse [' '] |>.flatten)

end Item
end HidDescriptor
