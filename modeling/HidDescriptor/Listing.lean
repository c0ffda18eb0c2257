import HidDescriptor.Session

/-!
# Listings

A compiled descriptor as text: one line for each item with its bytes in hexadecimal and a
description in a comment. Descriptions are indented by the number of open collections.

- `Listing.Format`: the annotated form, and the form that is content of a C array
- `Listing.describe`: the description of an item
- `Listing.line`, `Listing.linesFrom`: one line, and the lines one by one
- `Listing.print`: the whole listing
-/

namespace HidDescriptor
namespace Listing

inductive Format
  /-- Bytes, then offset and description after `//`. -/
  | annotated
  /-- Bytes, then the description as a C comment. -/
  | array
  deriving DecidableEq, Repr

namespace Format

def name : Format → String
  | annotated => "default"
  | array => "kernel"

def all : List Format := [annotated, array]

def ofName (name : String) : Except Fault Format :=
  match all.find? (·.name == name) with
  | some format => .ok format
  | none => .error (.listingFormat name)

end Format

def padRight (width : Nat) (s : String) : String :=
  s ++ String.ofList (List.replicate (width - s.length) ' ')

def rawValues (bytes : List UInt8) : String :=
  " ".intercalate (bytes.map fun b => "0x" ++ Numeral.hexadecimal 2 b.toNat ++ ",")

/-- The description of an item at an indentation, and the indentation of the next one. A collection
indents what follows it; its end stands where the collection stands. -/
def describe (item : Item) (args : List String) (indent : Int) : String × Int :=
  let text :=
    if args.isEmpty then item.title else item.title ++ " (" ++ ", ".intercalate args ++ ")"
  -- An end without a collection stands at the margin.
  let own := if item.name = "end_collection" then max (indent - 1) 0 else indent
  let next := if item.name = "collection" then indent + 1 else own
  (String.ofList (List.replicate own.toNat ' ') ++ text, next)

/-- Tabs that fill a text up to a column, eight columns each. -/
def tabs (column : Nat) (s : String) : String :=
  String.ofList (List.replicate ((column - s.length) / 8) '\t')

def line (format : Format) (bytes : List UInt8) (offset : Nat) (description : String) : String :=
  let raw := rawValues bytes
  match format with
  | .annotated =>
      padRight 18 raw ++ " // " ++ Numeral.hexadecimal 3 offset ++ ": " ++ description ++ "\n"
  | .array =>
      "\t" ++ raw ++ tabs 40 raw ++ "/* " ++ description ++ tabs 52 description ++ "*/\n"

/-- The lines of records from an offset and an indentation on, each of them made when those in front
are done. A record without bytes ends them with its fault. -/
def linesFrom (format : Format) (offset : Nat) (indent : Int) :
    List Record → List (Except Fault String)
  | [] => []
  | r :: rest =>
      match r.bytes with
      | .error fault => [.error fault]
      | .ok bytes =>
          let (description, next) := describe r.item r.args indent
          .ok (line format bytes offset description) ::
            linesFrom format (offset + bytes.length) next rest

def printFrom (format : Format) (offset : Nat) (indent : Int) (records : List Record) :
    Except Fault String :=
  ((linesFrom format offset indent records).mapM id).map String.join

def print (format : Format) (records : List Record) : Except Fault String :=
  printFrom format 0 0 records

end Listing
end HidDescriptor
