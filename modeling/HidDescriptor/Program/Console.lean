import HidDescriptor.Listing
import HidDescriptor.Log
import HidDescriptor.Program.Columns
import HidDescriptor.Text.Blank

/-!
# The console

How the messages of a run are laid out on the console.

- `isDropped`, `expandTabs`: characters that the console treats specially
- `consoleLines`: the lines of a message
-/

namespace HidDescriptor
namespace Program

/-- Whether the console drops a character: bell, backspace, vertical tab, form feed and carriage
return. -/
def isDropped (c : Char) : Bool :=
  let n := c.toNat
  n == 0x07 || n == 0x08 || (0x0B ≤ n && n ≤ 0x0D)

/-- Replaces tabs by blanks up to the next multiple of eight columns, from a column on. -/
def expandTabs (column : Nat) : List Char → List Char
  | [] => []
  | c :: rest =>
      if c = '\t' then
        let width := 8 - column % 8
        List.replicate width ' ' ++ expandTabs (column + width) rest
      else c :: expandTabs (column + columns c) rest

def levelWidth : Nat := 10

/-- The lines of a message on the console: the level in front of the first, blanks in front of the
others, and no blanks at the ends. -/
def consoleLines (entry : Log.Entry) : List String :=
  let lines := ((entry.message.toList.filter (!isDropped ·)).splitOn '\n').map (expandTabs 0)
  let labels := (Listing.padRight levelWidth entry.level.label).toList ::
    List.replicate (lines.length - 1) (List.replicate levelWidth ' ')
  (labels.zip lines).map fun (label, line) => String.ofList (Text.trimRight (label ++ line))

end Program
end HidDescriptor
