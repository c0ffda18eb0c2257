import HidDescriptor.Function
import HidDescriptor.Table.Standard.Keyboard
import HidDescriptor.Table.Standard.Led

/-!
# Standard tables

The lookup tables that every compilation starts from: usage pages, collections and flags of
HID 1.11, and the usages of the common pages.

- `Table.Standard.usagePages`, `collections`, `flags`, `button`, `genericDesktop`: table content
- `Tables.standard`: all of it
-/

namespace HidDescriptor
namespace Table
namespace Standard

/-- The usage pages. The keypad shares the page of the keyboard. -/
def usagePages : List Directive :=
  [.startAt 0x01] ++
  Directive.names
      ["generic_desktop", "simulation", "vr", "sport_controls", "game", "generic_device",
        "keyboard"] ++
  [.alias "keypad"] ++
  Directive.names
      ["led", "button", "ordinal", "telephony_device", "consumer", "digitizers", "haptics",
        "physical_input_device", "reserved"]

def collections : List Directive :=
  Directive.names
      ["physical", "application", "logical", "report", "named_array", "usage_switch",
        "usage_modifier", "reserved"]

/-- The bits of input, output and feature items, by long and by short names. The names of value
zero are the defaults. -/
def flags : List (String × Int) :=
  [("data", 0x000), ("constant", 0x001), ("array", 0x000), ("variable", 0x002),
    ("absolute", 0x000), ("relative", 0x004), ("no_wrap", 0x000), ("wrap", 0x008),
    ("linear", 0x000), ("nonlinear", 0x010), ("preferred_state", 0x000), ("no_preferred", 0x020),
    ("no_null_position", 0x000), ("null_state", 0x040), ("non_volatile", 0x000),
    ("volatile", 0x080), ("bit_field", 0x000), ("buffered_bytes", 0x100), ("reserved", 0x200),
    ("cnst", 0x001), ("arr", 0x000), ("var", 0x002), ("abs", 0x000), ("rel", 0x004),
    ("nonlin", 0x010), ("nopref", 0x020), ("null", 0x040), ("vol", 0x080), ("buff", 0x100)]

/-- Buttons have numbers and no names. -/
def button : List Directive :=
  []

/-- The usages of page 0x01. -/
def genericDesktop : List Directive :=
  [.startAt 0x01] ++
  Directive.names ["pointer", "mouse"] ++
  [.skip 1] ++
  Directive.names
      ["joystick", "gamepad", "keyboard", "keypad", "multiaxis_controller",
        "tablet_pc_system_controls", "water_cooling_device", "computer_chassis_device",
        "wireless_radio_controls", "portable_device_control", "system_multiaxis_controller",
        "spatial_controller", "assistive_control", "device_dock", "dockable_device",
        "call_state_management_control"] ++
  [.startAt 0x30] ++
  Directive.names ["x", "y", "z"]

def enumerated (directives : List Directive) : Table :=
  match Enumeration.build directives 0 with
  | .ok table => table
  | .error _ => .empty

end Standard
end Table

def Tables.standard : Tables where
  usagePages := Table.Standard.enumerated Table.Standard.usagePages
  usages := .ofList
    [("button", Table.Standard.enumerated Table.Standard.button),
      ("generic_desktop", Table.Standard.enumerated Table.Standard.genericDesktop),
      ("keyboard", Table.Standard.enumerated Table.Standard.keyboard),
      ("led", Table.Standard.enumerated Table.Standard.led)]
  collections := Table.Standard.enumerated Table.Standard.collections
  flags := .ofList Table.Standard.flags

end HidDescriptor
