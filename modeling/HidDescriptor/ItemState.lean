import HidDescriptor.Datum
import HidDescriptor.Dictionary

/-!
# Item state

What the items read so far have set: global values, which stay until changed, and one scope of
local values for each open collection.

- `ItemState`: globals, and the open scopes, the innermost first
- `setGlobal`, `current?`: global values
- `openScope`, `closeScope`, `top`, `recordLocal`: scopes
- `checkClosed`: no scope may be left open
-/

namespace HidDescriptor

abbrev Scope := Dictionary Datum

/-- The state that items set: global values, and the open scopes, the innermost first. -/
structure ItemState where
  globals : Dictionary Datum
  scopes : List Scope

namespace ItemState

def empty : ItemState := ⟨.empty, []⟩

instance : Inhabited ItemState := ⟨empty⟩

/-- Sets a global value. Null clears it. -/
def setGlobal (state : ItemState) (name : String) (value : Datum) : ItemState :=
  match value with
  | .null => { state with globals := state.globals.erase name }
  | value => { state with globals := state.globals.insert name value }

def current? (state : ItemState) (name : String) : Option Datum :=
  state.globals.get? name

def openScope (state : ItemState) : ItemState :=
  { state with scopes := .empty :: state.scopes }

/-- Closes the innermost scope and gives what it held. -/
def closeScope (state : ItemState) : Except Fault (Scope × ItemState) :=
  match state.scopes with
  | [] => .error (.ofCause .unmatchedEnd)
  | scope :: rest => .ok (scope, { state with scopes := rest })

def top (state : ItemState) : Except Fault Scope :=
  match state.scopes with
  | [] => .error (.ofCause .noOpenCollection)
  | scope :: _ => .ok scope

def recordLocal (state : ItemState) (name : String) (value : Datum) : Except Fault ItemState :=
  match state.scopes with
  | [] => .error (.ofCause .noOpenCollection)
  | scope :: rest => .ok { state with scopes := scope.insert name value :: rest }

def depth (state : ItemState) : Nat :=
  state.scopes.length

def collectionName : String := "collection"

/-- The kind of collection that a scope belongs to, as shown in messages. -/
def scopeLabel (scope : Scope) : Except Fault String :=
  match scope.get? collectionName with
  | some value => value.display
  | none => .ok "?"

def checkClosed (state : ItemState) : Except Fault Unit :=
  if state.scopes.isEmpty then .ok ()
  else do
    -- The message names the outermost collection first.
    let names ← state.scopes.reverse.mapM scopeLabel
    .error (.ofCause (.unterminated names))

end ItemState
end HidDescriptor
