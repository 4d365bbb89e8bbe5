import Std.Data.HashMap
import Spreadsheet.Book.Mutation
import Spreadsheet.Text.Case
import Spreadsheet.Unicode.Alphabetic

/-! Defined names: identifiers that stand for formula text, in the whole workbook or on one
sheet. Case makes no difference between names.
-/

namespace Spreadsheet

/-- Where a defined name is visible. -/
inductive Scope where
  | workbook
  | sheet (index : Nat)
  deriving DecidableEq, Hashable, Repr

/-- A name as it was spelled, and the text it stands for without an equals sign. -/
structure DefinedName where
  name : String
  scope : Scope
  refersTo : String
  deriving DecidableEq, Repr

/-- Why a name cannot be defined. -/
inductive DefinedNameError where
  | malformed (name : String)
  | duplicate (name : String)
  deriving DecidableEq, Repr

/-- The wording of a name error. -/
def DefinedNameError.message : DefinedNameError → String
  | .malformed name => s!"Invalid defined name: {name}"
  | .duplicate name => s!"Invalid defined name: '{name}' is already defined in this scope"

namespace DefinedName

/-- A definition; one equals sign in front of the text is dropped. -/
def ofText (name text : String) (scope : Scope) : DefinedName :=
  let refersTo := match text.toList with
    | '=' :: rest => String.ofList rest
    | _ => text
  { name, scope, refersTo }

/-- The formula that the name stands for. -/
def formula (d : DefinedName) : String :=
  "=" ++ d.refersTo

/-- A name starts with a letter, `_` or a backslash, goes on with letters, numbers, `_` and
points, and is no truth value.
-/
def isValid (name : String) : Bool :=
  match name.toList with
  | [] => false
  | first :: rest =>
    (Unicode.isAlphabetic first || first = '_' || first = '\\')
      && rest.all (fun c => Unicode.isAlphanumeric c || c = '_' || c = '.')
      && (Text.boolean? name).isNone

end DefinedName

/-- The defined names of a workbook, by their lower case and scope. -/
structure NameTable where
  entries : Std.HashMap (String × Scope) DefinedName

namespace NameTable

/-- The table without names. -/
def empty : NameTable :=
  ⟨∅⟩

/-- The key that all spellings of a name share. -/
def key (name : String) (scope : Scope) : String × Scope :=
  (Text.lower name, scope)

/-- Refuses a definition whose name is malformed or taken in its scope. -/
def checkNew (table : NameTable) (d : DefinedName) : Except DefinedNameError Unit :=
  if !DefinedName.isValid d.name then .error (.malformed d.name)
  else if table.entries.contains (key d.name d.scope) then .error (.duplicate d.name)
  else .ok ()

/-- Adds a definition in place. -/
def InPlace.define (d : DefinedName) : Mutation DefinedNameError NameTable Unit := do
  (← get).checkNew d
  modify fun table => ⟨table.entries.insert (key d.name d.scope) d⟩

/-- The table with a definition added. -/
def define (table : NameTable) (d : DefinedName) : Except DefinedNameError NameTable :=
  (InPlace.define d).result table

/-- The definition of a name in one scope. -/
def find? (table : NameTable) (name : String) (scope : Scope) : Option DefinedName :=
  table.entries[key name scope]?

/-- The definition of a name as seen from a sheet, whose own names come first. -/
def get? (table : NameTable) (name : String) (sheet : Nat) : Option DefinedName :=
  (table.find? name (.sheet sheet)).or (table.find? name .workbook)

/-- The table without a name in one scope. -/
def erase (table : NameTable) (name : String) (scope : Scope) : NameTable :=
  ⟨table.entries.erase (key name scope)⟩

/-- Removes a name from a scope, and tells what it was defined as there. -/
def remove (table : NameTable) (name : String) (scope : Scope) : Option DefinedName × NameTable :=
  (table.find? name scope, table.erase name scope)

/-- All definitions, in no particular order. -/
def toList (table : NameTable) : List DefinedName :=
  table.entries.values

/-- Number of definitions. -/
def size (table : NameTable) : Nat :=
  table.entries.size

end NameTable

end Spreadsheet
