import Spreadsheet.Cell.Content
import Spreadsheet.Value.Area

/-! Values that formulas compute with: scalars, areas of values, and unions of areas. -/

namespace Spreadsheet

/-- A value. -/
inductive Value where
  | number (value : Float)
  | text (value : String)
  | boolean (value : Bool)
  | error (e : CellError)
  /-- What an empty cell holds. -/
  | blank
  /-- An argument that was left out, as in `IF(A1,,1)`. -/
  | missing
  | area (area : Area Value)
  | union (areas : List (Area Value))

namespace Area

/-- The value at an offset from the corner, if the area covers it; cells outside the block are
blank.
-/
def relative? (a : Area Value) (row col : Nat) : Option Value :=
  if row < a.height && col < a.width then some ((a.stored? row col).getD .blank) else none

/-- The value at a position, if the area covers it. -/
def absolute? (a : Area Value) (p : Position) : Option Value :=
  if a.containsRow p.row && a.containsCol p.col then
    a.relative? (p.row - a.origin.row) (p.col - a.origin.col)
  else
    none

/-- The value at an index, counting all cells row by row. -/
def valueAt (a : Area Value) (index : Nat) : Value :=
  (a.stored? (index / a.width) (index % a.width)).getD .blank

/-- At most `count` of the cells covered with their positions, row by row. -/
def firstEntries (a : Area Value) (count : Nat) : List (Position × Value) :=
  (List.range (min count a.cellCount)).map fun index => (a.positionAt index, a.valueAt index)

/-- All cells covered with their positions, row by row. -/
def entries (a : Area Value) : List (Position × Value) :=
  a.firstEntries a.cellCount

/-- What an area shows at an offset is smaller than the area. -/
theorem sizeOf_stored_lt (a : Area Value) (row col : Nat)
    : sizeOf ((a.stored? row col).getD .blank) < sizeOf (Value.area a) := by
  cases h : a.stored? row col with
  | none =>
    cases a
    simp only [Option.getD_none, Value.blank.sizeOf_spec, Value.area.sizeOf_spec,
      Area.mk.sizeOf_spec]
    omega
  | some v =>
    have := Array.sizeOf_lt_of_mem (mem_of_stored? h)
    cases a
    simp at this ⊢
    omega

/-- The value at an index is smaller than the area. -/
theorem sizeOf_valueAt_lt (a : Area Value) (index : Nat)
    : sizeOf (a.valueAt index) < sizeOf (Value.area a) :=
  sizeOf_stored_lt a _ _

/-- A value at an offset is smaller than the area. -/
theorem sizeOf_lt_of_relative? {a : Area Value} {row col : Nat} {v : Value}
    (h : a.relative? row col = some v)
    : sizeOf v < sizeOf (Value.area a) := by
  unfold relative? at h
  split at h
  · cases h
    exact sizeOf_stored_lt a row col
  · cases h

/-- A value at a position is smaller than the area. -/
theorem sizeOf_lt_of_absolute? {a : Area Value} {p : Position} {v : Value}
    (h : a.absolute? p = some v)
    : sizeOf v < sizeOf (Value.area a) := by
  unfold absolute? at h
  split at h
  · exact sizeOf_lt_of_relative? h
  · cases h

end Area

namespace Value

/-- The most cells that an area may be made of; beyond it only blocks of areas are read. -/
def maxCells : Nat := 0x100000

/-- The value is an error. -/
def isError : Value → Bool
  | error _ => true
  | _ => false

/-- The error that a value is. -/
def error? : Value → Option CellError
  | error e => some e
  | _ => none

/-- The value fits into one cell. -/
def isScalar : Value → Bool
  | area _ => false
  | union _ => false
  | _ => true

/-- The kind of a value in diagnostics. -/
def kind : Value → String
  | number _ => "number"
  | text _ => "text"
  | boolean _ => "boolean"
  | error _ => "error"
  | blank => "blank"
  | missing => "missing argument"
  | area _ => "area"
  | union _ => "union"

/-- A result of `Except CellError` as a value. -/
def ofExcept : Except CellError Value → Value
  | .ok value => value
  | .error e => error e

/-- What a formula sees of a cell. NaN cannot be compared or computed with. -/
def ofContent (content : Content) : Value :=
  match content.effective with
  | .number value => if value.isNaN then error .num else number value
  | .text value => text value
  | .boolean value => boolean value
  | .error e => error e
  | _ => blank

/-- What a cell holds once a value is stored in it. -/
def toContent : Value → Content
  | number value => .number value
  | text value => .text value
  | boolean value => .boolean value
  | error e => .error e
  | blank => .empty
  | missing => .empty
  | area _ => .error .value
  | union _ => .error .value

/-- Values are equal if they look equal at every cell: numbers as `==` has it, areas by place,
extent and cells, stored or not.
-/
def beq : Value → Value → Bool
  | number x, number y => x == y
  | text x, text y => x == y
  | boolean x, boolean y => x == y
  | error x, error y => x == y
  | blank, blank => true
  | missing, missing => true
  | area a, area b =>
    a.origin == b.origin && a.height == b.height && a.width == b.width
      && a.cellCount.all fun index _ => beq (a.valueAt index) (b.valueAt index)
  | union as, union bs =>
    as.length == bs.length
      && (as.attach.zip bs).all fun (⟨a, _⟩, b) => beq (area a) (area b)
  | _, _ => false
termination_by value => sizeOf value
decreasing_by
  · exact Area.sizeOf_valueAt_lt a index
  · have := List.sizeOf_lt_of_mem ‹a ∈ as›
    simp
    omega

instance : BEq Value := ⟨beq⟩

end Value

end Spreadsheet
