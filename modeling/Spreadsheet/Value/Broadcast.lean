import Spreadsheet.Value.Order

/-! Scalar operations lifted over areas. Each argument is a grid with its own corner, a scalar
one of a single cell. The result is as tall as the tallest and as wide as the widest of them,
and each of its cells takes from every argument what is seen at the same offset from its corner:
single rows and columns repeat, and past the edge of a smaller area there is `#VALUE!`.
-/

namespace Spreadsheet

/-- The grid of an argument. -/
structure Extent where
  origin : Position
  height : Nat
  width : Nat
  deriving DecidableEq, Repr

/-- The grid of a value; all values but areas are a single cell at the current one. -/
def Value.extent (here : Position) : Value → Extent
  | area a => ⟨a.origin, a.height, a.width⟩
  | _ => ⟨here, 1, 1⟩

/-- What is seen of an argument at an offset from its corner. -/
def Value.seenAt (here : Position) (argument : Value) (row col : Nat) : Except CellError Value :=
  let corner := (argument.extent here).origin
  if rowLimit ≤ corner.row + row || columnLimit ≤ corner.col + col then .error .value
  else argument.resolve ⟨corner.row + row, corner.col + col⟩

namespace Broadcast

variable {m : Type → Type} [Monad m] [MonadExceptOf OperationError m]

/-- Computes the cells of a result row by row. A single cell is a scalar, more than
`Value.maxCells` of them are `#NUM!` and are not computed, and others make an area whose corner
is the current cell.
-/
def collect (here : Position) (height width : Nat) (cell : Nat → Nat → m Value) : m Value := do
  if height = 1 && width = 1 then cell 0 0
  else if Value.maxCells < height * width then return .error .num
  else
    let rows ← (List.range height).mapM fun row => (List.range width).mapM fun col => cell row col
    match Area.ofRows here rows with
    | .ok a => return .area a
    | .error e => throw (.area e)

/-- Lifts an operation on two scalars, neither of them an error; a cell for which an argument
shows an error holds that error, the left one first.
-/
def lift₂ (here : Position) (left right : Value) (f : Value → Value → m Value) : m Value :=
  let l := left.extent here
  let r := right.extent here
  collect here (max l.height r.height) (max l.width r.width) fun row col =>
    match left.seenAt here row col, right.seenAt here row col with
    | .error e, _ => return .error e
    | _, .error e => return .error e
    | .ok x, .ok y => f x y

/-- Lifts an operation on one scalar, which may be an error. -/
def lift₁ (here : Position) (argument : Value) (f : Value → m Value) : m Value :=
  let extent := argument.extent here
  collect here extent.height extent.width fun row col =>
    f (.ofExcept (argument.seenAt here row col))

end Broadcast

end Spreadsheet
