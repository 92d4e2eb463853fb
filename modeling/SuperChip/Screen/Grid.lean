import SuperChip.Attempt
import SuperChip.Screen.Sprite

/-!
# Grids

The picture that a host draws on is a row of cells together with a size that says how the row is
read. The size is taken over before there are cells for it, so that a failure in between leaves a
size which the cells do not fit; the operations then go on as far as there are cells.

- `Grid`: a size and a row of cells, whether they fit together or not; `Screen.grid` is that of a
  screen.
- `Grid.Failure`: how an operation on a grid fails.
- `Grid.get`, `set`, `toggle`, `draw`: the cells under coordinates.
- `Grid.splice`: other cells in place of a stretch of the row; clearing and scrolling are made of
  it.
- `Grid.resize`: another size.
- `Grid.rows`, `Grid.litCount`: what a host is shown.

Models `Framebuffer` with the cells and the size each for itself: `resize`, `clear`, `get_pixel`,
`set_pixel`, `xor_pixel`, `draw_sprite` and the scrolls.
-/

namespace SuperChip

/-- A size and a row of cells, one for a lit pixel. -/
structure Grid where
  width : Nat
  height : Nat
  width_pos : 0 < width
  height_pos : 0 < height
  /-- The cells, row after row from the top, each row from the left. -/
  cells : Array UInt8
deriving DecidableEq, Repr

namespace Grid

/-- How an operation on a grid fails. -/
inductive Failure where
  /-- An argument was refused, or there is no room. -/
  | refused (cause : Invalid)
  /-- There is no cell under the coordinates. -/
  | misplaced (cause : Misplaced)
deriving DecidableEq, Repr

/-- The wording of a failure. -/
def Failure.message : Failure → String
  | refused cause => cause.message
  | misplaced cause => cause.message "bytearray"

/-- An operation on a grid. -/
abbrev Op (α : Type) := Attempt Failure Grid α

/-- An argument that was checked. -/
def checked {α : Type} (r : Except Invalid α) : Op α := .ofExcept (r.mapError .refused)

/-- A positive width is one of a grid. -/
theorem toNat_width_pos {width height : Int} (h : 0 < width ∧ 0 < height) : 0 < width.toNat := by
  omega

/-- A positive height is one of a grid. -/
theorem toNat_height_pos {width height : Int} (h : 0 < width ∧ 0 < height) :
    0 < height.toNat := by
  omega

/-- A dark grid of a requested size, which has to be positive and to have room. -/
def ofSize? (room : Room) (width height : Int) : Except Invalid Grid :=
  if h : 0 < width ∧ 0 < height then
    (Invalid.checkRoom room (width * height) 1).map fun _ =>
      ⟨width.toNat, height.toNat, toNat_width_pos h, toNat_height_pos h,
        Array.replicate (width.toNat * height.toNat) 0⟩
  else .error .screenSize

/-! ## Cells under coordinates -/

/-- Where the cell at column `x` and row `y` has to be, both counted modulo the size. -/
def index (g : Grid) (x y : Int) : Nat := (y % g.height).toNat * g.width + (x % g.width).toNat

/-- The cell at column `x` and row `y`. -/
def get (x y : Int) : Op UInt8 := do
  let g ← MonadState.get
  match g.cells[g.index x y]? with
  | some b => pure b
  | none => throw (.misplaced (Extent.misplaced (g.index x y)))

/-- Puts a byte into the cell at column `x` and row `y`. -/
def put (x y : Int) (b : UInt8) : Op Unit := do
  let g ← MonadState.get
  if g.index x y < g.cells.size then
    MonadStateOf.set { g with cells := g.cells.setIfInBounds (g.index x y) b }
  else throw (.misplaced (Extent.misplaced (g.index x y)))

/-- Lights the pixel at column `x` and row `y`, or darkens it if the value is zero. -/
def set (x y value : Int) : Op Unit := put x y (if value = 0 then 0 else 1)

/-- Turns over the pixel at column `x` and row `y`, and says whether it was lit. -/
def toggle (x y : Int) : Op Bool := do
  let b ← get x y
  put x y (b ^^^ 1)
  pure (b == 1)

/-- Turns over the listed pixels one after the other, and says whether one was lit when its turn
came. -/
def toggleAll : List (Int × Int) → Op Bool
  | [] => pure false
  | (x, y) :: rest => do
    let lit ← toggle x y
    let hit ← toggleAll rest
    pure (lit || hit)

/-- Draws rows of bits with their upper left corner at column `x` and row `y`, and says whether they
met a lit pixel. -/
def draw (room : Room) (rows : List Int) (x y width : Int) : Op Bool := do
  let sprite ← checked (Sprite.ofRows? room rows width)
  toggleAll (sprite.points.map fun (dx, dy) => (x + dx, y + dy))

/-! ## Stretches of cells -/

/-- A row of dark cells, if there is room for it. -/
def dark (room : Room) (length : Nat) : Op (Array UInt8) := do
  checked (Invalid.checkRoom room length 1)
  pure (Array.replicate length 0)

/-- The cells with others in place of those from `start` to before `stop`, as far as these exist. -/
def spliced (g : Grid) (start stop : Nat) (entering : Array UInt8) : Array UInt8 :=
  g.cells.extract 0 start ++ entering ++ g.cells.extract stop g.cells.size

/-- Puts other cells in place of a stretch of them, if there is room for all. -/
def splice (room : Room) (start stop : Nat) (entering : Array UInt8) : Op Unit := do
  let g ← MonadState.get
  checked (Invalid.checkRoom room (g.spliced start stop entering).size 1)
  MonadStateOf.set { g with cells := g.spliced start stop entering }

/-- Makes all cells dark. -/
def clear (room : Room) : Op Unit := do
  let g ← MonadState.get
  splice room 0 g.cells.size (← dark room g.cells.size)

/-- Changes the size. All pixels of the new one are dark. -/
def resize (room : Room) (width height : Int) : Op Unit :=
  if h : 0 < width ∧ 0 < height then do
    modify fun g =>
      { g with
        width := width.toNat
        height := height.toNat
        width_pos := toNat_width_pos h
        height_pos := toNat_height_pos h }
    let cells ← dark room (width.toNat * height.toNat)
    modify fun g => { g with cells := cells }
  else throw (.refused .screenSize)

/-- The cells that stay when they are moved on by a number of places. A stop before the first cell
is counted from the end. -/
def staying (g : Grid) (shift : Nat) : Array UInt8 :=
  let length := g.cells.size
  g.cells.extract 0 (if shift ≤ length then length - shift else length + length - shift)

/-- Moves the cells on by a number of places. -/
def lower (room : Room) (shift : Nat) : Op Unit := do
  let g ← MonadState.get
  splice room shift g.cells.size (g.staying shift)
  splice room 0 shift (← dark room shift)

/-- Moves the picture down. A negative distance is none. -/
def scrollDown (room : Room) (distance : Int) : Op Unit := do
  let g ← MonadState.get
  let rows := min distance.toNat g.height
  if rows = 0 then pure () else lower room (rows * g.width)

/-- The cells of a row, as far as they exist. -/
def row (g : Grid) (y : Nat) : Array UInt8 :=
  g.cells.extract (y * g.width) (y * g.width + g.width)

/-- Puts other cells in place of a row. -/
def mapRow (room : Room) (move : Array UInt8 → Op (Array UInt8)) (y : Nat) : Op Unit := do
  let g ← MonadState.get
  splice room (y * g.width) (y * g.width + g.width) (← move (g.row y))

/-- Puts other cells in place of each row, from the top on. -/
def mapRows (room : Room) (move : Array UInt8 → Op (Array UInt8)) : Op Unit := do
  let g ← MonadState.get
  forM (List.range g.height) (mapRow room move)

/-- Moves the picture right, row by row. A negative distance is none. -/
def scrollRight (room : Room) (distance : Int) : Op Unit := do
  let g ← MonadState.get
  let columns := min distance.toNat g.width
  mapRows room fun row => do
    pure ((← dark room columns) ++ row.extract 0 (g.width - columns))

/-- Moves the picture left, row by row. A negative distance is none. -/
def scrollLeft (room : Room) (distance : Int) : Op Unit := do
  let g ← MonadState.get
  let columns := min distance.toNat g.width
  mapRows room fun row => do
    pure (row.extract columns row.size ++ (← dark room columns))

/-! ## Views -/

/-- The rows of cells from the top. They end where the cells end. -/
def rows (g : Grid) : List (List UInt8) :=
  (List.range g.height).map fun y => (g.row y).toList

/-- The number of lit pixels. -/
def litCount (g : Grid) : Nat := g.cells.toList.foldl (fun lit b => lit + b.toNat) 0

/-- Whether a grid has the size of the high resolution. -/
def isHigh (g : Grid) : Bool := g.width == 128 && g.height == 64

end Grid

/-- The size and the pixels of a screen. -/
def Screen.grid (s : Screen) : Grid :=
  ⟨s.width, s.height, s.width_pos, s.height_pos, s.pixels.toArray.map Bool.toUInt8⟩

end SuperChip
