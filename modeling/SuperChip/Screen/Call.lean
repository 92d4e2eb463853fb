import SuperChip.Screen.Grid

/-!
# Calls on a grid

A host hands a grid any integers, in any order. A call that fails is followed by the next one like
any other.

- `Grid.Call`: a call on a grid.
- `Grid.perform`: what becomes of a call.
- `Grid.after`: a grid after a row of calls.
-/

namespace SuperChip.Grid

/-- A call that changes a grid, with any integers. -/
inductive Call where
  | clear
  | resize (width height : Int)
  | set (x y value : Int)
  | toggle (x y : Int)
  | draw (rows : List Int) (x y width : Int)
  | scrollDown (distance : Int)
  | scrollRight (distance : Int)
  | scrollLeft (distance : Int)
deriving DecidableEq, Repr

/-- What becomes of a call. Turning over a pixel answers whether it was lit, and drawing whether a
lit one was met. -/
def perform (room : Room) : Call → Op (Option Bool)
  | .clear => do clear room; pure none
  | .resize width height => do resize room width height; pure none
  | .set x y value => do set x y value; pure none
  | .toggle x y => some <$> toggle x y
  | .draw rows x y width => some <$> draw room rows x y width
  | .scrollDown distance => do scrollDown room distance; pure none
  | .scrollRight distance => do scrollRight room distance; pure none
  | .scrollLeft distance => do scrollLeft room distance; pure none

/-- A grid after one call after the other, those that fail included. -/
def after (g : Grid) (room : Room) (calls : List Call) : Grid :=
  calls.foldl (fun g c => ((perform room c).on g).2) g

end SuperChip.Grid
