import Insights.Engine.RowSet

/-!
Results as they are held. Rows stand on a shelf, each at an address, and those of a result stay where they
are. Whoever asks for them is handed copies at addresses of their own, and may change these: a change puts
other contents at an address. The cells of a row are values, which do not change.
-/

namespace Insights

/-- Rows by address. -/
structure Shelf where
  rows : List Row

namespace Shelf

def empty : Shelf := ⟨[]⟩

/-- Puts rows at the next free addresses, and returns these. -/
def add (shelf : Shelf) (rows : List Row) : List Nat × Shelf :=
  (List.range' shelf.rows.length rows.length, ⟨shelf.rows ++ rows⟩)

def read (shelf : Shelf) (addresses : List Nat) : List Row :=
  addresses.map fun address => shelf.rows[address]?.getD []

/-- Puts a row in the place of the one at an address. -/
def change (shelf : Shelf) (address : Nat) (row : Row) : Shelf :=
  ⟨shelf.rows.set address row⟩

end Shelf

/-- A result that is held, with what was handed out of it. -/
structure Holding where
  shelf : Shelf
  /-- Where the rows of the result are. -/
  own : List Nat
  /-- Where the copies are, one list for each time that somebody asked. -/
  handedOut : List (List Nat)

/-- What can be done with a result that is held. -/
inductive ResultUse where
  | ask
  /-- Changes the row at a position of what was handed out at one time. -/
  | change (time position : Nat) (row : Row)

namespace Holding

def ofResult (result : RowSet) : Holding :=
  let (own, shelf) := Shelf.empty.add result.rows
  ⟨shelf, own, []⟩

/-- Hands out copies of the rows of the result. -/
def ask (holding : Holding) : Holding :=
  let (copies, shelf) := holding.shelf.add (holding.shelf.read holding.own)
  { holding with shelf, handedOut := holding.handedOut ++ [copies] }

/-- Where a row is that was handed out. -/
def address? (holding : Holding) (time position : Nat) : Option Nat :=
  holding.handedOut[time]?.bind (·[position]?)

def use (holding : Holding) : ResultUse → Holding
  | .ask => holding.ask
  | .change time position row =>
    match holding.address? time position with
    | some address => { holding with shelf := holding.shelf.change address row }
    | none => holding

def run (holding : Holding) (uses : List ResultUse) : Holding :=
  uses.foldl use holding

/-- What is read of the copies that were handed out last. -/
def latest (holding : Holding) : List Row :=
  holding.shelf.read (holding.handedOut.getLast?.getD [])

end Holding
end Insights
