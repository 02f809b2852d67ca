import DevConsole.Random
import DevConsole.Text.Ascii
import DevConsole.Text.Lines

/-!
# Snake

The snake moves over a board of twenty by fifteen cells, grows by a cell for every piece of food and
must not leave the board or enter a cell of its own. `Game.step` makes one move, `Game.render` draws
the board with two columns for a cell.
-/

namespace DevConsole.Snake

def width : Nat := 20
def height : Nat := 15

inductive Heading where
  | up
  | down
  | left
  | right
  deriving DecidableEq, Repr

namespace Heading

def opposite : Heading → Heading
  | .up => .down
  | .down => .up
  | .left => .right
  | .right => .left

/-- The steering keys, in either case. -/
def ofKey? (key : Char) : Option Heading :=
  match Text.lowerChar key with
  | 'w' => some .up
  | 's' => some .down
  | 'a' => some .left
  | 'd' => some .right
  | _ => none

end Heading

structure Cell where
  x : Int
  y : Int
  deriving DecidableEq, Repr

namespace Cell

/-- The cell next to this one. -/
def next (c : Cell) : Heading → Cell
  | .up => ⟨c.x, c.y - 1⟩
  | .down => ⟨c.x, c.y + 1⟩
  | .left => ⟨c.x - 1, c.y⟩
  | .right => ⟨c.x + 1, c.y⟩

def onBoard (c : Cell) : Bool := 0 ≤ c.x && c.x < width && 0 ≤ c.y && c.y < height

end Cell

/-- The cells of the board, row by row. -/
def board : List Cell :=
  (List.range height).flatMap fun (y : Nat) => (List.range width).map fun (x : Nat) => ⟨x, y⟩

/-- What a step led to. -/
inductive Step where
  | moved
  | ate
  | gameOver
  deriving DecidableEq, Repr

structure Game where
  head : Cell
  /-- The cells behind the head, in order. -/
  tail : List Cell
  heading : Heading
  food : Option Cell
  score : Nat
  isOver : Bool
  random : Random
  deriving Repr

namespace Game

/-- All cells of the snake, the head first. -/
def body (g : Game) : List Cell := g.head :: g.tail

def length (g : Game) : Nat := g.body.length

/-- The cells that the snake leaves free. -/
def freeCells (g : Game) : List Cell := board.filter fun c => !g.body.contains c

/-- Puts food on a free cell, if there is one. -/
def spawnFood (g : Game) : Game :=
  let (food, random) := g.random.choose? g.freeCells
  { g with food, random }

def new (seed : UInt64) : Game :=
  spawnFood ⟨⟨10, 7⟩, [], .right, none, 0, false, ⟨seed⟩⟩

/-- Turns, unless that would turn the snake back onto itself. -/
def steer (g : Game) (heading : Heading) : Game :=
  if heading = g.heading.opposite then g else { g with heading }

/-- Ends the game. -/
def quit (g : Game) : Game := { g with isOver := true }

/-- Moves on by one cell. -/
def step (g : Game) : Step × Game :=
  if g.isOver then (.gameOver, g)
  else
    let next := g.head.next g.heading
    if !next.onBoard || g.body.contains next then (.gameOver, g.quit)
    else if g.food = some next then
      let grown := spawnFood { g with head := next, tail := g.body, score := g.score + 1 }
      (.ate, if grown.food.isNone then grown.quit else grown)
    else (.moved, { g with head := next, tail := g.body.dropLast })

/-- What a cell of the board shows. -/
def glyph (g : Game) (c : Cell) : String :=
  if c = g.head then "●●"
  else if g.body.contains c then "○○"
  else if g.food = some c then "◆◆"
  else "  "

def renderRow (g : Game) (y : Nat) : String :=
  "│" ++ String.join ((List.range width).map fun (x : Nat) => g.glyph ⟨x, y⟩) ++ "│"

/-- The score, the board in its frame, and the keys. -/
def render (g : Game) : String :=
  let border := Text.repeated (2 * width) '─'
  Text.joinWith "\n"
    (["Score: " ++ toString g.score, "┌" ++ border ++ "┐"] ++
      (List.range height).map g.renderRow ++
      ["└" ++ border ++ "┘", "Controls: W/A/S/D to move, Q to quit"])

def gameOverMessage (g : Game) : String := "Game Over! Score: " ++ toString g.score

end Game

end DevConsole.Snake
