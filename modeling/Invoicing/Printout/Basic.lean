import Invoicing.Json.Value
import Invoicing.Text.WinAnsi

/-!
# Printouts

A printout is a titled document of A4 pages. Each page holds marks in the order they are drawn:
texts in one of two fonts at a point size, and horizontal rules between the margins.
Positions are whole millimetres from the lower left corner.

A `Sheet` lays marks out from the top of the page down. Writing puts a mark at the current
height; advancing moves down, and when the height falls below the bottom margin the next page
starts at the top. So every page but the last ends where advancing crossed the margin, and no
mark is ever written below it.
-/

namespace Invoicing

/-- The two faces of the printout's type. -/
inductive Font where
  | regular
  | bold
  deriving DecidableEq, Repr

/-- The name of the standard font of a face. -/
def Font.name : Font → String
  | .regular => "Helvetica"
  | .bold => "Helvetica-Bold"

/-- Something drawn on a page. -/
inductive Mark where
  /-- A text in a face and point size, its baseline starting at `(x, y)`. -/
  | text (font : Font) (size x y : Nat) (body : String)
  /-- A horizontal rule at height `y` from the left margin to the right one. -/
  | rule (y : Nat)
  deriving DecidableEq, Repr

namespace Mark

/-- A length in millimetres, with its one decimal. -/
def millimetres (n : Nat) : String := toString n ++ ".0"

/-- The mark as JSON; a text is given as the bytes that write it, one character a byte. -/
def toJson : Mark → Json
  | .text font size x y body =>
    .obj [("font", .str font.name), ("size", .str (toString size)), ("x", .str (millimetres x)),
      ("y", .str (millimetres y)), ("text", .str (WinAnsi.view body))]
  | .rule y => .obj [("rule", .str (millimetres y))]

end Mark

/-- A titled document of pages of marks. -/
structure Printout where
  title : String
  pages : List (List Mark)
  deriving DecidableEq, Repr

/-- The printout as JSON: its title, its number of pages and the marks of each page. -/
def Printout.toJson (p : Printout) : Json :=
  .obj [("title", .str p.title), ("page_count", Json.ofNat p.pages.length),
    ("pages", .arr (p.pages.map fun marks => .arr (marks.map Mark.toJson)))]

/-- A printout being laid out: the finished pages, the marks of the current page, and the height
at which the next mark goes. -/
structure Sheet where
  done : List (List Mark) := []
  marks : List Mark := []
  y : Nat
  deriving DecidableEq, Repr

namespace Sheet

/-- The height at which a page starts. -/
def top : Nat := 282

/-- The lowest height at which a mark may stand. -/
def bottom : Nat := 25

/-- The left margin. -/
def margin : Nat := 15

/-- An empty first page. -/
def start : Sheet := { y := top }

/-- Draws a mark on the current page. -/
def put (m : Mark) (s : Sheet) : Sheet := { s with marks := s.marks ++ [m] }

/-- Writes a text at the current height. -/
def write (font : Font) (size x : Nat) (body : String) (s : Sheet) : Sheet :=
  s.put (.text font size x s.y body)

/-- Draws a rule at the current height. -/
def rule (s : Sheet) : Sheet := s.put (.rule s.y)

/-- Moves down by `dy`, starting a new page at the top if that falls below the bottom margin. -/
def advance (dy : Nat) (s : Sheet) : Sheet :=
  if s.y < dy + bottom then { done := s.done ++ [s.marks], marks := [], y := top }
  else { s with y := s.y - dy }

/-- All pages, the current one last. -/
def pages (s : Sheet) : List (List Mark) := s.done ++ [s.marks]

theorem bottom_le_advance_y (dy : Nat) (s : Sheet) :
    bottom ≤ (s.advance dy).y := by
  unfold advance
  split
  · simp [top, bottom]
  · simp only
    omega

theorem pages_length_advance (dy : Nat) (s : Sheet) :
    (s.advance dy).pages.length = s.pages.length + (if s.y < dy + bottom then 1 else 0) := by
  unfold advance pages
  split <;> simp

end Sheet

end Invoicing
