import Almanac.Instant.Format

namespace Almanac

/-- A column of a table, whose cells are set to the left or to the right. -/
structure Column where
  title : String
  cells : List String
  toRight : Bool

def blanks (count : Nat) : String :=
  String.ofList (List.replicate count ' ')

namespace Column

def width (c : Column) : Nat :=
  c.cells.foldl (fun w cell => if w < cell.length then cell.length else w) c.title.length

def aligned (c : Column) (text : String) : String :=
  if c.toRight then blanks (c.width - text.length) ++ text
  else text ++ blanks (c.width - text.length)

end Column

/-- A horizontal rule of a table, from its left end, strokes, crossings and right end. -/
def ruleLine (left stroke crossing right : String) (columns : List Column) : String :=
  left ++ String.intercalate crossing
    (columns.map fun c => String.join (List.replicate (c.width + 2) stroke)) ++ right

/-- A line of cells between upright strokes. -/
def cellLine (stroke : String) (columns : List Column) (cell : Column → String) : String :=
  stroke ++ String.join (columns.map fun c => " " ++ c.aligned (cell c) ++ " " ++ stroke)

/-- A table in a frame, with its title centred over it. -/
def tableText (title : String) (rows : Nat) (columns : List Column) : String :=
  let room := (ruleLine "┏" "━" "┳" "┓" columns).length - title.length
  String.intercalate "\n"
    ([blanks (room / 2) ++ title ++ blanks (room - room / 2),
      ruleLine "┏" "━" "┳" "┓" columns,
      cellLine "┃" columns Column.title,
      ruleLine "┡" "━" "╇" "┩" columns]
      ++ (List.range rows).map (fun i => cellLine "│" columns fun c => c.cells[i]?.getD "")
      ++ [ruleLine "└" "─" "┴" "┘" columns])

/-- The table of the well-known instants. -/
def wellKnownTable : String :=
  tableText "Well-known instants" Instant.wellKnown.length
    [⟨"Name", Instant.wellKnown.map (·.1), false⟩,
     ⟨"Instant", Instant.wellKnown.map fun entry => String.ofList entry.2.isoForm, false⟩,
     ⟨"Epoch millis", Instant.wellKnown.map fun entry =>
        String.ofList (decimal entry.2.epochMillis), true⟩]

end Almanac
