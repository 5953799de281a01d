import IdentityMap.Database.Table
/-!
# The order in which rows are found

Rows come in the order of the structure that they are read from. That is the table, by row number,
or an index, by the values of its parts: an index that starts with the column of a condition, or an
index that holds all that is asked for and is narrower than the table.
-/

namespace IdentityMap.DataTable

/-- Ten times the binary logarithm, in steps of an eighth of a power of two. -/
def logEstimate (n : Nat) : Nat :=
  if n < 2 then 0
  else
    let top := n.log2
    let eighth := if 3 ≤ top then n / Nat.pow 2 (top - 3) % 8 else n * Nat.pow 2 (3 - top) % 8
    [0, 2, 3, 5, 6, 7, 8, 9].getD eighth 0 + 10 * top

/-- About how wide the values of a column are, a number being one wide. -/
def columnWidth (c : Sql.ColumnDef) : Nat :=
  if (declaredType c).toUpper ∈ ["TEXT", "BLOB"] then 5 else 1

def widthOf (t : DataTable) : Place → Nat
  | .column place => (t.columns[place]?.map columnWidth).getD 1
  | _ => 1

def total (widths : List Nat) : Nat := widths.foldl (· + ·) 0

def tableWidth (t : DataTable) : Nat :=
  logEstimate (4 * (total (t.columns.map columnWidth) + if t.numbering.isSome then 0 else 1))

def indexWidth (t : DataTable) (index : DataIndex) : Nat :=
  logEstimate (4 * (total (index.parts.map t.widthOf) + 1))

/-- The index holds all the places. -/
def covers (t : DataTable) (used : List Place) (index : DataIndex) : Bool :=
  used.all fun p =>
    t.isNumber p || index.parts.contains p
      || match p with
        | .literal _ => true
        | _ => false

/-- What it costs to read an index in place of the table. -/
def scanCost (t : DataTable) (index : DataIndex) : Nat := 15 * t.indexWidth index / t.tableWidth

/-- The cheapest of some indexes, the first of equally cheap ones. -/
def cheapest? (t : DataTable) (indexes : List DataIndex) : Option DataIndex :=
  indexes.foldl (fun best index =>
    match best with
    | none => some index
    | some other => if t.scanCost index < t.scanCost other then some index else some other) none

/-- The index to read instead of the table when the places are asked for. -/
def coveringIndex? (t : DataTable) (used : List Place) : Option DataIndex :=
  t.cheapest? (t.indexes.filter fun index =>
    t.covers used index && t.indexWidth index < t.tableWidth)

/-- Rows by the values of some places. -/
def comparedBy (parts : List Place) (a b : NumberedRow) : Ordering :=
  parts.foldl (fun o p => o.then ((p.value a).compare (p.value b))) .eq

def sortedBy (parts : List Place) (rows : List NumberedRow) : List NumberedRow :=
  rows.mergeSort fun a b => comparedBy parts a b != .gt

/-- All rows in the order in which they are read for the places. -/
def scan (t : DataTable) (used : List Place) : List NumberedRow :=
  match t.coveringIndex? used with
  | some index => sortedBy index.parts t.rows.entries
  | none => t.rows.entries

/-- The index that starts with a place: one about nothing else, if there is one, else one that holds
all that is asked for. -/
def startingIndex? (t : DataTable) (p : Place) (used : List Place) : Option DataIndex :=
  let starting := t.indexes.filter fun index => index.parts.head? = some p
  ((starting.find? fun index => index.unique && index.parts.length == 1).or
    (t.cheapest? (starting.filter (t.covers used)))).or (t.cheapest? starting)

/-- All rows in the order of an index that starts with a place, or as they are read for the places
that are asked for. -/
def scanBy (t : DataTable) (p : Place) (used : List Place) : List NumberedRow :=
  if t.isNumber p then t.rows.entries
  else
    match t.startingIndex? p used with
    | some index => sortedBy index.parts t.rows.entries
    | none => t.scan used

/-- The rows with one of some values in a place, in the order in which they are found. A text that
stands for itself is no help in finding them. -/
def found (t : DataTable) (p : Place) (values : List Stored) (used : List Place) :
    List NumberedRow :=
  t.matching p values
    (match p with
      | .literal _ => t.scan used
      | _ => t.scanBy p used)

/-- All rows by the values of a place. -/
def listed (t : DataTable) (p : Place) (used : List Place) : List NumberedRow :=
  sortedBy [p] (t.scanBy p used)

end IdentityMap.DataTable
