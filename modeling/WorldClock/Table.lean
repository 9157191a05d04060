/-!
# Tables by name

A table is a list of entries with one value for each name, in the order of the names.
-/

namespace WorldClock.Table

/-- Puts an entry into a table. An entry of the same name gives way. -/
def put {α : Type} (name : String) (value : α) : List (String × α) → List (String × α)
  | [] => [(name, value)]
  | entry :: rest =>
    if entry.1 < name then entry :: put name value rest
    else if entry.1 = name then (name, value) :: rest
    else (name, value) :: entry :: rest

/-- The table of a list of entries. Of entries with the same name the last one counts. -/
def ofList {α : Type} (entries : List (String × α)) : List (String × α) :=
  entries.foldl (fun done (name, value) => put name value done) []

/-- Puts an entry in front of later ones, unless the first of these has the same name. -/
def prepend {α : Type} (entry : String × α) (later : List (String × α)) : List (String × α) :=
  match later with
  | [] => [entry]
  | next :: _ => if entry.1 = next.1 then later else entry :: later

/-- The table of a list of entries, as `ofList` finds it, but by sorting, which is faster if there
are many. Entries with the same name stay in their order when they are sorted. -/
def gather {α : Type} (entries : List (String × α)) : List (String × α) :=
  (entries.mergeSort fun a b => !decide (b.1 < a.1)).foldr prepend []

/-- Changes the value of a name that the table has. Other names change nothing. -/
def update {α : Type} (name : String) (change : α → α) (table : List (String × α)) :
    List (String × α) :=
  table.map fun (other, held) => (other, if other = name then change held else held)

end WorldClock.Table
