import BarTemplate.Number.Shortest
import BarTemplate.Setting.Calendar
import BarTemplate.Text.Quoted

/-!
# Settings

The values that a configuration can hold. The entries of a table keep the order in which they were added, and no two
have the same key. Every value has a shown form, for messages about values that are not acceptable.
-/

namespace BarTemplate

/-- A value in a configuration. -/
inductive Setting where
  | null
  | flag (value : Bool)
  | integer (value : Int)
  | binary (value : Binary64)
  | text (value : Text)
  | date (value : Date)
  | time (value : TimeOfDay)
  | moment (value : Moment)
  | list (items : List Setting)
  | table (entries : List (Text × Setting))
  deriving Repr

/-- The entries of a table in order. -/
abbrev Table := List (Text × Setting)

mutual

/-- A value as it is shown. -/
def Setting.shown : Setting → Text
  | .null => "None"
  | .flag b => if b then "True" else "False"
  | .integer i => Text.ofInt i
  | .binary b => b.shown
  | .text t => Quoted.encode t
  | .date d => d.shown
  | .time t => t.shown
  | .moment m => m.shown
  | .list items => "[" ++ Text.joinWith ", " (shownItems items) ++ "]"
  | .table entries => "\x7b" ++ Text.joinWith ", " (shownEntries entries) ++ "\x7d"

/-- The items of a list as they are shown. -/
def Setting.shownItems : List Setting → List Text
  | [] => []
  | v :: vs => v.shown :: shownItems vs

/-- The entries of a table as they are shown. -/
def Setting.shownEntries : List (Text × Setting) → List Text
  | [] => []
  | (key, v) :: entries => (Quoted.encode key ++ ": " ++ v.shown) :: shownEntries entries

end

namespace Table

/-- The value with a key. -/
def get? (t : Table) (key : Text) : Option Setting :=
  (t.find? (·.1 = key)).map (·.2)

/-- The table with another value under a key that it has. -/
def replace (t : Table) (key : Text) (v : Setting) : Table :=
  t.map fun e => if e.1 = key then (key, v) else e

/-- Changes the table at the end of a path of keys; tables that are missing on the way are added. A list on the way
stands for its last item, if lists may be entered. There is no result if something else is in the way or the change is
impossible. -/
def changeAt (throughLists : Bool) (change : Table → Option Table) : List Text → Table → Option Table
  | [], t => change t
  | key :: path, t =>
    match t.get? key with
    | none => (changeAt throughLists change path []).map fun u => t ++ [(key, .table u)]
    | some (.table u) => (changeAt throughLists change path u).map fun u => t.replace key (.table u)
    | some (.list items) =>
      match throughLists, items.getLast? with
      | true, some (.table u) =>
        (changeAt throughLists change path u).map fun u => t.replace key (.list (items.dropLast ++ [.table u]))
      | _, _ => none
    | some _ => none

/-- Adds an entry under a key that the table does not have. -/
def add (key : Text) (v : Setting) (t : Table) : Option Table :=
  match t.get? key with
  | none => some (t ++ [(key, v)])
  | some _ => none

/-- Adds an empty table to the end of the list under a key; a list that is missing is added. -/
def grow (key : Text) (t : Table) : Option Table :=
  match t.get? key with
  | none => some (t ++ [(key, .list [.table []])])
  | some (.list items) => some (t.replace key (.list (items ++ [.table []])))
  | some _ => none

end Table

end BarTemplate
