import SaslBind.Text.Entries
import SaslBind.Toml.Malformed
import SaslBind.Value

/-!
# Tables under construction

While a document is read, its tables are filled and some keys are marked: those of tables that were
declared, and those of values that may not be changed any more.

* `Table.update` : changes the table that a key leads to, making the tables on the way;
* `Marks` : the keys with marks.  A frozen key freezes all keys below it.
-/

namespace SaslBind

namespace Toml

/-- Entries by name. -/
abbrev Table := Entries Value

namespace Table

/-- Changes the table that a key leads to; where a list stands on the way, its last table is meant if
`intoLists` is set.  There is none if a value stands on the way. -/
def update (intoLists : Bool) (change : Table → Option Table) : Key → Table → Option Table
  | [], table => change table
  | name :: key, table =>
    match table.lookup name with
    | none => (update intoLists change key []).map fun inner => Entries.put name (.dict inner) table
    | some (.dict inner) =>
      (update intoLists change key inner).map fun inner => Entries.put name (.dict inner) table
    | some (.list items) =>
      match intoLists, items.getLast? with
      | true, some (.dict inner) =>
        (update intoLists change key inner).map fun inner =>
          Entries.put name (.list (items.dropLast ++ [.dict inner])) table
      | _, _ => none
    | some _ => none

/-- A table with one more entry; none if the name is taken. -/
def add (name : Text) (v : Value) (table : Table) : Option Table :=
  if (table.lookup name).isSome then none else some (Entries.put name v table)

/-- A table with an empty table more at the end of a list; none if the name is that of another value. -/
def extend (name : Text) (table : Table) : Option Table :=
  match table.lookup name with
  | none => some (Entries.put name (.list [.dict []]) table)
  | some (.list items) => some (Entries.put name (.list (items ++ [.dict []])) table)
  | some _ => none

end Table

/-- The keys with marks: tables that were declared, and values that may not be changed. -/
structure Marks where
  declared : List Key
  frozen : List Key

namespace Marks

/-- Whether a key or one above it is frozen. -/
def isFrozen (m : Marks) (key : Key) : Bool := !key.isEmpty && m.frozen.any fun k => k.isPrefixOf key

/-- Whether a key is that of a table that was declared. -/
def isDeclared (m : Marks) (key : Key) : Bool := m.declared.contains key

/-- The marks without those of a key and of the keys below it. -/
def clear (m : Marks) (key : Key) : Marks :=
  ⟨m.declared.filter (!key.isPrefixOf ·), m.frozen.filter (!key.isPrefixOf ·)⟩

/-- The marks with one more table. -/
def declare (m : Marks) (key : Key) : Marks := { m with declared := key :: m.declared }

/-- The marks with one more value that may not be changed. -/
def freeze (m : Marks) (key : Key) : Marks := { m with frozen := key :: m.frozen }

end Marks

end Toml

end SaslBind
