import TokenLint.Ordered
import TokenLint.Settings.Value

/-!
# TOML documents in the making

A document is put together statement by statement. A header opens the table that the following pairs go
to; the last table of an array of tables stands for the array. Some places are closed to later
statements: values are sealed as a whole, and a table may be opened by one header only. The tables that
a dotted key passes through are opened by it once the section ends.

## Main definitions

* `alter?`: A table changed at the place of a key.
* `Document`: The document so far.
* `Document.pair?`, `Document.openTable?`, `Document.openElement?`: The statements.
-/

namespace TokenLint

namespace Toml

/-- A key: the names on the way to a value. -/
abbrev Key := List String

/-- A table changed by `f` at the table under a key. Tables that are missing are made. An array of tables
on the way stands for its last one if `enter` is set. Nothing else can be on the way. -/
def alter? (enter : Bool) (f : Table → Option Table) : Key → Table → Option Table
  | [], table => f table
  | name :: names, table =>
    match Ordered.get? name table with
    | none => (alter? enter f names []).map fun t => Ordered.put name (.table t) table
    | some (.table inner) => (alter? enter f names inner).map fun t => Ordered.put name (.table t) table
    | some (.list items) =>
      match enter, items.getLast? with
      | true, some (.table inner) => (alter? enter f names inner).map fun t =>
          Ordered.put name (.list (items.dropLast ++ [.table t])) table
      | _, _ => none
    | some _ => none

/-- A table with one more value, under a name that it does not have. -/
def insert? (name : String) (value : Setting) (table : Table) : Option Table :=
  if (Ordered.get? name table).isSome then none else some (Ordered.put name value table)

/-- A table with one more table in the array under a name. -/
def append? (name : String) (table : Table) : Option Table :=
  match Ordered.get? name table with
  | none => some (Ordered.put name (.list [.table []]) table)
  | some (.list items) => some (Ordered.put name (.list (items ++ [.table []])) table)
  | some _ => none

/-- A key without its last name, and that name. -/
def splitLast? (key : Key) : Option (Key × String) :=
  key.getLast?.map fun name => (key.dropLast, name)

/-- Whether a key is at or below one of the keys of a list. -/
def isBelow (keys : List Key) (key : Key) : Bool := keys.any (·.isPrefixOf key)

/-- Whether a value is made of further values. -/
def isComposite : Setting → Bool
  | .table _ | .list _ => true
  | _ => false

/-- The document so far. -/
structure Document where
  /-- What it holds. -/
  table : Table
  /-- The key of the table that pairs go to. -/
  header : Key
  /-- The keys of values that nothing may be added to. -/
  closed : List Key
  /-- The keys of tables that no header may open again. -/
  opened : List Key
  /-- The keys that will be opened when the section ends. -/
  pending : List Key

namespace Document

/-- The document without statements. -/
def empty : Document := ⟨[], [], [], [], []⟩

/-- The document with one more pair. -/
def pair? (d : Document) (key : Key) (value : Setting) : Option Document := do
  let (front, name) ← splitLast? key
  let passed := (List.range front.length).map fun n => d.header ++ key.take (n + 1)
  let place := d.header ++ front
  if passed.any d.opened.contains || isBelow d.closed place then none
  let table ← alter? true (insert? name value) place d.table
  let closed := if isComposite value then (d.header ++ key) :: d.closed else d.closed
  return { d with table, closed, pending := passed ++ d.pending }

/-- The document whose section has ended. -/
def endSection (d : Document) : Document :=
  { d with opened := d.pending ++ d.opened, pending := [] }

/-- The document with a table opened by a header. -/
def openTable? (d : Document) (key : Key) : Option Document := do
  let d := d.endSection
  if d.opened.contains key || isBelow d.closed key then none
  let table ← alter? true some key d.table
  return { d with table, header := key, opened := key :: d.opened }

/-- The document with an element of an array of tables opened by a header. What was closed or opened
below the array's key is free again, since the key leads to the new element. -/
def openElement? (d : Document) (key : Key) : Option Document := do
  let d := d.endSection
  if isBelow d.closed key then none
  let (front, name) ← splitLast? key
  let table ← alter? true (append? name) front d.table
  return { d with
    table
    header := key
    closed := d.closed.filter fun k => !(key.isPrefixOf k)
    opened := key :: d.opened.filter fun k => !(key.isPrefixOf k) }

end Document

end Toml

end TokenLint
