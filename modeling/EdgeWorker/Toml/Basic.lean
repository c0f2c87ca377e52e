/-!
TOML documents as far as a configuration needs them: the values that are no strings, arrays or
tables are not told apart.
-/

namespace EdgeWorker.Toml

/-- How a table came about, which decides what may still be put into it. -/
inductive TableKind where
  /-- Written in braces: nothing may be added. -/
  | closed
  /-- Begun by a header. -/
  | header
  /-- Implied by the header of a table within it. -/
  | implied
  /-- Implied by a key with dots. -/
  | dotted
  deriving DecidableEq, Repr

inductive Item where
  | string (s : String)
  /-- A number, a truth value or a date. -/
  | scalar
  | array (items : List Item)
  | table (kind : TableKind) (entries : List (String × Item))
  /-- The tables begun by repeated headers. -/
  | tables (rows : List Item)
  deriving Inhabited

abbrev Entries := List (String × Item)

/-- Sets an entry in its place, or at the end. -/
def setEntry (key : String) (item : Item) : Entries → Entries
  | [] => [(key, item)]
  | (k, i) :: rest => if k = key then (key, item) :: rest else (k, i) :: setEntry key item rest

/-- A change of a table, which may be refused. -/
abbrev Change := TableKind → Entries → Option (TableKind × Entries)

/-- Changes the table that keys lead to. Tables that are missing are made; of repeated tables the
last one is meant. Keys with dots lead only into tables that were implied. -/
def within (dotted : Bool) (change : Change) : List String → Change
  | [] => change
  | key :: path => fun kind entries =>
    let put := fun (sub : Option (TableKind × Entries)) (wrap : Item → Item) =>
      sub.map fun (k, es) => (kind, setEntry key (wrap (.table k es)) entries)
    match entries.lookup key with
    | none => put (within dotted change path (if dotted then .dotted else .implied) []) id
    | some (.table k es) =>
      let mayEnter := k == .implied || k == .dotted || (k == .header && !dotted)
      if mayEnter then put (within dotted change path k es) id else none
    | some (.tables rows) =>
      match rows.getLast? with
      | some (.table k es) => put (within dotted change path k es) fun t => .tables (rows.dropLast ++ [t])
      | _ => none
    | some _ => none

/-- Puts a value under a key, which must be new; keys before it lead to the table. -/
def assign (path : List String) (key : String) (item : Item) : Change :=
  within true (fun kind entries =>
    if (kind == .dotted) == path.isEmpty || (entries.lookup key).isSome then none
    else some (kind, entries ++ [(key, item)])) path

/-- Begins the table of a header. A table that was implied by another header may be begun once. -/
def beginTable (path : List String) (key : String) : Change :=
  within false (fun kind entries =>
    match entries.lookup key with
    | none => some (kind, entries ++ [(key, .table .header [])])
    | some (.table .implied es) => some (kind, setEntry key (.table .header es) entries)
    | some _ => none) path

/-- Begins one more of the tables of a repeated header. -/
def beginRow (path : List String) (key : String) : Change :=
  within false (fun kind entries =>
    match entries.lookup key with
    | none => some (kind, entries ++ [(key, .tables [.table .header []])])
    | some (.tables rows) => some (kind, setEntry key (.tables (rows ++ [.table .header []])) entries)
    | some _ => none) path

end EdgeWorker.Toml
