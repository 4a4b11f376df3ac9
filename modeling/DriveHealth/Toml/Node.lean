/-
# TOML trees

A document is a table of nodes under keys. Which keys may still be added to a table hangs on how the
table came about, so every table remembers its origin.

Key definitions: `Toml.Node`, `Toml.Node.entries?`, `Toml.put`, `Toml.modifyAt`, `Toml.addTable`, `Toml.addTableItem`.
-/
import DriveHealth.Toml.Moment

namespace DriveHealth.Toml

/-- How a table came about. -/
inductive Origin
  /-- A header of its own, `[t]` or `[[t]]`. -/
  | header
  /-- A header of a table inside it. -/
  | parent
  /-- A key with dots. -/
  | dotted
  /-- Braces; nothing can be added to it. -/
  | inline
  deriving DecidableEq, Repr

inductive Node
  | text (s : String)
  /-- A number or truth value; which one does not matter here. -/
  | scalar
  /-- A date, a time or both. -/
  | moment (m : Moment)
  | list (items : List Node)
  | table (origin : Origin) (entries : List (String × Node))
  /-- Tables that share a header in double brackets, the oldest first. -/
  | tables (items : List Node)

/-- The nodes under their keys; no key stands twice. -/
abbrev Entries := List (String × Node)

/-- The entries of a table. A moment counts as a table whose only entry is its text. -/
def Node.entries? : Node → Option Entries
  | table _ entries => some entries
  | moment m => some [(Moment.key, text m.text)]
  | text _ | scalar | list _ | tables _ => none

/-- Puts a node in the place of the key's entry, else at the end. -/
def set (key : String) (node : Node) : Entries → Entries
  | [] => [(key, node)]
  | (k, n) :: rest => if k = key then (k, node) :: rest else (k, n) :: set key node rest

/-- Adds a node under a key of a table, where it must be the first one. -/
def addNew (key : String) (node : Node) (entries : Entries) : Option Entries :=
  if (entries.lookup key).isSome then none else some (entries ++ [(key, node)])

/-- Adds a node under a key with dots, of which `path` holds the parts before the last. The tables on
the way may not have a header or braces of their own, and the last of them must be one of dots. -/
def put : List String → String → Node → Entries → Option Entries
  | [], key, node, entries => addNew key node entries
  | part :: path, key, node, entries =>
    match entries.lookup part with
    | none => do
      let inner ← put path key node []
      some (set part (.table .dotted inner) entries)
    | some (.table .dotted inner) => do
      let inner ← put path key node inner
      some (set part (.table .dotted inner) entries)
    | some (.table .parent inner) => do
      if path = [] then none
      let inner ← put path key node inner
      some (set part (.table .parent inner) entries)
    | some (.tables items) => do
      if path = [] then none
      match items.getLast? with
      | some (.table origin inner) =>
        let inner ← put path key node inner
        some (set part (.tables (items.dropLast ++ [.table origin inner])) entries)
      | _ => none
    | some _ => none

/-- Changes the table at the end of a header's path. Tables that are missing on the way are made, and
of tables that share a header the last one is meant. -/
def modifyAt : List String → (Entries → Option Entries) → Entries → Option Entries
  | [], change, entries => change entries
  | part :: path, change, entries =>
    match entries.lookup part with
    | none => do
      let inner ← modifyAt path change []
      some (set part (.table .parent inner) entries)
    | some (.table .inline _) => none
    | some (.table origin inner) => do
      let inner ← modifyAt path change inner
      some (set part (.table origin inner) entries)
    | some (.tables items) =>
      match items.getLast? with
      | some (.table origin inner) => do
        let inner ← modifyAt path change inner
        some (set part (.tables (items.dropLast ++ [.table origin inner])) entries)
      | _ => none
    | some _ => none

/-- A key with dots and its node. -/
structure Pair where
  path : List String
  key : String
  node : Node

/-- Adds the pairs in their order. -/
def putAll (pairs : List Pair) (entries : Entries) : Option Entries :=
  pairs.foldlM (fun es p => put p.path p.key p.node es) entries

/-- Adds the table of a header `[path.key]`, which may only be there as the parent of others. -/
def addTable (path : List String) (key : String) (pairs : List Pair) : Entries → Option Entries :=
  modifyAt path fun entries =>
    match entries.lookup key with
    | none => do
      let inner ← putAll pairs []
      some (set key (.table .header inner) entries)
    | some (.table .parent inner) => do
      let inner ← putAll pairs inner
      some (set key (.table .header inner) entries)
    | some _ => none

/-- Adds one more table of a header `[[path.key]]`. -/
def addTableItem (path : List String) (key : String) (pairs : List Pair) : Entries → Option Entries :=
  modifyAt path fun entries => do
    let items ← match entries.lookup key with
      | none => some []
      | some (.tables items) => some items
      | some _ => none
    let inner ← putAll pairs []
    some (set key (.tables (items ++ [.table .header inner])) entries)

end DriveHealth.Toml
