import InlineStyle.Binary64

/-! TOML documents as data. A table remembers how it came to be, because that decides who may still add
to it: headers and dotted keys name a path of tables, and a path may not run through a finished one.

Who may add to which table follows the reader toml 0.8, which allows a little more than TOML 1.0: a dotted key may run
through an implied table and into the last table of an array. Entries keep the order of the document, but a table
that gets its own header late moves behind its neighbours. A date has no value here, for no setting takes one. -/

namespace InlineStyle.Toml

inductive Origin where
  /-- The document itself, or a table with a header of its own. -/
  | header
  /-- A table written as a value between braces. -/
  | braces
  /-- A table that only a longer header mentions. -/
  | implied
  /-- A table that only dotted keys mention. -/
  | dotted
deriving DecidableEq, Repr

inductive Node where
  | string (text : Text)
  | integer (value : Int)
  | float (value : Binary64)
  | boolean (value : Bool)
  | datetime
  | array (items : List Node)
  | table (origin : Origin) (entries : List (Text × Node))
  /-- An array of tables with headers. Later headers and keys go into its last table. -/
  | tables (earlier : List (List (Text × Node))) (last : List (Text × Node))
deriving Repr

abbrev Entries := List (Text × Node)

/-- Whether a path may run through such a table. The tables on the path of a dotted key must not have
headers of their own. -/
def Origin.isOpen : Origin → Bool → Bool
  | .header, byDottedKey => !byDottedKey
  | .braces, _ => false
  | .implied, _ | .dotted, _ => true

namespace Entries

def replace (key : Text) (node : Node) (entries : Entries) : Entries :=
  entries.map fun (name, previous) => if name = key then (name, node) else (name, previous)

def remove (key : Text) (entries : Entries) : Entries := entries.filter fun (name, _) => name != key

/-- Changes the table at the end of a path and makes the tables on the way that are missing. -/
def changeAt (byDottedKey : Bool) (change : Origin → Entries → Option Entries) :
    List Text → Origin → Entries → Option Entries
  | [], origin, entries => change origin entries
  | key :: path, _, entries =>
    match entries.lookup key with
    | none => do
      let origin := if byDottedKey then .dotted else .implied
      let inner ← changeAt byDottedKey change path origin []
      return entries ++ [(key, .table origin inner)]
    | some (.table origin inner) =>
      if origin.isOpen byDottedKey then do
        return entries.replace key (.table origin (← changeAt byDottedKey change path origin inner))
      else none
    | some (.tables earlier last) => do
      return entries.replace key (.tables earlier (← changeAt byDottedKey change path .header last))
    | some _ => none

/-- Adds a value under a key that may be dotted. A table takes dotted keys or plain ones, not both. -/
def insert (path : List Text) (node : Node) (origin : Origin) (entries : Entries) : Option Entries := do
  let key ← path.getLast?
  let parents := path.dropLast
  changeAt true
    (fun origin entries =>
      if (origin == .dotted) == parents.isEmpty ∨ (entries.lookup key).isSome then none
      else some (entries ++ [(key, node)]))
    parents origin entries

def insertAll (pairs : List (List Text × Node)) (origin : Origin) (entries : Entries) : Option Entries :=
  pairs.foldlM (fun entries (path, node) => entries.insert path node origin) entries

end Entries

structure Section where
  path : List Text
  /-- Whether the header adds a table to an array of tables. -/
  isItem : Bool
  pairs : List (List Text × Node)

/-- Adds a section to the document. A table that was only implied becomes the section's own and moves
behind its neighbours. -/
def Section.place (part : Section) (root : Entries) : Option Entries := do
  let key ← part.path.getLast?
  Entries.changeAt false
    (fun _ entries =>
      if part.isItem then
        match entries.lookup key with
        | none => do
          return entries ++ [(key, .tables [] (← Entries.insertAll part.pairs .header []))]
        | some (.tables earlier last) => do
          return entries.replace key (.tables (earlier ++ [last]) (← Entries.insertAll part.pairs .header []))
        | some _ => none
      else
        match entries.lookup key with
        | none => do
          return entries ++ [(key, .table .header (← Entries.insertAll part.pairs .header []))]
        | some (.table .implied inner) => do
          return entries.remove key ++ [(key, .table .header (← Entries.insertAll part.pairs .header inner))]
        | some _ => none)
    part.path.dropLast .header root

end InlineStyle.Toml
