import Boundary.Toml.Node

/-!
A document while it is read. A draft remembers how each table came about, which a finished node no
longer shows.
-/

namespace Boundary.Toml

/-- How a table came about, which decides what may be added to it later: under a header of its own,
as a step of a longer header, as a step of a dotted key, or between braces. -/
inductive Origin where
  | header
  | implied
  | dotted
  | inline
  deriving DecidableEq

/-- A float and a moment keep their written form. A run of tables under one double-bracketed header
keeps the last table apart, since later lines add to that one. -/
inductive Draft where
  | string (text : String)
  | boolean (value : Bool)
  | integer (value : Int)
  | float (written : String)
  | moment (written : String)
  | array (items : List Draft)
  | table (origin : Origin) (entries : List (String × Draft))
  | tables (earlier : List (List (String × Draft))) (last : List (String × Draft))

abbrev Drafts := List (String × Draft)

mutual

def Draft.node : Draft → Node
  | .string text => .string text
  | .boolean value => .boolean value
  | .integer value => .integer value
  | .float written => .float written
  | .moment written => .moment written
  | .array items => .array (nodes items)
  | .table _ entries => .table (fields entries)
  | .tables earlier last => .array (runs earlier ++ [.table (fields last)])

def nodes : List Draft → List Node
  | [] => []
  | item :: rest => item.node :: nodes rest

def field : String × Draft → String × Node
  | (key, draft) => (key, draft.node)

def fields : List (String × Draft) → List (String × Node)
  | [] => []
  | entry :: rest => field entry :: fields rest

def runs : List (List (String × Draft)) → List Node
  | [] => []
  | entries :: rest => .table (fields entries) :: runs rest

end

namespace Drafts

def find? (entries : Drafts) (key : String) : Option Draft := entries.lookup key

def replace (entries : Drafts) (key : String) (node : Draft) : Drafts :=
  entries.map fun entry => if entry.1 = key then (key, node) else entry

def insertNew? (entries : Drafts) (key : String) (node : Draft) : Option Drafts :=
  match entries.find? key with
  | none => some (entries ++ [(key, node)])
  | some _ => none

end Drafts

namespace Origin

def isImplicit : Origin → Bool
  | implied | dotted => true
  | header | inline => false

end Origin

/-- Change the entries of the table that a path leads to, making the tables that are missing on the
way. A dotted key must not reach into a table that has a header; no path leads into a value. -/
def descend (isDotted : Bool) (change : Origin → Drafts → Option Drafts) :
    List String → Origin → Drafts → Option Drafts
  | [], origin, entries => change origin entries
  | key :: rest, _, entries =>
    match entries.find? key with
    | none => do
      let made := if isDotted then Origin.dotted else .implied
      let child ← descend isDotted change rest made []
      entries.insertNew? key (.table made child)
    | some (.table .inline _) => none
    | some (.table origin child) =>
      if isDotted && !origin.isImplicit then
        none
      else do
        let child ← descend isDotted change rest origin child
        some (entries.replace key (.table origin child))
    | some (.tables earlier last) => do
      let last ← descend isDotted change rest .header last
      some (entries.replace key (.tables earlier last))
    | some _ => none

def assign (path : List String) (key : String) (node : Draft) (origin : Origin) (entries : Drafts) :
    Option Drafts :=
  descend true
    (fun origin entries =>
      if decide (origin = .dotted) == path.isEmpty then none else entries.insertNew? key node)
    path origin entries

def openTable (key : String) (_ : Origin) (entries : Drafts) : Option Drafts :=
  match entries.find? key with
  | none => entries.insertNew? key (.table .header [])
  | some (.table .implied child) => some (entries.replace key (.table .header child))
  | some _ => none

def openNext (key : String) (_ : Origin) (entries : Drafts) : Option Drafts :=
  match entries.find? key with
  | none => entries.insertNew? key (.tables [] [])
  | some (.tables earlier last) => some (entries.replace key (.tables (earlier ++ [last]) []))
  | some _ => none

end Boundary.Toml
