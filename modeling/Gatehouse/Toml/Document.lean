import Gatehouse.Toml.Scalar

/-!
# TOML documents

A document is a sequence of lines, each with an entry or the header of a table.
A table is defined once: by a header, or by the points in the keys of entries.
A table that only stands on the way to another may be defined later.
-/

namespace Gatehouse.Toml

/-- How a table came about. -/
inductive Origin where
  /-- By a header of its own. -/
  | header
  /-- On the way to a table with a header. -/
  | implied
  /-- By the points of a key. -/
  | points
  deriving DecidableEq

/-- A part of a document that is being read. -/
inductive Node where
  | value (value : Toml)
  | table (origin : Origin) (entries : List (String × Node))
  | tables (items : List (List (String × Node)))

/-- The entries of a table that is being read. -/
abbrev Entries := List (String × Node)

/-- Replace the entry of a key, or add one. -/
def setEntry (key : String) (node : Node) : Entries → Entries
  | [] => [(key, node)]
  | entry :: rest =>
      if entry.1 == key then (key, node) :: rest else entry :: setEntry key node rest

/-- Change the table at the end of a path. Tables that are missing on the way
are made; `byPoints` tells that the path is that of a key with points, which
enters no table with a header. -/
def updateAt (byPoints : Bool) (change : Origin → Entries → Option Entries) :
    List String → Origin → Entries → Option Entries
  | [], origin, entries => change origin entries
  | key :: path, _, entries =>
      match entries.lookup key with
      | none => do
          let origin := if byPoints then Origin.points else Origin.implied
          return setEntry key (.table origin (← updateAt byPoints change path origin [])) entries
      | some (.value _) => none
      | some (.table origin inner) => do
          if byPoints && origin == .header then none
          else
            let changed ← updateAt byPoints change path origin inner
            return setEntry key (.table origin changed) entries
      | some (.tables items) => do
          let last ← items.getLast?
          let changed ← updateAt byPoints change path .header last
          return setEntry key (.tables (items.dropLast ++ [changed])) entries

/-- Add an entry that must be new. Behind a path of points, the table must have
been made by points. -/
def addEntry (dotted : Bool) (key : String) (node : Node) (origin : Origin) (entries : Entries) :
    Option Entries :=
  if (origin == .points) != dotted then none
  else if (entries.lookup key).isSome then none
  else some (entries ++ [(key, node)])

/-- Add an entry whose key may have points. -/
def addDotted (path : List String) (node : Node) (origin : Origin) (entries : Entries) :
    Option Entries := do
  let key ← path.getLast?
  let way := path.dropLast
  updateAt true (addEntry (!way.isEmpty) key node) way origin entries

mutual
/-- The value of a part of a document. -/
def Node.toToml : Node → Toml
  | .value value => value
  | .table _ entries => .table (entriesToToml entries)
  | .tables items => .array (tablesToToml items)

/-- The values of entries. -/
def entriesToToml : List (String × Node) → List (String × Toml)
  | [] => []
  | (key, node) :: rest => (key, node.toToml) :: entriesToToml rest

/-- The values of tables. -/
def tablesToToml : List (List (String × Node)) → List Toml
  | [] => []
  | entries :: rest => .table (entriesToToml entries) :: tablesToToml rest
end

mutual
/-- Read a value; `depth` counts the arrays and tables around it. -/
def readValue (fuel depth : Nat) (text : List Char) : Option (Toml × List Char) :=
  match fuel with
  | 0 => none
  | fuel + 1 =>
      match text with
      | '[' :: rest =>
          if depth + 1 < depthLimit then readItems fuel (depth + 1) [] rest else none
      | '\x7b' :: rest =>
          if depth + 1 < depthLimit then
            match skipBlanks rest with
            | '\x7d' :: rest => some (.table [], rest)
            | rest => readPairs fuel (depth + 1) [] rest
          else none
      | 't' :: 'r' :: 'u' :: 'e' :: rest => some (.bool true, rest)
      | 'f' :: 'a' :: 'l' :: 's' :: 'e' :: rest => some (.bool false, rest)
      | c :: _ =>
          if c = '"' ∨ c = '\'' then
            (readString text).map fun (text, rest) => (.string text, rest)
          else
            match dropMoment? text with
            | some rest => some (.date, rest)
            | none => readNumber text
      | [] => none

/-- Read the rest of an array behind the items read so far, kept in reverse. -/
def readItems (fuel depth : Nat) (done : List Toml) (text : List Char) :
    Option (Toml × List Char) :=
  match fuel with
  | 0 => none
  | fuel + 1 =>
      match skipLines fuel text with
      | ']' :: rest => some (.array done.reverse, rest)
      | text =>
          match readValue fuel depth text with
          | none => none
          | some (item, rest) =>
              match skipLines fuel rest with
              | ',' :: rest => readItems fuel depth (item :: done) rest
              | ']' :: rest => some (.array (item :: done).reverse, rest)
              | _ => none

/-- Read the rest of a table on one line behind the entries read so far. -/
def readPairs (fuel depth : Nat) (done : Entries) (text : List Char) :
    Option (Toml × List Char) :=
  match fuel with
  | 0 => none
  | fuel + 1 =>
      match readKey text with
      | some (path, '=' :: rest) =>
          match readValue fuel depth (skipBlanks rest) with
          | none => none
          | some (value, rest) =>
              match addDotted path (.value value) .header done with
              | none => none
              | some entries =>
                  match skipBlanks rest with
                  | ',' :: rest => readPairs fuel depth entries rest
                  | '\x7d' :: rest => some (.table (entriesToToml entries), rest)
                  | _ => none
      | _ => none
end

/-- A document in the middle of its lines: the path of the table that entries
go to, and all tables. -/
structure Draft where
  path : List String
  root : Entries

namespace Draft

/-- Begin a table with a header. -/
def beginTable (path : List String) (draft : Draft) : Option Draft := do
  let key ← path.getLast?
  let define (_ : Origin) (entries : Entries) : Option Entries :=
    match entries.lookup key with
    | none => some (entries ++ [(key, .table .header [])])
    | some (.table .implied inner) => some (setEntry key (.table .header inner) entries)
    | some _ => none
  return ⟨path, ← updateAt false define path.dropLast .header draft.root⟩

/-- Begin one more table of an array. -/
def beginItem (path : List String) (draft : Draft) : Option Draft := do
  let key ← path.getLast?
  let extend (_ : Origin) (entries : Entries) : Option Entries :=
    match entries.lookup key with
    | none => some (entries ++ [(key, .tables [[]])])
    | some (.tables items) => some (setEntry key (.tables (items ++ [[]])) entries)
    | some _ => none
  return ⟨path, ← updateAt false extend path.dropLast .header draft.root⟩

/-- Add an entry to the table that was begun last. -/
def add (path : List String) (value : Toml) (draft : Draft) : Option Draft := do
  let insert (_ : Origin) (entries : Entries) : Option Entries :=
    addDotted path (.value value) .header entries
  return ⟨draft.path, ← updateAt false insert draft.path .header draft.root⟩

/-- Read a header behind its opening bracket. -/
def readHeader (draft : Draft) (text : List Char) : Option (Draft × List Char) :=
  match text with
  | '[' :: rest => do
      let (path, rest) ← readKey rest
      match rest with
      | ']' :: ']' :: rest => return (← draft.beginItem path, ← endLine? rest)
      | _ => none
  | _ => do
      let (path, rest) ← readKey text
      match rest with
      | ']' :: rest => return (← draft.beginTable path, ← endLine? rest)
      | _ => none

/-- Read an entry on a line of its own. -/
def readEntry (draft : Draft) (text : List Char) : Option (Draft × List Char) := do
  let (path, rest) ← readKey text
  match rest with
  | '=' :: rest => do
      let (value, rest) ← readValue (3 * text.length + 3) 0 (skipBlanks rest)
      return (← draft.add path value, ← endLine? rest)
  | _ => none

/-- Read the remaining lines; `fuel` bounds their number. -/
def readRest : Nat → Draft → List Char → Option Draft
  | 0, _, _ => none
  | fuel + 1, draft, text =>
      match skipLines text.length text with
      | [] => some draft
      | '[' :: rest =>
          match draft.readHeader rest with
          | some (draft, rest) => readRest fuel draft rest
          | none => none
      | text =>
          match skipComment text with
          | [] => some draft
          | _ =>
              match draft.readEntry text with
              | some (draft, rest) => readRest fuel draft rest
              | none => none

end Draft

/-- The table that a document spells. A mark of byte order at its front is
passed over. -/
def parse? (text : String) : Option Toml :=
  let chars := match text.toList with
    | '\uFEFF' :: rest => rest
    | chars => chars
  (Draft.readRest (chars.length + 1) ⟨[], []⟩ chars).map fun draft =>
    .table (entriesToToml draft.root)

end Gatehouse.Toml
