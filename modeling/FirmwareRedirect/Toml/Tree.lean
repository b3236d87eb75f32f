import FirmwareRedirect.Toml.Cursor
/-!
# TOML documents as trees

A TOML document is a table. A table maps keys, in the order they were first defined, to nodes:
scalars, arrays, inline tables, tables and arrays of tables. Inline tables and arrays are
values; a key path may only pass through tables and through the last table of an array of
tables.

Tables remember how they came about. An implicit table was created on the way to a deeper one
(`[a.b]` creates `a`) and may still be defined by its own header later; a dotted table was
created by a dotted key (`a.b = 1`) and may not be.
-/

namespace FirmwareRedirect.Toml

/-- A key with the span of its text in the document, when it has one. -/
structure Key where
  name : String
  span : Option Span
  deriving Repr, Inhabited

/-- A scalar value. -/
inductive Scalar where
  | string (s : String)
  | integer (n : Int)
  | float (f : Float)
  | boolean (b : Bool)
  | datetime (text : String)
  deriving Inhabited

/-- How a table came about. -/
structure TableInfo where
  implicit : Bool
  dotted : Bool
  span : Option Span
  inline : Bool
  deriving Repr, Inhabited

/-- The flags of a table made by a header or by hand. -/
def TableInfo.plain : TableInfo := ⟨false, false, none, false⟩

/-- A node of a document. -/
inductive Node where
  | scalar (v : Scalar) (span : Span)
  | array (elems : List Node) (span : Span)
  | table (entries : List (Key × Node)) (info : TableInfo)
  | tables (elems : List (List (Key × Node) × TableInfo))
  deriving Inhabited

/-- A table on its own. -/
structure Table where
  entries : List (Key × Node)
  info : TableInfo
  deriving Inhabited

/-- The empty table made by a header. -/
def Table.empty : Table := ⟨[], .plain⟩

/-- The span of a node, when it has one. -/
def Node.span? : Node → Option Span
  | .scalar _ s => some s
  | .array _ s => some s
  | .table _ m => m.span
  | .tables _ => none

/-- The name of a value's type, as messages give it. -/
def Node.typeName : Node → String
  | .scalar (.string _) _ => "string"
  | .scalar (.integer _) _ => "integer"
  | .scalar (.float _) _ => "float"
  | .scalar (.boolean _) _ => "boolean"
  | .scalar (.datetime _) _ => "datetime"
  | .array _ _ => "array"
  | .table _ m => if m.inline then "inline table" else "table"
  | .tables _ => "array of tables"

/-- Why a definition does not fit the document built so far. -/
inductive TreeError where
  /-- A key is defined twice; the table is named when the message names it. -/
  | duplicateKey (key : String) (table : Option (List String))
  /-- A dotted key passes through a value. -/
  | extendWrongType (path : List String) (actual : String)

/-- The text of a tree error. -/
def TreeError.message : TreeError → String
  | .duplicateKey key none => "duplicate key `" ++ key ++ "`"
  | .duplicateKey key (some []) => "duplicate key `" ++ key ++ "` in document root"
  | .duplicateKey key (some t) => "duplicate key `" ++ key ++ "` in table `" ++ ".".intercalate t ++ "`"
  | .extendWrongType path actual =>
    "dotted key `" ++ ".".intercalate path ++ "` attempted to extend non-table type (" ++ actual ++ ")"

/-- The error for a second definition of the last key of `path`. -/
def duplicateAt (path : List Key) : TreeError :=
  match path.reverse with
  | k :: before => .duplicateKey k.name (some (before.reverse.map (·.name)))
  | [] => .duplicateKey "" (some [])

namespace Table

/-- The node under a key. -/
def find? (t : Table) (k : String) : Option Node :=
  (t.entries.find? (·.1.name == k)).map (·.2)

/-- Put a node under a new key, after the others. -/
def push (t : Table) (k : Key) (n : Node) : Table := { t with entries := t.entries ++ [(k, n)] }

/-- Replace the node under a key, in place. -/
def replace (t : Table) (k : String) (n : Node) : Table :=
  { t with entries := t.entries.map fun e => if e.1.name == k then (e.1, n) else e }

/-- Take out the entry of a key, keeping the order of the others. -/
def remove (t : Table) (k : String) : Option Node × Table :=
  ((t.find? k), { t with entries := t.entries.filter (·.1.name != k) })

/-- The table as a node. -/
def toNode (t : Table) : Node := .table t.entries t.info

end Table

/-- Work on the table at the end of `path` below `t`, creating missing tables with the given
`dotted` flag, and put the changed tables back. `done` is the part of the path already walked,
for messages. -/
def Table.modifyAt {α : Type} (dotted : Bool) (f : Table → Except TreeError (Table × α)) :
    Table → List Key → List Key → Except TreeError (Table × α)
  | t, [], _ => f t
  | t, k :: rest, done => do
    let path := done ++ [k]
    match t.find? k.name with
    | none =>
      let (child, a) ← Table.modifyAt dotted f ⟨[], ⟨true, dotted, none, false⟩⟩ rest path
      return (t.push k child.toNode, a)
    | some (.table es m) =>
      if m.inline then throw (.extendWrongType (path.map (·.name)) "inline table")
      else
        let (child, a) ← Table.modifyAt dotted f ⟨es, m⟩ rest path
        return (t.replace k.name child.toNode, a)
    | some (.tables elems) =>
      match elems.reverse with
      | (es, m) :: before =>
        let (child, a) ← Table.modifyAt dotted f ⟨es, m⟩ rest path
        return (t.replace k.name (.tables (before.reverse ++ [(child.entries, child.info)])), a)
      | [] => throw (.extendWrongType (path.map (·.name)) "array of tables")
    | some n => throw (.extendWrongType (path.map (·.name)) n.typeName)

/-- The state of a document being read: the root, and the table that the lines being read go
into, which joins the root when the next header starts or the document ends. -/
structure DocState where
  root : Table
  current : Table
  currentPath : List Key
  currentIsArray : Bool
  deriving Inhabited

namespace DocState

/-- The state before the first line. -/
def initial : DocState := ⟨Table.empty, Table.empty, [], false⟩

/-- Put the current table into the root. -/
def finalize (s : DocState) : Except TreeError DocState := do
  let table := s.current
  let path := s.currentPath
  let s := { s with current := Table.empty, currentPath := [] }
  match path.reverse with
  | [] => return { s with root := table }
  | key :: before =>
    let parentPath := before.reverse
    if s.currentIsArray then
      let (root, _) ← s.root.modifyAt false (fun parent =>
        match parent.find? key.name with
        | none => return (parent.push key (.tables [(table.entries, table.info)]), ())
        | some (.tables elems) =>
          return (parent.replace key.name (.tables (elems ++ [(table.entries, table.info)])), ())
        | some _ => throw (duplicateAt path)) parentPath []
      return { s with root := root }
    else
      let (root, _) ← s.root.modifyAt false (fun parent =>
        match parent.find? key.name with
        | none => return (parent.push key table.toNode, ())
        | some (.table _ m) =>
          if m.implicit && !m.inline then return (parent.replace key.name table.toNode, ())
          else throw (duplicateAt path)
        | some _ => throw (duplicateAt path)) parentPath []
      return { s with root := root }

/-- Start the table of a `[header]`. -/
def startTable (s : DocState) (path : List Key) (span : Span) : Except TreeError DocState := do
  match path.reverse with
  | [] => return s
  | key :: before =>
    let (root, found) ← s.root.modifyAt false (fun parent =>
      let (old, parent') := parent.remove key.name
      match old with
      | none => return (parent', none)
      | some (.table es m) =>
        if m.implicit && !m.dotted && !m.inline then return (parent', some es)
        else throw (duplicateAt path)
      | some _ => throw (duplicateAt path)) before.reverse []
    let entries := found.getD []
    return { s with root := root, current := ⟨entries, ⟨false, false, some span, false⟩⟩,
                    currentPath := path, currentIsArray := false }

/-- Start a table of a `[[header]]`. -/
def startArrayTable (s : DocState) (path : List Key) (span : Span) : Except TreeError DocState := do
  match path.reverse with
  | [] => return s
  | key :: before =>
    let (root, _) ← s.root.modifyAt false (fun parent =>
      match parent.find? key.name with
      | none => return (parent.push key (.tables []), ())
      | some (.tables _) => return (parent, ())
      | some _ => throw (duplicateAt path)) before.reverse []
    return { s with root := root, current := ⟨[], ⟨false, false, some span, false⟩⟩,
                    currentPath := path, currentIsArray := true }

/-- Define `path.key = value` in the current table. -/
def keyval (s : DocState) (path : List Key) (key : Key) (value : Node) :
    Except TreeError DocState := do
  let current :=
    match s.current.info.span, value.span? with
    | some a, some b => { s.current with info := { s.current.info with span := some ⟨a.start, b.stop⟩ } }
    | _, _ => s.current
  let (current, _) ← current.modifyAt true (fun t =>
    if t.info.dotted == path.isEmpty then throw (.duplicateKey key.name none)
    else match t.find? key.name with
      | some _ => throw (.duplicateKey key.name (some (s.currentPath.map (·.name))))
      | none => return (t.push key value, ())) path []
  return { s with current := current }

end DocState

/-- Build an inline table from its key-value pairs. -/
def inlineTableOf (pairs : List (List Key × Key × Node)) (span : Span) : Except TreeError Node := do
  let mut t : Table := ⟨[], ⟨false, false, some span, true⟩⟩
  for (path, key, value) in pairs do
    let (t', _) ← t.modifyAt true (fun u =>
      if u.info.dotted == path.isEmpty then throw (.duplicateKey key.name none)
      else match u.find? key.name with
        | some _ => throw (.duplicateKey key.name none)
        | none => return (u.push key value, ())) path []
    t := t'
  return t.toNode

end FirmwareRedirect.Toml
