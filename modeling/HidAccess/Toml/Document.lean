import HidAccess.Toml.Scalar

/-!
# TOML documents

A document is a sequence of lines: keys with values, and headers that say which table the next keys
belong to. A key path may lead through tables that are not there yet. A table is defined once: by a
header, by dotted keys, or in place, and a table defined in one of these ways is not continued in another.
A header may follow headers of its subtables. Arrays and tables in place are nested less than 80 deep.
-/

namespace HidAccess.Toml

inductive Origin where
  /-- Its own header, or the document itself. -/
  | header
  /-- Only headers of tables within it, so far. -/
  | passed
  /-- Dotted keys. -/
  | dotted
  deriving DecidableEq, Repr

mutual

inductive Node where
  | value (v : Value)
  | table (t : OpenTable)
  /-- The tables of one array header, in order. -/
  | tables (ts : List OpenTable)

inductive OpenTable where
  | mk (origin : Origin) (entries : List (String × Node))

end

namespace OpenTable

def origin : OpenTable → Origin
  | .mk o _ => o

def entries : OpenTable → List (String × Node)
  | .mk _ es => es

def empty (o : Origin) : OpenTable := .mk o []

def get? (t : OpenTable) (key : String) : Option Node := t.entries.lookup key

def setEntry (key : String) (n : Node) : List (String × Node) → List (String × Node)
  | [] => [(key, n)]
  | (k, old) :: rest => if k == key then (key, n) :: rest else (k, old) :: setEntry key n rest

def set (t : OpenTable) (key : String) (n : Node) : OpenTable := .mk t.origin (setEntry key n t.entries)

def erase (t : OpenTable) (key : String) : OpenTable :=
  .mk t.origin (t.entries.filter fun e => e.1 != key)

/-- Changes the table at the end of a path. Keys with dots make missing tables on the way and go through
no table that has a header; headers also go through the last table of an array. -/
def changeAt (byKey : Bool) (f : OpenTable → Option OpenTable) : List String → OpenTable → Option OpenTable
  | [], t => f t
  | key :: path, t =>
    match t.get? key with
    | none => do
      let sub ← changeAt byKey f path (.empty (if byKey then .dotted else .passed))
      return t.set key (.table sub)
    | some (.value _) => none
    | some (.table sub) =>
      if byKey && sub.origin == .header then none
      else do
        let sub ← changeAt byKey f path sub
        return t.set key (.table sub)
    | some (.tables ts) =>
      match ts.reverse with
      | [] => none
      | last :: before => do
        let last ← changeAt byKey f path last
        return t.set key (.tables (last :: before).reverse)

def splitPath? (path : List String) : Option (List String × String) :=
  path.getLast?.map fun key => (path.dropLast, key)

def define (path : List String) (v : Value) (t : OpenTable) : Option OpenTable := do
  let (tables, key) ← splitPath? path
  changeAt true (fun sub =>
    if (sub.origin == .dotted) == tables.isEmpty then none
    else match sub.get? key with
      | some _ => none
      | none => some (sub.set key (.value v))) tables t

/-- Takes what a header finds under its path: a table only passed so far, or nothing. -/
def takeForHeader (path : List String) (root : OpenTable) : Option (OpenTable × OpenTable) := do
  let (tables, key) ← splitPath? path
  let found ← lookAt tables key root
  let root ← changeAt false (fun sub => some (sub.erase key)) tables root
  return (found, root)
where
  lookAt : List String → String → OpenTable → Option OpenTable
    | [], key, t =>
      match t.get? key with
      | none => some (.empty .header)
      | some (.table sub) => if sub.origin == .passed then some (.mk .header sub.entries) else none
      | some _ => none
    | step :: path, key, t =>
      match t.get? step with
      | none => some (.empty .header)
      | some (.table sub) => lookAt path key sub
      | some (.tables ts) => ts.getLast?.bind (lookAt path key)
      | some (.value _) => none

def put (path : List String) (root done : OpenTable) : Option OpenTable := do
  let (tables, key) ← splitPath? path
  changeAt false (fun sub => some (sub.set key (.table done))) tables root

def append (path : List String) (root done : OpenTable) : Option OpenTable := do
  let (tables, key) ← splitPath? path
  changeAt false (fun sub =>
    match sub.get? key with
    | none => some (sub.set key (.tables [done]))
    | some (.tables ts) => some (sub.set key (.tables (ts ++ [done])))
    | some _ => none) tables root

end OpenTable

mutual

def Node.close : Node → Value
  | .value v => v
  | .table t => .table t.close
  | .tables ts => .array (closeTables ts)

def OpenTable.close : OpenTable → Table
  | .mk _ entries => closeEntries entries

def closeTables : List OpenTable → List Value
  | [] => []
  | t :: ts => .table t.close :: closeTables ts

def closeEntries : List (String × Node) → Table
  | [] => []
  | (k, n) :: rest => (k, n.close) :: closeEntries rest

end

def isKeyChar (c : Char) : Bool := c.isAlphanum || c == '-' || c == '_'

/-- One key: bare, or a string on one line. -/
def key? : List Char → Option (String × List Char)
  | '"' :: cs => (basic? cs).map fun (s, rest) => (String.ofList s, rest)
  | '\'' :: cs => (literal? cs).map fun (s, rest) => (String.ofList s, rest)
  | cs =>
    match cs.span isKeyChar with
    | ([], _) => none
    | (key, rest) => some (String.ofList key, rest)

def keyPathWithin : (fuel : Nat) → List Char → Option (List String × List Char)
  | 0, _ => none
  | fuel + 1, cs => do
    let (key, rest) ← key? (skipBlanks cs)
    match skipBlanks rest with
    | '.' :: rest => do
      let (keys, rest) ← keyPathWithin fuel rest
      return (key :: keys, rest)
    | rest => return ([key], rest)

/-- The nesting that a document may not reach. -/
def depthLimit : Nat := 80

def keyPath? (cs : List Char) : Option (List String × List Char) :=
  keyPathWithin (depthLimit - 1) cs

abbrev ValueReader := List Char → Option (Value × List Char)

def binding? (value : ValueReader) (cs : List Char) : Option ((List String × Value) × List Char) := do
  let (path, rest) ← keyPath? cs
  match rest with
  | '=' :: rest => do
    let (v, rest) ← value (skipBlanks rest)
    return ((path, v), rest)
  | _ => none

def skipSpace : (fuel : Nat) → List Char → Option (List Char)
  | 0, cs => some cs
  | fuel + 1, cs =>
    match skipBlanks cs with
    | '#' :: rest =>
      match skipComment ('#' :: rest) with
      | [] => some []
      | rest => (lineBreak? rest).bind (skipSpace fuel)
    | rest =>
      match lineBreak? rest with
      | some rest => skipSpace fuel rest
      | none => some rest

/-- The items of an array after its bracket; a comma may follow the last. -/
def itemsWithin (value : ValueReader) : (fuel : Nat) → List Char → Option (List Value × List Char)
  | 0, _ => none
  | fuel + 1, cs => do
    match ← skipSpace cs.length cs with
    | ']' :: rest => return ([], rest)
    | rest => do
      let (v, rest) ← value rest
      match ← skipSpace rest.length rest with
      | ',' :: rest => do
        let (vs, rest) ← itemsWithin value fuel rest
        return (v :: vs, rest)
      | ']' :: rest => return ([v], rest)
      | _ => none

/-- The bindings of a table in place: on one line, without a comma after the last. -/
def bindingsWithin (value : ValueReader) :
    (fuel : Nat) → List Char → Option (List (List String × Value) × List Char)
  | 0, _ => none
  | fuel + 1, cs => do
    let (b, rest) ← binding? value cs
    match skipBlanks rest with
    | ',' :: rest => do
      let (bs, rest) ← bindingsWithin value fuel rest
      return (b :: bs, rest)
    | '}' :: rest => return ([b], rest)
    | _ => none

def tableInPlace? (value : ValueReader) (cs : List Char) : Option (Value × List Char) := do
  match skipBlanks cs with
  | '}' :: rest => return (.table [], rest)
  | rest => do
    let (bindings, rest) ← bindingsWithin value rest.length rest
    let t ← bindings.foldlM (fun t (path, v) => t.define path v) (OpenTable.empty .header)
    return (.table t.close, rest)

/-- A value within `depth` further levels of arrays and tables in place. -/
def valueWithin : (depth : Nat) → ValueReader
  | 0, cs =>
    match cs with
    | '[' :: _ | '{' :: _ => none
    | _ => scalarValue? cs
  | depth + 1, cs =>
    match cs with
    | '[' :: rest => (itemsWithin (valueWithin depth) rest.length rest).map fun (vs, rest) => (.array vs, rest)
    | '{' :: rest => tableInPlace? (valueWithin depth) rest
    | _ => scalarValue? cs

def value? : ValueReader := valueWithin (depthLimit - 1)

/-- A document read so far: the finished tables, and the table of the last header. -/
structure Reading where
  root : OpenTable := .empty .header
  current : OpenTable := .empty .header
  path : List String := []
  inArray : Bool := false

namespace Reading

def finish (r : Reading) : Option OpenTable :=
  match r.path with
  | [] => some r.current
  | path => if r.inArray then r.root.append path r.current else r.root.put path r.current

def startTable (r : Reading) (path : List String) : Option Reading := do
  let root ← r.finish
  let (current, root) ← root.takeForHeader path
  return { root, current, path }

def startItem (r : Reading) (path : List String) : Option Reading := do
  let root ← r.finish
  let _ ← root.append path (.empty .header)
  return { root, current := .empty .header, path, inArray := true }

def bind (r : Reading) (path : List String) (v : Value) : Option Reading := do
  let current ← r.current.define path v
  return { r with current }

def line (r : Reading) : List Char → Option (Reading × List Char)
  | '[' :: '[' :: cs => do
    let (path, rest) ← keyPath? cs
    match rest with
    | ']' :: ']' :: rest => return (← r.startItem path, rest)
    | _ => none
  | '[' :: cs => do
    let (path, rest) ← keyPath? cs
    match rest with
    | ']' :: rest => return (← r.startTable path, rest)
    | _ => none
  | cs => do
    let ((path, v), rest) ← binding? value? cs
    return (← r.bind path v, rest)

/-- Every line takes at least one character, so the length of the text is enough fuel. -/
def linesWithin : (fuel : Nat) → Reading → List Char → Option Reading
  | 0, r, cs => if cs.isEmpty then some r else none
  | fuel + 1, r, cs =>
    if cs.isEmpty then some r
    else match lineEnd? cs with
      | some rest => linesWithin fuel r rest
      | none => do
        let (r, rest) ← r.line (skipBlanks cs)
        linesWithin fuel r (← lineEnd? rest)

end Reading

/-- A byte-order mark at the start does not count. -/
def dropMark : List Char → List Char
  | '\uFEFF' :: cs => cs
  | cs => cs

def read? (s : String) : Option Table := do
  let cs := dropMark s.toList
  let r ← Reading.linesWithin (cs.length + 1) {} cs
  return (← r.finish).close

end HidAccess.Toml
