/-!
# Configuration documents

A configuration document is a table of named values, which may be tables again.  A document can
write a table in pieces, but not every table can be added to: that depends on how it was first
written.  A number that stands for nothing does no harm as long as nobody asks for it.

Both are kept in the values themselves.  A table knows its origin (`TableOrigin`), and what may be
added to it is decided by comparing this with the way in which something is to be added.  A number
without a value is a value of its own (`Toml.faulty`), which whoever reads the document may find or
not.

All changes of a document go through one function: `Table.editAt` leads along a path of keys, makes
tables on the way where they are missing, and edits the table at the end.  A header, a header in
double brackets and a key with dots differ only in the edit and in what the tables on the way count
as.
-/

namespace SceneEngine

/-- How a table was first written. -/
inductive TableOrigin where
  /-- With a header of its own. -/
  | header
  /-- By a longer header that leads through it. -/
  | implied
  /-- By keys with dots that lead through it. -/
  | dotted
  /-- In braces; it is complete. -/
  | braces
  deriving DecidableEq

/-- A value of a configuration document. -/
inductive Toml where
  /-- A text in any kind of quotes. -/
  | text (value : String)
  /-- A whole number in any base. -/
  | integer (value : Int)
  | real (value : Float)
  /-- A number without a value, as it is written: it is too large, it lacks digits, or it holds
  something else beside them. -/
  | faulty (written : String)
  | bool (value : Bool)
  /-- A date, a time of day or both, as it is written. -/
  | moment (written : String)
  /-- A list in brackets, whose items may be of different kinds. -/
  | list (items : List Toml)
  /-- Tables written one by one under headers in double brackets. -/
  | tables (items : List Toml)
  /-- A table, with how it was first written and its fields in their order. -/
  | table (origin : TableOrigin) (fields : List (String × Toml))
  deriving Inhabited

namespace Toml

mutual

/-- Whether every number in a value has a value, however deep it lies. -/
def isFaultless : Toml → Bool
  | .faulty _ => false
  | .list items => areFaultless items
  | .tables items => areFaultless items
  | .table _ fields => fieldsAreFaultless fields
  | _ => true

/-- Whether every number in a list of values has a value. -/
def areFaultless : List Toml → Bool
  | [] => true
  | item :: items => isFaultless item && areFaultless items

/-- Whether every number in the fields of a table has a value. -/
def fieldsAreFaultless : List (String × Toml) → Bool
  | [] => true
  | (_, value) :: fields => isFaultless value && fieldsAreFaultless fields

end

/-- A table with what is known about it: a value that is sure to be a table. -/
structure Table where
  origin : TableOrigin
  fields : List (String × Toml)

namespace Table

/-- The table as a value. -/
def toValue (t : Table) : Toml := .table t.origin t.fields

/-- The value of a key.  A key with dots is not looked up here. -/
def get? (t : Table) (key : String) : Option Toml := (t.fields.find? (·.1 == key)).map Prod.snd

/-- Gives a key a value, in place if it has one and else behind all others. -/
def set (t : Table) (key : String) (value : Toml) : Table :=
  if t.fields.any (·.1 == key) then
    { t with fields := t.fields.map fun (k, v) => if k = key then (k, value) else (k, v) }
  else { t with fields := t.fields ++ [(key, value)] }

/-- Whether a path may lead through a table.  Nothing leads into braces, and dotted keys do not
lead into a table that has a header. -/
def admits (made origin : TableOrigin) : Bool :=
  match made, origin with
  | _, .braces => false
  | .dotted, .header => false
  | _, _ => true

/-- Edits the table at the end of a path.  Tables that are missing are made, and those that a dotted
key leads through count as made by it; where tables were written one by one the path leads into the
last of them. -/
def editAt (made : TableOrigin) (edit : Table → Option Table) : List String → Table → Option Table
  | [], t => edit t
  | key :: path, t =>
    match t.get? key with
    | none => do
      let child ← editAt made edit path ⟨made, []⟩
      return t.set key child.toValue
    | some (.table origin fields) =>
      if admits made origin then do
        let origin := if made = .dotted then .dotted else origin
        let child ← editAt made edit path ⟨origin, fields⟩
        return t.set key child.toValue
      else none
    | some (.tables items) =>
      match items.reverse with
      | .table origin fields :: earlier => do
        let child ← editAt made edit path ⟨origin, fields⟩
        return t.set key (.tables (earlier.reverse ++ [child.toValue]))
      | _ => none
    | some _ => none

/-- Adds a value under a key with dots.  The key must be new, and a table that a dotted key adds to
must not have been written as a table. -/
def insert (t : Table) (path : List String) (key : String) (value : Toml) : Option Table :=
  editAt .dotted
    (fun t =>
      if (t.origin == .dotted) == path.isEmpty || (t.get? key).isSome then none
      else some (t.set key value))
    path t

/-- Begins a table under a header.  The key must be new or only implied so far. -/
def beginTable (t : Table) (path : List String) (key : String) : Option Table :=
  editAt .implied
    (fun t =>
      match t.get? key with
      | none => some (t.set key (.table .header []))
      | some (.table .implied fields) => some (t.set key (.table .header fields))
      | some _ => none)
    path t

/-- Begins one more table under a header in double brackets. -/
def beginItem (t : Table) (path : List String) (key : String) : Option Table :=
  editAt .implied
    (fun t =>
      match t.get? key with
      | none => some (t.set key (.tables [.table .header []]))
      | some (.tables items) => some (t.set key (.tables (items ++ [.table .header []])))
      | some _ => none)
    path t

/-- Adds a value to the table that a header began. -/
def insertUnder (t : Table) (headers path : List String) (key : String) (value : Toml) :
    Option Table :=
  editAt .implied (fun t => t.insert path key value) headers t

end Table

end Toml

end SceneEngine
