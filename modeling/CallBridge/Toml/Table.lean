import CallBridge.Toml.Value

/-!
# Building tables

Statements add to tables along paths of keys. A table is defined at most once, and who may add to
it depends on how it came about: nobody to an inline table, dotted keys only to tables that dotted
keys have made, and a header of its own may follow once on a table that longer headers implied.
-/

namespace CallBridge.Toml

/-- A table while it is built. -/
structure Table where
  form : Form
  entries : Entries := []
deriving Repr

namespace Entries

def find? (es : Entries) (name : String) : Option (Key × Mark × Value) :=
  List.find? (fun e => e.1.name == name) es

def replace (es : Entries) (name : String) (v : Value) : Entries :=
  List.map (fun e => if e.1.name == name then (e.1, e.2.1, v) else e) es

def erase (es : Entries) (name : String) : Entries :=
  List.filter (fun e => e.1.name != name) es

end Entries

/-- Whether a path may lead through a table of this form. -/
def passes (dotted : Bool) (form : Form) : Bool :=
  match form with
  | .inline => false
  | .header => !dotted
  | .implied | .dotted => true

/-- Change the table at the end of a path. Tables on the way that do not exist yet are made;
an array of tables stands for its last table. -/
def Table.alter (dotted : Bool) (f : Table → Option Table) : List Key → Table → Option Table
  | [], t => f t
  | k :: path, t =>
    match Entries.find? t.entries k.name with
    | none => do
      let child ← Table.alter dotted f path { form := if dotted then .dotted else .implied }
      some { t with entries := t.entries ++ [(k, k.mark, .table child.form child.entries)] }
    | some (_, _, .table form entries) =>
      if passes dotted form then do
        let child ← Table.alter dotted f path { form, entries }
        some { t with
          entries := Entries.replace t.entries k.name (.table child.form child.entries) }
      else none
    | some (_, _, .array true items) =>
      match items.getLast? with
      | some (mark, .table form entries) => do
        let child ← Table.alter dotted f path { form, entries }
        some { t with
          entries := Entries.replace t.entries k.name
            (.array true (items.dropLast ++ [(mark, .table child.form child.entries)])) }
      | _ => none
    | some _ => none

def Table.add (t : Table) (k : Key) (mark : Mark) (v : Value) : Option Table :=
  match Entries.find? t.entries k.name with
  | some _ => none
  | none => some { t with entries := t.entries ++ [(k, mark, v)] }

/-- A key with its value: the parts of a dotted key lead to tables that dotted keys have made. -/
def Table.assign (t : Table) (path : List Key) (k : Key) (mark : Mark) (v : Value) :
    Option Table :=
  t.alter (!path.isEmpty)
    (fun parent =>
      if (parent.form == .dotted) == !path.isEmpty then parent.add k mark v else none)
    path

def Table.openTable (t : Table) (path : List Key) (k : Key) (mark : Mark) : Option Table :=
  t.alter false
    (fun parent =>
      match Entries.find? parent.entries k.name with
      | none => parent.add k mark (.table .header [])
      | some (_, _, .table .implied entries) =>
        Table.add { parent with entries := Entries.erase parent.entries k.name } k mark
          (.table .header entries)
      | some _ => none)
    path

/-- A header in double brackets: one more table at the end of an array. -/
def Table.openElement (t : Table) (path : List Key) (k : Key) (mark : Mark) : Option Table :=
  t.alter false
    (fun parent =>
      match Entries.find? parent.entries k.name with
      | none => parent.add k mark (.array true [(mark, .table .header [])])
      | some (_, _, .array true items) =>
        some { parent with
          entries := Entries.replace parent.entries k.name
            (.array true (items ++ [(mark, .table .header [])])) }
      | some _ => none)
    path

end CallBridge.Toml
