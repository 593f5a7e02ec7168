import TokenTransfer.Table

namespace TokenTransfer.Toml

-- A table remembers how it came to be. Dotted keys and longer headers create
-- tables in passing; such a table may still be opened or added to, each in its
-- own way, while one that was written out is closed.
inductive Form where
  | passing
  | dotted
  | written
deriving DecidableEq

inductive Item where
  | text (text : String)
  | integer (n : Int)
  | float (spelling : String)
  | bool (truth : Bool)
  | moment (spelling : String)
  | array (items : List Item)
  | inline (form : Form) (entries : List (String × Item))
  | table (form : Form) (entries : List (String × Item))
  | tables (tables : List (List (String × Item)))

abbrev Entries := List (String × Item)

-- A value under a dotted key: `form` is that of the table at hand, `nested`
-- whether the key had dots. A key with dots ends in a dotted table, one
-- without does not.
def addEntry (form : Form) (nested : Bool) (key : String) (value : Item) (entries : Entries) : Option Entries :=
  if (form == .dotted) == nested && (Table.lookup key entries).isNone then some (entries ++ [(key,value)])
  else none

def addInline (nested : Bool) (key : String) (value : Item) : Form → List String → Entries → Option Entries
  | form,[],entries => addEntry form nested key value entries
  | _,step :: path,entries =>
    match Table.lookup step entries with
    | none => (addInline nested key value .dotted path []).map fun inner =>
        Table.replace step (.inline .dotted inner) entries
    | some (.inline .dotted inner) => (addInline nested key value .dotted path inner).map fun next =>
        Table.replace step (.inline .dotted next) entries
    | some _ => none

def changeLast (change : Entries → Option Entries) : List Entries → Option (List Entries)
  | [] => none
  | [last] => (change last).map fun next => [next]
  | first :: second :: rest => (changeLast change (second :: rest)).map (first :: ·)

def addDotted (nested : Bool) (key : String) (value : Item) : Form → List String → Entries → Option Entries
  | form,[],entries => addEntry form nested key value entries
  | _,step :: path,entries =>
    match Table.lookup step entries with
    | none => (addDotted nested key value .dotted path []).map fun inner =>
        Table.replace step (.table .dotted inner) entries
    | some (.table .written _) => none
    | some (.table form inner) => (addDotted nested key value form path inner).map fun next =>
        Table.replace step (.table form next) entries
    | some (.tables list) => (changeLast (addDotted nested key value .written path) list).map fun next =>
        Table.replace step (.tables next) entries
    | some _ => none

def changeAt (change : Entries → Option Entries) : List String → Entries → Option Entries
  | [],entries => change entries
  | step :: path,entries =>
    match Table.lookup step entries with
    | none => (changeAt change path []).map fun inner =>
        Table.replace step (.table .passing inner) entries
    | some (.table form inner) => (changeAt change path inner).map fun next =>
        Table.replace step (.table form next) entries
    | some (.tables list) => (changeLast (changeAt change path) list).map fun next =>
        Table.replace step (.tables next) entries
    | some _ => none

def reopen (key : String) (entries : Entries) : Option Entries :=
  match Table.lookup key entries with
  | none => some []
  | some (.table .passing inner) => some inner
  | some _ => none

def findAt : List String → Entries → Option Entries
  | [],entries => some entries
  | step :: path,entries =>
    match Table.lookup step entries with
    | none => some []
    | some (.table _ inner) => findAt path inner
    | some (.tables list) => list.getLast?.bind (findAt path)
    | some _ => none

structure Draft where
  root : Entries
  path : List String
  listed : Bool
  current : Entries

def Draft.start : Draft := ⟨[],[],false,[]⟩

def Draft.close (draft : Draft) : Option Entries :=
  match draft.path.getLast? with
  | none => some draft.current
  | some key =>
    changeAt (fun entries =>
      if draft.listed then
        match Table.lookup key entries with
        | none => some (Table.replace key (.tables [draft.current]) entries)
        | some (.tables list) => some (Table.replace key (.tables (list ++ [draft.current])) entries)
        | some _ => none
      else some (Table.replace key (.table .written draft.current) entries))
      draft.path.dropLast draft.root

def Draft.openTable (draft : Draft) (path : List String) : Option Draft := do
  let root ← draft.close
  let key ← path.getLast?
  let current ← (← findAt path.dropLast root |>.map (reopen key))
  let root ← changeAt (fun entries => some (Table.remove key entries)) path.dropLast root
  return ⟨root,path,false,current⟩

def Draft.openListed (draft : Draft) (path : List String) : Option Draft := do
  let root ← draft.close
  let key ← path.getLast?
  let root ← changeAt (fun entries =>
    match Table.lookup key entries with
    | none => some (Table.replace key (.tables []) entries)
    | some (.tables _) => some entries
    | some _ => none) path.dropLast root
  return ⟨root,path,true,[]⟩

def Draft.define (draft : Draft) (path : List String) (value : Item) : Option Draft := do
  let key ← path.getLast?
  let current ← addDotted (1 < path.length) key value .written path.dropLast draft.current
  return {draft with current}

end TokenTransfer.Toml
