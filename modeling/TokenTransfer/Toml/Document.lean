import TokenTransfer.Toml.Scalar

namespace TokenTransfer.Toml

def isBare (c : Char) : Bool := c.isAlphanum || c == '-' || c == '_'

def skipComment (chars : List Char) : Option (List Char) :=
  match chars with
  | '#' :: rest =>
    let last := rest.dropWhile isPlain
    if last.isEmpty || (readNewline last).isSome then some last else none
  | _ => some chars

def skipTrivia : Nat → List Char → Option (List Char)
  | 0,_ => none
  | budget+1,chars =>
    match skipBlanks chars with
    | '#' :: rest => (skipComment ('#' :: rest)).bind (skipTrivia budget)
    | here =>
      match readNewline here with
      | some rest => skipTrivia budget rest
      | none => some here

def endLine (chars : List Char) : Option (List Char) := do
  let last ← skipComment (skipBlanks chars)
  if last.isEmpty then some [] else readNewline last

def readSimpleKey (chars : List Char) : Option (String × List Char) :=
  match chars with
  | [] => none
  | c :: rest =>
    if c = '"' then (readBasic (rest.length + 1) rest).map fun found => (String.ofList found.1,found.2)
    else if c = Char.ofNat 39 then (readLiteral rest).map fun found => (String.ofList found.1,found.2)
    else
      let name := chars.takeWhile isBare
      if name.isEmpty then none else some (String.ofList name,chars.dropWhile isBare)

def depthLimit : Nat := 80

def readKeyParts : Nat → List Char → Option (List String × List Char)
  | 0,_ => none
  | budget+1,chars => do
    let (name,rest) ← readSimpleKey (skipBlanks chars)
    match skipBlanks rest with
    | '.' :: more => do
      let (names,last) ← readKeyParts budget more
      return (name :: names,last)
    | last => return ([name],last)

def readKey (chars : List Char) : Option (List String × List Char) := readKeyParts (depthLimit - 1) chars

mutual

def readValue : Nat → Nat → List Char → Option (Item × List Char)
  | 0,_,_ => none
  | budget+1,depth,chars =>
    match chars with
    | '[' :: rest => if depth + 1 < depthLimit then readItems budget (depth + 1) rest else none
    | '{' :: rest => if depth + 1 < depthLimit then readInline budget (depth + 1) rest else none
    | _ => readScalar chars

def readItems : Nat → Nat → List Char → Option (Item × List Char)
  | 0,_,_ => none
  | budget+1,depth,chars => do
    match ← skipTrivia (chars.length + 1) chars with
    | ']' :: rest => return (.array [],rest)
    | start =>
      let (item,afterItem) ← readValue budget depth start
      match ← skipTrivia (afterItem.length + 1) afterItem with
      | ']' :: rest => return (.array [item],rest)
      | ',' :: rest =>
        match ← readItems budget depth rest with
        | (.array items,last) => return (.array (item :: items),last)
        | _ => none
      | _ => none

-- A table on one line may be empty, but a comma needs an entry behind it.
def readInline : Nat → Nat → List Char → Option (Item × List Char)
  | 0,_,_ => none
  | budget+1,depth,chars =>
    match skipBlanks chars with
    | '}' :: rest => some (.inline .written [],rest)
    | start => do
      let (pairs,rest) ← readPairs budget depth start
      let entries ← pairs.foldlM (fun entries (pair : List String × Item) => do
        let key ← pair.1.getLast?
        addInline (1 < pair.1.length) key pair.2 .written pair.1.dropLast entries) ([] : Entries)
      return (.inline .written entries,rest)

def readPairs : Nat → Nat → List Char → Option (List (List String × Item) × List Char)
  | 0,_,_ => none
  | budget+1,depth,chars => do
    let (key,afterKey) ← readKey chars
    let afterSign ← expect '=' afterKey
    let (value,afterValue) ← readValue budget depth (skipBlanks afterSign)
    match skipBlanks afterValue with
    | '}' :: rest => return ([(key,value)],rest)
    | ',' :: rest => do
      let (pairs,last) ← readPairs budget depth rest
      return ((key,value) :: pairs,last)
    | _ => none

end

def readLine (draft : Draft) (chars : List Char) : Option (Draft × List Char) :=
  match chars with
  | '[' :: '[' :: rest => do
    let (path,afterPath) ← readKey rest
    match afterPath with
    | ']' :: ']' :: last => return (← draft.openListed path,← endLine last)
    | _ => none
  | '[' :: rest => do
    let (path,afterPath) ← readKey rest
    match afterPath with
    | ']' :: last => return (← draft.openTable path,← endLine last)
    | _ => none
  | _ => do
    let (path,afterKey) ← readKey chars
    let afterSign ← expect '=' afterKey
    let (value,last) ← readValue (2 * chars.length + 2) 0 (skipBlanks afterSign)
    return (← draft.define path value,← endLine last)

def readLines : Nat → Draft → List Char → Option Draft
  | 0,_,_ => none
  | budget+1,draft,chars => do
    match ← skipTrivia (chars.length + 1) chars with
    | [] => return draft
    | start =>
      let (next,rest) ← readLine draft start
      readLines budget next rest

def read (text : String) : Option Entries := do
  let chars := match text.toList with
    | c :: rest => if c.toNat = 0xFEFF then rest else c :: rest
    | [] => []
  (← readLines (chars.length + 1) .start chars).close

end TokenTransfer.Toml
