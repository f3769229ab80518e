import Extremum.Arena
import Extremum.Matrix
import Extremum.Parameter
import Extremum.Table

/-!
# Stores of parameters

A store refers to parameters by key, in the order in which the keys first came. Parameters live in an arena,
so that several entries may share one: whoever changes its value changes it for all of them. The operations
act on an arena and one store together, and what they did before they failed stays done.
-/

namespace Extremum

/-- Parameters by key. -/
abbrev Store := Table (Ref Parameter)

/-- A store together with the parameters that it refers to. -/
structure Settings where
  parameters : Arena Parameter := {}
  store : Store := {}

/-- Changes to settings that may fail. -/
abbrev Settings.Change := ExceptT (Error Float) (StateM Settings)

namespace Settings

def contents (s : Settings) : List (String × Parameter) :=
  s.store.entries.filterMap fun (key, r) ↦ (s.parameters.get? r).map fun p ↦ (key, p)

/-- A line for each parameter, begun with `margin`: its key, its description if it has one, its value. -/
def lines (margin : String) (s : Settings) : List String :=
  s.contents.map fun (key, p) ↦
    let label := if p.description.isEmpty then key else key ++ " (" ++ p.description ++ ")"
    margin ++ label ++ ": " ++ p.content.shown

/-! ## Entries -/

/-- Makes the entry under a key refer to a given parameter; nothing else can be an entry. -/
def assign (key : String) (item : Given (Ref Parameter)) : Change Unit :=
  match item with
  | .ok r => modify fun s ↦ { s with store := s.store.insert key r }
  | .error given => throw (.entryExpected key given)

/-- Assigns one entry after the other, up to the first that is no parameter. Items that come under one key
count as one entry, at the place of the first and with the item of the last. -/
def assignAll (items : Reading Float (List (String × Given (Ref Parameter)))) : Change Unit := do
  for (key, item) in (Table.ofPairs (← items)).entries do
    assign key item

/-- Assigns an entry unless its key is present. -/
def assignIfAbsent (key : String) (item : Given (Ref Parameter)) : Change Unit := do
  unless (← get).store.contains key do
    assign key item

/-- Takes the entry under a key out; the key has to be present. -/
def erase (key : String) : Change Unit := do
  if (← get).store.contains key then modify fun s ↦ { s with store := s.store.erase key }
  else throw (.unfit .key)

def clear : Change Unit :=
  modify fun s ↦ { s with store := {} }

/-! ## Values -/

/-- Adds a parameter and puts it under a key. -/
def put (key : String) (content : Reading Float Content) (description : String) : Change Unit := do
  let content ← content
  modify fun s ↦
    let (r, parameters) := s.parameters.add { content, description }
    { parameters, store := s.store.insert key r }

/-- The parameter under a key, and where it is. -/
def find (key : String) : Change (Ref Parameter × Parameter) := do
  let s ← get
  match s.store.get? key with
  | none => throw (.keyNotFound key)
  | some r => match s.parameters.get? r with
    | some p => return (r, p)
    | none => throw (.keyNotFound key)

/-- The value under a key, for those who ask for its type. -/
def value (key : String) (requested : Reading Float ParameterType) : Change Content := do
  let (_, p) ← find key
  p.get requested

/-- Gives the parameter under a key another value of its type. -/
def update (key : String) (content : Reading Float Content) : Change Unit := do
  let (r, p) ← find key
  let p ← p.set content
  modify fun s ↦ { s with parameters := s.parameters.set r p }

/-- Adds parameters one after the other: key, value and description. -/
def putAll (items : List (String × Reading Float Content × String)) : Change Unit :=
  items.forM fun (key, content, description) ↦ put key content description

/-- Gives values to keys one after the other: the parameter under a key that is present gets another value,
and under any other key a parameter is added. -/
def configure (items : List (String × Content)) : Change Unit :=
  items.forM fun (key, content) ↦ do
    if (← get).store.contains key then update key (.ok content)
    else put key (.ok content) ""

/-- Replaces one entry of the vector under a key, for those who ask for a vector, and answers the new vector. -/
def setEntry (key : String) (requested : Reading Float ParameterType) (index : Int)
    (entry : Reading Float Float) : Change Content := do
  let (r, p) ← find key
  match (← p.get requested) with
  | .vector entries =>
    let content := Content.vector (← Vec.setEntry entries index entry)
    modify fun s ↦ { s with parameters := s.parameters.set r { p with content } }
    return content
  | _ => throw (.unfit .type)

end Settings

end Extremum
