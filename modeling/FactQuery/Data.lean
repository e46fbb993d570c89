import FactQuery.Number.Shortest
import FactQuery.Text.Quoted

/-!
# Documents of data

Settings and the bodies of requests and responses are documents: numbers, texts and truth values in
lists and records.
-/

set_option autoImplicit false

namespace FactQuery

open FactQuery.Text

inductive Data where
  | null
  | bool (value : Bool)
  | integer (value : Int)
  | decimal (value : Number.Binary64)
  | text (value : String)
  | list (items : List Data)
  | record (fields : List (String × Data))
  deriving Repr

namespace Data

instance : Inhabited Data :=
  ⟨.null⟩

/-- The value of a field.  Of two fields with one name the last counts. -/
def field? (data : Data) (name : String) : Option Data :=
  match data with
  | .record fields => (fields.reverse.find? (·.1 == name)).map Prod.snd
  | _ => none

/-- Nothing, zero and whatever is empty count as false. -/
def isTrue : Data → Bool
  | .null => false
  | .bool value => value
  | .integer value => value != 0
  | .decimal (.finite _ units) => units != 0
  | .decimal (.infinite _) => true
  | .text value => !value.isEmpty
  | .list items => !items.isEmpty
  | .record fields => !fields.isEmpty

mutual

/-- A document inside another as messages show it. -/
def shown : Data → String
  | .null => "None"
  | .bool value => if value then "True" else "False"
  | .integer value => toString value
  | .decimal value => value.shortest
  | .text value => quoted value
  | .list items => "[" ++ ", ".intercalate (shownItems items) ++ "]"
  | .record fields => "\x7b" ++ ", ".intercalate (shownFields fields) ++ "\x7d"

def shownItems : List Data → List String
  | [] => []
  | item :: others => item.shown :: shownItems others

def shownFields : List (String × Data) → List String
  | [] => []
  | (name, value) :: others => (quoted name ++ ": " ++ value.shown) :: shownFields others

end

def asText : Data → String
  | .text value => value
  | other => other.shown

def ofText? : Option String → Data
  | some value => .text value
  | none => .null

end Data

end FactQuery
