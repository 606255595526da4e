import Mathlib.Data.List.Infix
import LawFirmDigitalTwin.Lib.Raising
import LawFirmDigitalTwin.PyValue

/-!
# Parsed JSON as Python sees it

What `json.loads` returns is a `Json`. The operations here are those of the language on such values:
truth, equality, membership, iteration, hashing and order. Of a dictionary the last entry for a key
counts. `Builtins` has what is not modelled further: the text of a value that is not a string, and
how a float stands to the integers.
-/

namespace LawFirmDigitalTwin

/-- The operations of the language that the program's results do not depend on, or that are about
floats: `str(v)` of a value that is not a string, the order of values that are not all strings, the
integer that a float equals, and a float beside an integer. -/
structure Builtins where
  str : Json → String
  sorted : List Json → Except PyError (List Json)
  integral : String → Option Int
  compare : String → Int → Option Ordering

/-- What tells two hashable values of a JSON document apart. -/
inductive PyKey
  | none
  | int (i : Int)
  | float (repr : String)
  | str (s : String)
  deriving DecidableEq

/-- A dictionary of a JSON document. -/
abbrev JsonObject := List (String × Json)

/-- `d.get(key)`. -/
def JsonObject.get? (d : JsonObject) (key : String) : Option Json :=
  d.reverse.lookup key

/-- `d.get(key, default)`. -/
def JsonObject.getD (d : JsonObject) (key : String) (default : Json) : Json :=
  (d.get? key).getD default

namespace Json

/-- `str(v)`. -/
def text (B : Builtins) : Json → String
  | .str s => s
  | v => B.str v

/-- `bool(v)`. -/
def truthy (B : Builtins) : Json → Bool
  | .null => false
  | .bool b => b
  | .int i => i ≠ 0
  | .float r => B.integral r ≠ some 0
  | .str s => s ≠ ""
  | .list items => !items.isEmpty
  | .dict entries => !entries.isEmpty

/-- The key of a value that can be hashed. A boolean is an integer, and so is a float that equals
one. -/
def key? (B : Builtins) : Json → Option PyKey
  | .null => some .none
  | .bool b => some (.int (if b then 1 else 0))
  | .int i => some (.int i)
  | .float r => some ((B.integral r).elim (.float r) .int)
  | .str s => some (.str s)
  | .list _ | .dict _ => none

/-- `hash(v)`. -/
def hashed (B : Builtins) (v : Json) : Except PyError PyKey :=
  match v.key? B with
  | some key => .ok key
  | none => .error (.typeError "unhashable type")

mutual

/-- `v is w or v == w`. -/
def same (B : Builtins) : Json → Json → Bool
  | .list items, .list items' => sameItems B items items'
  | .dict entries, .dict entries' =>
    sameEntries B entries entries' && entries'.all fun e => entries.any fun e' => e'.1 = e.1
  | v, w => match v.key? B, w.key? B with
    | some key, some key' => key = key'
    | _, _ => false

def sameItems (B : Builtins) : List Json → List Json → Bool
  | [], [] => true
  | v :: rest, w :: rest' => same B v w && sameItems B rest rest'
  | _, _ => false

/-- Every value that counts is the same in the other dictionary. -/
def sameEntries (B : Builtins) : List (String × Json) → List (String × Json) → Bool
  | [], _ => true
  | (key, v) :: rest, entries' =>
    (if rest.any fun e => e.1 = key then true
      else match JsonObject.get? entries' key with
        | some w => same B v w
        | none => false) && sameEntries B rest entries'

end

/-- `v == w`. Only a float that is not a number differs from itself. -/
def pyEq (B : Builtins) (v w : Json) : Bool :=
  match v with
  | .float "NaN" => false
  | _ => same B v w

/-- `tuple(v)`. -/
def iterate : Json → Except PyError (List Json)
  | .list items => .ok items
  | .dict entries => .ok ((entries.map (·.1)).eraseDups.map .str)
  | .str s => .ok (s.toList.map fun c => .str (String.singleton c))
  | _ => .error (.typeError "object is not iterable")

/-- `v in w`. -/
def isIn (B : Builtins) (v w : Json) : Except PyError Bool :=
  match w with
  | .list items => .ok (items.any fun item => same B item v)
  | .dict entries =>
    (v.hashed B).map fun key => entries.any fun e => PyKey.str e.1 = key
  | .str t =>
    match v with
    | .str s => .ok (s.toList <:+: t.toList)
    | _ => .error (.typeError "'in <string>' requires string as left operand")
  | _ => .error (.typeError "argument is not iterable")

/-- How a number stands to an integer. -/
def order (B : Builtins) (v : Json) (n : Int) : Except PyError (Option Ordering) :=
  match v with
  | .bool b => .ok (some (compare (if b then 1 else 0) n))
  | .int i => .ok (some (compare i n))
  | .float r => .ok (B.compare r n)
  | _ => .error (.typeError "not supported between these instances")

/-- The dictionary of which an attribute is read. -/
def asObject : Json → Except PyError JsonObject
  | .dict entries => .ok entries
  | _ => .error (.other "AttributeError")

/-- `set(v)`, as keys. -/
def keySet (B : Builtins) (v : Json) : Except PyError (List PyKey) := do
  (← v.iterate).mapM (hashed B)

@[simp] theorem text_str (B : Builtins) (s : String) : (Json.str s).text B = s := rfl

@[simp] theorem hashed_str (B : Builtins) (s : String) : (Json.str s).hashed B = .ok (.str s) := rfl

/-- Only a string has the key of a string. -/
theorem hashed_eq_str {B : Builtins} {v : Json} {s : String} :
    v.hashed B = .ok (.str s) ↔ v = .str s := by
  cases v with
  | float r =>
    cases h : B.integral r <;> simp [hashed, key?, h]
  | null | bool | int | str | list | dict => simp [hashed, key?]

end Json

end LawFirmDigitalTwin
