import LawFirmDigitalTwin.Lib.JsonText

/-!
# JSON texts in an interpreter with a recursion limit

The reader calls itself for every array and object that it opens, and a language that bounds its
recursion ends the reading there: however the text goes on, and whatever else is wrong with it
further on. `overruns` says whether the reader gets that far; it follows the reader, whose errors
before that place come first.
-/

namespace JsonText

/-- What a program raises in an interpreter with a recursion limit. -/
inductive Raised (ε : Type)
  | recursionError
  | error (e : ε)
  deriving DecidableEq

mutual

/-- How deep the containers of a value are nested. -/
def Value.depth : Value → Nat
  | .list items => depthItems items + 1
  | .dict entries => depthEntries entries + 1
  | _ => 0

def depthItems : List Value → Nat
  | [] => 0
  | v :: rest => max v.depth (depthItems rest)

def depthEntries : List (List Nat × Value) → Nat
  | [] => 0
  | (_, v) :: rest => max v.depth (depthEntries rest)

end

mutual

/-- Whether the reader of a value opens more containers in each other than may be open. -/
def overruns (H : Host) : Nat → Nat → List Char → Bool
  | _, 0, _ => false
  | _, _ + 1, [] => false
  | depth, fuel + 1, c :: rest =>
    if c.toNat = 91 then
      match depth with
      | 0 => true
      | depth + 1 =>
        (skipSpace rest).head? ≠ some ']' && overrunsItems H depth fuel (skipSpace rest)
    else if c.toNat = 123 then
      match depth with
      | 0 => true
      | depth + 1 =>
        (skipSpace rest).head?.map Char.toNat ≠ some 125 &&
          overrunsMembers H depth fuel (skipSpace rest)
    else false

/-- `overruns`, in the items of a list. -/
def overrunsItems (H : Host) : Nat → Nat → List Char → Bool
  | _, 0, _ => false
  | depth, fuel + 1, text =>
    overruns H depth fuel text ||
      match readValue H fuel text with
      | .error _ => false
      | .ok (_, rest) =>
        match skipSpace rest with
        | [] => false
        | c :: rest => decide (c.toNat = 44) && overrunsItems H depth fuel (skipSpace rest)

/-- `overruns`, in the members of an object. -/
def overrunsMembers (H : Host) : Nat → Nat → List Char → Bool
  | _, 0, _ => false
  | depth, fuel + 1, text =>
    match readName text with
    | .error _ => false
    | .ok (_, rest) =>
      overruns H depth fuel rest ||
        match readValue H fuel rest with
        | .error _ => false
        | .ok (_, rest) =>
          match skipSpace rest with
          | [] => false
          | c :: rest => decide (c.toNat = 44) && overrunsMembers H depth fuel (skipSpace rest)

end

/-- Whether the reading of a whole text opens more than `maxDepth` containers in each other. -/
def Overruns (H : Host) (maxDepth : Nat) (text : List Char) : Prop :=
  overruns H maxDepth (2 * text.length + 1) (skipSpace text) = true

instance decidableOverruns (H : Host) (maxDepth : Nat) :
    DecidablePred (Overruns H maxDepth) := fun text =>
  inferInstanceAs (Decidable (overruns H maxDepth (2 * text.length + 1) (skipSpace text) = true))

end JsonText
