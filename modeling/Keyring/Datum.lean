import Keyring.Number.Layout
import Keyring.Text.Quoted

/-!
# Plain data

The values that settings are given and log records hold: nothing, booleans, integers, numbers,
texts, lists and records. Messages show them as text, a text by itself without quotes and inside
other data with them.
-/

namespace Keyring

/-- A piece of plain data. The members of a record have different names. -/
inductive Datum where
  | null
  | flag (value : Bool)
  | int (value : Int)
  | number (value : Binary64)
  | text (value : Text)
  | list (items : List Datum)
  | record (members : List (Text × Datum))
  deriving Inhabited

namespace Datum

def ofText? : Option Text → Datum
  | some t => .text t
  | none => .null

mutual

def decEq : (a b : Datum) → Decidable (a = b)
  | .null, b =>
    match b with
    | .null => .isTrue rfl
    | .flag _ | .int _ | .number _ | .text _ | .list _ | .record _ => .isFalse (by simp)
  | .flag x, b =>
    match b with
    | .flag y => if h : x = y then .isTrue (by rw [h]) else .isFalse (by simp [h])
    | .null | .int _ | .number _ | .text _ | .list _ | .record _ => .isFalse (by simp)
  | .int x, b =>
    match b with
    | .int y => if h : x = y then .isTrue (by rw [h]) else .isFalse (by simp [h])
    | .null | .flag _ | .number _ | .text _ | .list _ | .record _ => .isFalse (by simp)
  | .number x, b =>
    match b with
    | .number y => if h : x = y then .isTrue (by rw [h]) else .isFalse (by simp [h])
    | .null | .flag _ | .int _ | .text _ | .list _ | .record _ => .isFalse (by simp)
  | .text x, b =>
    match b with
    | .text y => if h : x = y then .isTrue (by rw [h]) else .isFalse (by simp [h])
    | .null | .flag _ | .int _ | .number _ | .list _ | .record _ => .isFalse (by simp)
  | .list xs, b =>
    match b with
    | .list ys =>
      match decEqItems xs ys with
      | .isTrue h => .isTrue (by rw [h])
      | .isFalse h => .isFalse (by simp [h])
    | .null | .flag _ | .int _ | .number _ | .text _ | .record _ => .isFalse (by simp)
  | .record xs, b =>
    match b with
    | .record ys =>
      match decEqMembers xs ys with
      | .isTrue h => .isTrue (by rw [h])
      | .isFalse h => .isFalse (by simp [h])
    | .null | .flag _ | .int _ | .number _ | .text _ | .list _ => .isFalse (by simp)

def decEqItems : (xs ys : List Datum) → Decidable (xs = ys)
  | [], [] => .isTrue rfl
  | [], _ :: _ => .isFalse (by simp)
  | _ :: _, [] => .isFalse (by simp)
  | x :: xs, y :: ys =>
    match decEq x y, decEqItems xs ys with
    | .isTrue hx, .isTrue h => .isTrue (by rw [hx, h])
    | .isFalse hx, _ => .isFalse (by simp [hx])
    | _, .isFalse h => .isFalse (by simp [h])

def decEqMembers : (xs ys : List (Text × Datum)) → Decidable (xs = ys)
  | [], [] => .isTrue rfl
  | [], _ :: _ => .isFalse (by simp)
  | _ :: _, [] => .isFalse (by simp)
  | (m, x) :: xs, (n, y) :: ys =>
    if hn : m = n then
      match decEq x y, decEqMembers xs ys with
      | .isTrue hx, .isTrue h => .isTrue (by rw [hn, hx, h])
      | .isFalse hx, _ => .isFalse (by simp [hx])
      | _, .isFalse h => .isFalse (by simp [h])
    else .isFalse (by simp [hn])

end

instance : DecidableEq Datum := decEq

def kindName : Datum → Text
  | null => "NoneType"
  | flag _ => "bool"
  | int _ => "int"
  | number _ => "float"
  | text _ => "str"
  | list _ => "list"
  | record _ => "dict"

/-- Whether a piece of data counts as yes: nothing, zero and what is empty do not. -/
def isTruthy : Datum → Bool
  | null => false
  | flag value => value
  | int value => value != 0
  | number (.finite x) => x.units != 0
  | number _ => true
  | text value => !value.isEmpty
  | list items => !items.isEmpty
  | record members => !members.isEmpty

mutual

def quoted : Datum → Text
  | .null => "None"
  | .flag value => if value then "True" else "False"
  | .int value => Text.ofInt value
  | .number value => value.render
  | .text value => value.quoted
  | .list items => "[" ++ (Text.join ", " (quotedItems items) ++ ("]" : Text))
  | .record members => "\x7b" ++ (Text.join ", " (quotedMembers members) ++ ("\x7d" : Text))

def quotedItems : List Datum → List Text
  | [] => []
  | item :: rest => item.quoted :: quotedItems rest

def quotedMembers : List (Text × Datum) → List Text
  | [] => []
  | (name, value) :: rest =>
    (name.quoted ++ (": " ++ value.quoted)) :: quotedMembers rest

end

mutual

def joinPairs : Datum → Datum
  | .text value => .text value.joinPairs
  | .list items => .list (joinPairsOfItems items)
  | .record members => .record (joinPairsOfMembers members)
  | .null => .null
  | .flag value => .flag value
  | .int value => .int value
  | .number value => .number value

def joinPairsOfItems : List Datum → List Datum
  | [] => []
  | item :: rest => item.joinPairs :: joinPairsOfItems rest

def joinPairsOfMembers : List (Text × Datum) → List (Text × Datum)
  | [] => []
  | (name, value) :: rest => (name.joinPairs, value.joinPairs) :: joinPairsOfMembers rest

end

def shown : Datum → Text
  | text value => value
  | other => other.quoted

def asciiQuoted (d : Datum) : Text :=
  d.quoted.flatMap fun c => if c.isAscii then [c] else Text.codeName c

def integer? : Datum → Option Int
  | flag value => some (if value then 1 else 0)
  | int value => some value
  | _ => none

/-- The integer of what counts as one, or the whole part of a finite number. -/
def wholePart? : Datum → Option Int
  | number (.finite x) => some x.truncate
  | number _ => none
  | other => other.integer?

def number? : Datum → Option Binary64
  | number x => some x
  | other => (other.integer?.bind Binary64.Finite.ofInt?).map .finite

end Datum

end Keyring
