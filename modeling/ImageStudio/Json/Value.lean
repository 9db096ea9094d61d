import ImageStudio.Number.Double

/-!
# Json · Value: JSON documents with ordered objects

The service reads and writes JSON everywhere: request bodies, stored batch configurations,
parameter schemas. A document here is a tree whose objects keep their members sorted by key
(byte order, which for UTF-8 is code-point order) with each key once. Every object the
service builds or reads goes through `Json.insert`, so this order is the order in which
members are written and walked: `parse_params` reports the first bad key in this order.

**Numbers** keep the distinction that the data format draws: an integer literal that fits in
64 bits is an `int` (from `-2^63` up to `2^64 - 1`), anything else is a `float`. The two are
different values even when equal as reals, and a float is compared by value, so that the
two zeros are equal.
-/

namespace ImageStudio

/-- A JSON number: a 64-bit integer literal or a binary64 value. -/
inductive Number where
  /-- An integer in `[-2^63, 2^64)`. -/
  | int (i : Int)
  /-- A floating-point number. -/
  | float (d : Double)
  deriving Repr, Inhabited

/-- A JSON document. Object members are sorted by key without repeats. -/
inductive Json where
  | null
  | bool (b : Bool)
  | num (n : Number)
  | str (s : String)
  | arr (items : List Json)
  | obj (fields : List (String × Json))
  deriving Repr, Inhabited

namespace Number

/-- The largest value of a signed 64-bit integer. -/
def i64Max : Int := 9223372036854775807

/-- The number as a signed 64-bit integer, when it is an integer literal in range. -/
def asI64? : Number → Option Int
  | .int i => if i ≤ i64Max then some i else none
  | .float _ => none

/-- The number as an unsigned 64-bit integer, when it is a nonnegative integer literal. -/
def asU64? : Number → Option Nat
  | .int i => if 0 ≤ i then some i.toNat else none
  | .float _ => none

/-- The number as a double; an integer is rounded to the nearest one. -/
def asDouble : Number → Double
  | .int i => (Double.ofInt i).getD Double.zero
  | .float d => d

/-- Equality of numbers: integers by value, floats by value, never an integer with a float. -/
def beq : Number → Number → Bool
  | .int a, .int b => a == b
  | .float a, .float b => a.valueEq b
  | _, _ => false

instance : BEq Number := ⟨beq⟩

end Number

namespace Json

/-- Inserts a member into a sorted member list, replacing a member with the same key. -/
def insertField (k : String) (v : Json) : List (String × Json) → List (String × Json)
  | [] => [(k, v)]
  | (k', v') :: rest =>
    if k < k' then (k, v) :: (k', v') :: rest
    else if k = k' then (k, v) :: rest
    else (k', v') :: insertField k v rest

/-- An object from members in any order; a later member wins over an earlier one. -/
def mkObj (fields : List (String × Json)) : Json :=
  .obj (fields.foldl (fun acc kv => insertField kv.1 kv.2 acc) [])

/-- The member of an object under a key. -/
def lookupField (k : String) : List (String × Json) → Option Json
  | [] => none
  | (k', v) :: rest => if k = k' then some v else lookupField k rest

/-- The member under a key, when the document is an object that has it. -/
def get? (j : Json) (k : String) : Option Json :=
  match j with
  | .obj fs => lookupField k fs
  | _ => none

/-- The members of an object; no members for anything else. -/
def members : Json → List (String × Json)
  | .obj fs => fs
  | _ => []

/-- Whether the document is `null`. -/
def isNull : Json → Bool
  | .null => true
  | _ => false

/-- The text, when the document is a string. -/
def asStr? : Json → Option String
  | .str s => some s
  | _ => none

/-- An integer document. -/
def ofInt (i : Int) : Json := .num (.int i)

/-- A string document, or `null`. -/
def ofOptStr : Option String → Json
  | some s => .str s
  | none => .null

/-- An integer document, or `null`. -/
def ofOptInt : Option Int → Json
  | some i => .num (.int i)
  | none => .null

mutual
/-- Structural equality of documents, numbers compared as `Number.beq`. -/
def beq : Json → Json → Bool
  | .null, .null => true
  | .bool a, .bool b => a == b
  | .num a, .num b => a == b
  | .str a, .str b => a == b
  | .arr a, .arr b => beqList a b
  | .obj a, .obj b => beqFields a b
  | _, _ => false

/-- Pointwise equality of two item lists. -/
def beqList : List Json → List Json → Bool
  | [], [] => true
  | a :: as, b :: bs => beq a b && beqList as bs
  | _, _ => false

/-- Pointwise equality of two member lists, keys and values. -/
def beqFields : List (String × Json) → List (String × Json) → Bool
  | [], [] => true
  | (k, a) :: as, (k', b) :: bs => k == k' && beq a b && beqFields as bs
  | _, _ => false
end

instance : BEq Json := ⟨beq⟩

end Json

end ImageStudio
