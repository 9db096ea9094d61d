import ImageStudio.Json.Text
import ImageStudio.Text.Quoted

/-!
# Json · Decode: typed reading of documents, with the errors the data format reports

A decoder turns a `Node` into a typed value or a `DecodeError`. The wording of the errors is
part of the service's answers ("invalid type: integer `5`, expected struct ParamSpec",
"missing field `width`"), so the error is a cause with one rendering function.

**Where.** An error remembers the path of member names from the document root to the value
at fault, and the byte offset just past that value (for a missing member, just past the
object). A document read from text reports both; a document that was already a value
reports neither.

**Records** are read from an object, member by member in document order: a member that is
not a field is skipped, a field given twice is an error, and a field without a default that
never appears is missing. A record can also be read from an array, one element per field in
declaration order.
-/

namespace ImageStudio

/-- What a decoder found where it expected something else. -/
inductive Unexpected where
  | null
  | bool (b : Bool)
  | int (i : Int)
  | float (d : Double)
  | str (s : String)
  | seq
  | map
  deriving Repr

/-- How a message names what was found. -/
def Unexpected.describe : Unexpected → String
  | .null => "null"
  | .bool b => "boolean `" ++ (if b then "true" else "false") ++ "`"
  | .int i => "integer `" ++ toString i ++ "`"
  | .float d => "floating point `" ++ d.toDataString ++ "`"
  | .str s => "string " ++ Text.quoteForMessage s
  | .seq => "sequence"
  | .map => "map"

/-- The causes of a decoding error. -/
inductive DecodeCause where
  | invalidType (found : Unexpected) (expected : String)
  | invalidValue (found : Unexpected) (expected : String)
  | invalidLength (len : Nat) (expected : String)
  | missingField (name : String)
  | duplicateField (name : String)
  | unknownVariant (name : String) (expected : List String)
  | custom (message : String)
  deriving Repr

/-- Alternatives as a message lists them: `` `a` ``, `` `a` or `b` ``, `` one of `a`, `b`, `c` ``. -/
def oneOf (names : List String) : String :=
  let tick (s : String) := "`" ++ s ++ "`"
  match names with
  | [a] => tick a
  | [a, b] => tick a ++ " or " ++ tick b
  | _ => "one of " ++ ", ".intercalate (names.map tick)

/-- The message of a decoding cause. -/
def DecodeCause.message : DecodeCause → String
  | .invalidType f e => "invalid type: " ++ f.describe ++ ", expected " ++ e
  | .invalidValue f e => "invalid value: " ++ f.describe ++ ", expected " ++ e
  | .invalidLength n e => "invalid length " ++ toString n ++ ", expected " ++ e
  | .missingField n => "missing field `" ++ n ++ "`"
  | .duplicateField n => "duplicate field `" ++ n ++ "`"
  | .unknownVariant n [] => "unknown variant `" ++ n ++ "`, there are no variants"
  | .unknownVariant n es => "unknown variant `" ++ n ++ "`, expected " ++ oneOf es
  | .custom m => m

/-- A decoding error: its cause, the member path to the value at fault (outermost first),
and the byte offset where a text reports it. -/
structure DecodeError where
  cause : DecodeCause
  path : List String := []
  stop : Nat := 0
  deriving Repr

namespace DecodeError

/-- The message without path or position, as for a document that was already a value. -/
def message (e : DecodeError) : String := e.cause.message

/-- The message with the path in front, when there is one: `title: invalid type: …`. -/
def pathMessage (e : DecodeError) : String :=
  match e.path with
  | [] => e.message
  | p => ".".intercalate p ++ ": " ++ e.message

/-- The message with path and the position in a text. -/
def textMessage (bytes : ByteArray) (e : DecodeError) : String :=
  e.pathMessage ++ positionSuffix bytes e.stop

/-- Puts a member name in front of the path. -/
def under (name : String) (e : DecodeError) : DecodeError := { e with path := name :: e.path }

end DecodeError

/-- A decoding result. -/
abbrev Decoded (α : Type) := Except DecodeError α

namespace Node

/-- What a message calls the node. -/
def unexpected : Node → Unexpected
  | .null _ => .null
  | .bool b _ => .bool b
  | .num (.int i) _ => .int i
  | .num (.float d) _ => .float d
  | .str s _ => .str s
  | .arr _ _ => .seq
  | .obj _ _ => .map

/-- The error "invalid type" for this node. -/
def typeError (n : Node) (expected : String) : DecodeError :=
  { cause := .invalidType n.unexpected expected, stop := n.stop }

/-- Reads a string. -/
def asString (n : Node) : Decoded String :=
  match n with
  | .str s _ => .ok s
  | _ => .error (n.typeError "a string")

/-- Reads a boolean. -/
def asBool (n : Node) : Decoded Bool :=
  match n with
  | .bool b _ => .ok b
  | _ => .error (n.typeError "a boolean")

/-- Reads `null` as `none` and anything else with the given reader. -/
def optional {α : Type} (read : Node → Decoded α) (n : Node) : Decoded (Option α) :=
  match n with
  | .null _ => .ok none
  | _ => (read n).map some

/-- Reads an integer in `[lo, hi]`, named `ty` in messages; a float is the wrong type. -/
def asIntIn (ty : String) (lo hi : Int) (n : Node) : Decoded Int :=
  match n with
  | .num (.int i) p =>
    if lo ≤ i ∧ i ≤ hi then .ok i else .error { cause := .invalidValue (.int i) ty, stop := p }
  | _ => .error (n.typeError ty)

/-- Reads an unsigned 32-bit integer. -/
def asU32 (n : Node) : Decoded Nat := (asIntIn "u32" 0 4294967295 n).map Int.toNat

/-- Reads a signed 32-bit integer. -/
def asI32 (n : Node) : Decoded Int := asIntIn "i32" (-2147483648) 2147483647 n

/-- Reads a signed 64-bit integer. -/
def asI64 (n : Node) : Decoded Int := asIntIn "i64" (-9223372036854775808) 9223372036854775807 n

/-- Reads an unsigned 64-bit integer. -/
def asU64 (n : Node) : Decoded Nat := (asIntIn "u64" 0 18446744073709551615 n).map Int.toNat

/-- Reads a machine-sized unsigned integer. -/
def asUsize (n : Node) : Decoded Nat := (asIntIn "usize" 0 18446744073709551615 n).map Int.toNat

/-- Reads a double; an integer is converted. -/
def asDouble (n : Node) : Decoded Double :=
  match n with
  | .num x _ => .ok x.asDouble
  | _ => .error (n.typeError "f64")

/-- Reads any value. -/
def asJson (n : Node) : Decoded Json := .ok n.toJson

/-- Reads an array with a reader for its items. -/
def asList {α : Type} (read : Node → Decoded α) (n : Node) : Decoded (List α) :=
  match n with
  | .arr items _ => items.mapM read
  | _ => .error (n.typeError "a sequence")

/-- Reads an object as a value. -/
def asMap (n : Node) : Decoded (List (String × Json)) :=
  match n.toJson with
  | .obj fields => .ok fields
  | _ => .error (n.typeError "a map")

/-- Reads one of several unit variants named by strings. -/
def asVariant {α : Type} (names : List (String × α)) (n : Node) : Decoded α :=
  match n with
  | .str s p =>
    match names.find? (·.1 == s) with
    | some (_, v) => .ok v
    | none => .error { cause := .unknownVariant s (names.map (·.1)), stop := p }
  | .obj [(k, .null _)] p =>
    match names.find? (·.1 == k) with
    | some (_, v) => .ok v
    | none => .error { cause := .unknownVariant k (names.map (·.1)), stop := p }
  | .obj _ p => .error { cause := .invalidValue .map "map with a single key", stop := p }
  | _ => .error (n.typeError "string or map")

end Node

/-! ## Records -/

/-- The members of a record being read: field name to node, first occurrence only. -/
structure Members where
  /-- The members found, in document order. -/
  found : List (String × Node)
  /-- The offset just past the object or array. -/
  stop : Nat
  /-- Whether the record came from an array, one element per field. -/
  positional : Bool := false

namespace Members

/-- The member under a name. -/
def get? (m : Members) (name : String) : Option Node :=
  (m.found.find? (·.1 == name)).map (·.2)

/-- Reads a field that must be present. -/
def field {α : Type} (m : Members) (name : String) (read : Node → Decoded α) : Decoded α :=
  match m.get? name with
  | some n => (read n).mapError (DecodeError.under name)
  | none => .error { cause := .missingField name, stop := m.stop }

/-- Reads a field that may be absent, in which case it takes a default. -/
def fieldOr {α : Type} (m : Members) (name : String) (dflt : α) (read : Node → Decoded α) :
    Decoded α :=
  match m.get? name with
  | some n => (read n).mapError (DecodeError.under name)
  | none => .ok dflt

/-- Reads an optional field: absent and `null` are both `none`. -/
def optField {α : Type} (m : Members) (name : String) (read : Node → Decoded α) :
    Decoded (Option α) :=
  m.fieldOr name none (Node.optional read)

end Members

/-- Field description of a record: the names in declaration order and which have defaults. -/
structure RecordShape where
  /-- The record's name, as messages say it. -/
  name : String
  /-- Its fields in declaration order, each with whether it may be left out. -/
  fields : List (String × Bool)

/-- The first repeated field among object members, when there is one. -/
def firstRepeat (shape : RecordShape) : List (String × Node) → List String → Option (String × Nat)
  | [], _ => none
  | (k, v) :: rest, seen =>
    if shape.fields.any (·.1 == k) then
      if seen.contains k then some (k, v.stop) else firstRepeat shape rest (k :: seen)
    else firstRepeat shape rest seen

/-- The members of a record from an object or an array, or the error for any other node. -/
def RecordShape.members (shape : RecordShape) (n : Node) : Decoded Members :=
  match n with
  | .obj fields p =>
    match firstRepeat shape fields [] with
    | some (k, q) => .error { cause := .duplicateField k, stop := q }
    | none => .ok { found := fields, stop := p }
  | .arr items p =>
    let count := shape.fields.length
    let expected := "struct " ++ shape.name ++ " with " ++ toString count ++
      (if count = 1 then " element" else " elements")
    let rec pair : List (String × Bool) → List Node → Nat → Decoded (List (String × Node))
      | [], [], _ => .ok []
      | [], _ :: _, _ =>
        .error { cause := .invalidLength items.length "fewer elements in array", stop := p }
      | (f, _) :: fs, x :: xs, i => (pair fs xs (i + 1)).map ((f, x) :: ·)
      | (_, true) :: fs, [], i => pair fs [] (i + 1)
      | (_, false) :: _, [], i => .error { cause := .invalidLength i expected, stop := p }
    (pair shape.fields items 0).map fun found => { found, stop := p, positional := true }
  | _ => .error (n.typeError ("struct " ++ shape.name))

end ImageStudio
