import ImageStudio.Json.Decode
import ImageStudio.Id.Uuid

/-!
# Json · Stream: reading typed values straight from text

A request body is read as a stream: one token after another, each value read as the type
expected at that place asks, and the first fault ends the reading. A fault early in the
text is reported even when the text is broken further on, and a broken text is reported
only where the reading gets to it. After the value only blanks may follow.

**Faults.** A fault is a syntax fault (the text is not JSON) or a data fault (JSON of the
wrong shape), at a byte offset. A syntax fault stands where the reader is when it finds
it, or one byte further when it found it by looking at the next byte. A data fault stands
after the value at fault; a value of the wrong kind that opens with a bracket is not read,
and the fault stands before the bracket.

**Paths.** A fault names the path to the value being read: keys after dots, array places
in brackets (`params.items[1]`). A fault in a key adds `?` for the key not yet read; a
missing colon or comma, a trailing comma, and an unclosed container are faults of the
container itself. A fault of the record being read (a field missing or given twice, too
few elements) names no path, and neither does a fault after the value.

**Depth.** Arrays and objects nest at most 127 deep below the top-level value: opening
one more is the fault "recursion limit exceeded", at the bracket.

**Skipped values.** An object member that no field wants is skipped by a lighter reader:
no depth limit, no check of surrogate escapes, numbers checked only for their form, and a
comma before a closing bracket read as a missing value (in an array) or key (in an
object).
-/

namespace ImageStudio

namespace Stream

/-! ## Paths and faults -/

/-- A step on the way from the top-level value to a value inside it. -/
inductive Segment where
  | index (i : Nat)
  | key (k : String)
  /-- A key that was being read. -/
  | unknown
  deriving DecidableEq, Repr

/-- The text of a step. -/
def Segment.text : Segment → String
  | .index i => "[" ++ toString i ++ "]"
  | .key k => k
  | .unknown => "?"

/-- The text of a path: a place in brackets right after what precedes it, any other step
after a dot unless it comes first. -/
def pathText : List Segment → String :=
  let rec go : Bool → List Segment → String
    | _, [] => ""
    | first, s :: rest =>
      let dot := match s with
        | .index _ => ""
        | _ => if first then "" else "."
      dot ++ s.text ++ go false rest
  go true

/-- A fault met while reading. -/
structure Fault where
  /-- Whether the text is not JSON, rather than JSON of the wrong shape. -/
  malformed : Bool
  message : String
  /-- The byte offset whose line and column the message gives. -/
  offset : Nat
  /-- The path to the value being read, once a reader has claimed the fault. -/
  path : Option (List Segment) := none
  deriving Repr

/-- The message of a fault in a text: the path in front (unless it names no key and no
place), then the message and the line and column. -/
def Fault.text (bytes : ByteArray) (f : Fault) : String :=
  let path := f.path.getD []
  let front := if path.all (· == .unknown) then "" else pathText path ++ ": "
  front ++ f.message ++ positionSuffix bytes f.offset

/-! ## The reading monad -/

/-- Reading a text: the state is the offset of the next byte, and a fault ends the reading. -/
abbrev Scan := StateT Nat (Except Fault)

/-- The next byte, if any, without reading it. -/
def peek (b : ByteArray) : Scan (Option UInt8) := do
  pure (Reader.byteAt b (← get))

/-- Reads the next byte. -/
def eat : Scan Unit := modify (· + 1)

/-- Skips blanks. -/
def skipBlanks (b : ByteArray) : Scan Unit := modify (Reader.skipBlanks b b.size)

/-- A syntax fault at an offset. -/
def syntaxAt {α : Type} (cause : SyntaxCause) (offset : Nat) : Scan α :=
  throw { malformed := true, message := cause.message, offset }

/-- A syntax fault found at the current offset. -/
def failHere {α : Type} (cause : SyntaxCause) : Scan α := do
  syntaxAt cause (← get)

/-- A syntax fault found by looking at the next byte: it stands one byte further, but not
past the end. -/
def failAhead {α : Type} (b : ByteArray) (cause : SyntaxCause) : Scan α := do
  syntaxAt cause (Reader.peekPos b (← get))

/-- A data fault at an offset. -/
def dataAt {α : Type} (cause : DecodeCause) (offset : Nat) : Scan α :=
  throw { malformed := false, message := cause.message, offset }

/-- A data fault at the current offset. -/
def dataHere {α : Type} (cause : DecodeCause) : Scan α := do
  dataAt cause (← get)

/-- Runs a step of the text reader from the current offset. -/
def step {α : Type} (r : Nat → Reader.Step α) : Scan α := do
  match r (← get) with
  | .ok (v, j) => set j; pure v
  | .error e => syntaxAt e.cause e.offset

/-- Runs a reader whose faults, unless a reader inside has claimed them, are the faults of
the value at `path`. -/
def tracked {α : Type} (path : List Segment) (m : Scan α) : Scan α :=
  tryCatch m fun f => throw (if f.path.isSome then f else { f with path := some path })

/-- Reads the rest of a keyword. -/
def keyword (b : ByteArray) (rest : List UInt8) : Scan Unit :=
  step fun i => (Reader.expectIdent b rest i).map fun j => ((), j)

/-- Reads a number whose first byte (a sign or a digit) is next. -/
def number (b : ByteArray) : Scan Number := do
  if (← peek b) = some 45 then
    eat
    step (Reader.readNumber b false)
  else step (Reader.readNumber b true)

/-- Reads a string after its opening quote, escapes decoded and checked. -/
def stringBody (b : ByteArray) : Scan String :=
  step fun i => (Reader.readString b b.size [] i).map fun r => (String.ofList r.1, r.2)

/-- The fault "invalid type" for the value that is next, after blanks, where `expected`
was wanted. A scalar is read first (its own syntax faults come first) and the fault
stands after it; a bracket is not read. -/
def invalidType {α : Type} (b : ByteArray) (expected : String) : Scan α := do
  let found : Unexpected ← match (← peek b) with
    | some 110 => do eat; keyword b [117, 108, 108]; pure .null
    | some 116 => do eat; keyword b [114, 117, 101]; pure (.bool true)
    | some 102 => do eat; keyword b [97, 108, 115, 101]; pure (.bool false)
    | some 34 => do eat; pure (.str (← stringBody b))
    | some 91 => pure .seq
    | some 123 => pure .map
    | some x =>
      if x = 45 ∨ Reader.isDigit x then do
        match (← number b) with
        | .int i => pure (.int i)
        | .float d => pure (.float d)
      else failAhead b .expectedSomeValue
    | none => failAhead b .expectedSomeValue
  dataHere (.invalidType found expected)

/-! ## Containers -/

/-- Before an array element: answers whether one follows (`false` at the closing bracket,
which is left unread). After the first, a comma must come first. -/
def nextItem (b : ByteArray) (first : Bool) : Scan Bool := do
  skipBlanks b
  match (← peek b) with
  | none => failAhead b .eofWhileParsingList
  | some 93 => pure false
  | some 44 =>
    if first then pure true
    else do
      eat
      skipBlanks b
      match (← peek b) with
      | some 93 => failAhead b .trailingComma
      | some _ => pure true
      | none => failAhead b .eofWhileParsingValue
  | some _ => if first then pure true else failAhead b .expectedListCommaOrEnd

/-- Before an object member: reads its key, or answers `none` at the closing brace (left
unread). After the first, a comma must come first. -/
def nextKey (b : ByteArray) (first : Bool) : Scan (Option String) := do
  let key : Scan (Option String) := do
    eat
    pure (some (← stringBody b))
  skipBlanks b
  match (← peek b) with
  | none => failAhead b .eofWhileParsingObject
  | some 125 => pure none
  | some c =>
    if first then
      if c = 34 then key else failAhead b .keyMustBeAString
    else if c = 44 then do
      eat
      skipBlanks b
      match (← peek b) with
      | some 34 => key
      | some 125 => failAhead b .trailingComma
      | some _ => failAhead b .keyMustBeAString
      | none => failAhead b .eofWhileParsingValue
    else failAhead b .expectedObjectCommaOrEnd

/-- Reads the colon after a key. -/
def colon (b : ByteArray) : Scan Unit := do
  skipBlanks b
  match (← peek b) with
  | some 58 => eat
  | some _ => failAhead b .expectedColon
  | none => failAhead b .eofWhileParsingObject

/-- Reads the closing bracket of an array whose elements are all read. -/
def closeArray (b : ByteArray) : Scan Unit := do
  skipBlanks b
  match (← peek b) with
  | some 93 => eat
  | some 44 =>
    eat
    skipBlanks b
    if (← peek b) = some 93 then failAhead b .trailingComma
    else failAhead b .trailingCharacters
  | some _ => failAhead b .trailingCharacters
  | none => failAhead b .eofWhileParsingList

/-- Reads the closing brace of an object whose members are all read. -/
def closeObject (b : ByteArray) : Scan Unit := do
  skipBlanks b
  match (← peek b) with
  | some 125 => eat
  | some 44 => failAhead b .trailingComma
  | some _ => failAhead b .trailingCharacters
  | none => failAhead b .eofWhileParsingObject

/-! ## Any value -/

mutual
/-- Reads any value, at `path`; `depth` is how many containers may still open. `fuel`
bounds the nesting and the elements read, and is never short for a text of its size. -/
def anyValue (b : ByteArray) (path : List Segment) (depth : Nat) : Nat → Scan Json
  | 0 => failHere .recursionLimitExceeded
  | fuel + 1 => tracked path do
    skipBlanks b
    match (← peek b) with
    | none => failAhead b .eofWhileParsingValue
    | some 110 => do eat; keyword b [117, 108, 108]; pure .null
    | some 116 => do eat; keyword b [114, 117, 101]; pure (.bool true)
    | some 102 => do eat; keyword b [97, 108, 115, 101]; pure (.bool false)
    | some 34 => do eat; pure (.str (← stringBody b))
    | some 91 =>
      if depth ≤ 1 then failAhead b .recursionLimitExceeded
      else do
        eat
        let items ← anyItems b path (depth - 1) fuel 0
        closeArray b
        pure (.arr items)
    | some 123 =>
      if depth ≤ 1 then failAhead b .recursionLimitExceeded
      else do
        eat
        let members ← anyMembers b path (depth - 1) fuel true
        closeObject b
        pure (Json.mkObj members)
    | some x =>
      if x = 45 ∨ Reader.isDigit x then do pure (.num (← number b))
      else failAhead b .expectedSomeValue

/-- Reads the elements of an array from place `i` on. -/
def anyItems (b : ByteArray) (path : List Segment) (depth : Nat) :
    Nat → Nat → Scan (List Json)
  | 0, _ => pure []
  | fuel + 1, i => do
    if !(← nextItem b (i == 0)) then return []
    let v ← anyValue b (path ++ [.index i]) depth fuel
    let rest ← anyItems b path depth fuel (i + 1)
    pure (v :: rest)

/-- Reads the members of an object; a repeated key keeps its last value. -/
def anyMembers (b : ByteArray) (path : List Segment) (depth : Nat) :
    Nat → Bool → Scan (List (String × Json))
  | 0, _ => pure []
  | fuel + 1, first => do
    match (← tracked (path ++ [.unknown]) (nextKey b first)) with
    | none => pure []
    | some k =>
      colon b
      let v ← anyValue b (path ++ [.key k]) depth fuel
      let rest ← anyMembers b path depth fuel false
      pure ((k, v) :: rest)
end

/-! ## Skipping a value -/

/-- Skips the digits that are next. -/
def skipDigits (b : ByteArray) : Scan Unit := modify (Reader.skipDigits b b.size)

/-- Skips an exponent; its `e` is next. -/
def skipExponent (b : ByteArray) : Scan Unit := do
  eat
  if (← peek b) = some 43 ∨ (← peek b) = some 45 then eat
  match (← peek b) with
  | some x => do eat; if !Reader.isDigit x then failHere .invalidNumber
  | none => failHere .invalidNumber
  skipDigits b

/-- Skips an unsigned number: one `0` or digits without a leading zero, then a fraction
and an exponent if present. -/
def skipUnsigned (b : ByteArray) : Scan Unit := do
  match (← peek b) with
  | some 48 => do
    eat
    if (← peek b).any Reader.isDigit then failAhead b .invalidNumber
  | some x => do
    eat
    if Reader.isDigit x then skipDigits b else failHere .invalidNumber
  | none => failHere .invalidNumber
  match (← peek b) with
  | some 46 => do
    eat
    if !(← peek b).any Reader.isDigit then failAhead b .invalidNumber
    skipDigits b
    if (← peek b) = some 101 ∨ (← peek b) = some 69 then skipExponent b
  | some 101 | some 69 => skipExponent b
  | _ => pure ()

/-- Whether a byte may follow a backslash as a one-byte escape. -/
def isShortEscape (c : UInt8) : Bool := [34, 92, 47, 98, 102, 110, 114, 116].contains c

/-- Skips the rest of a string after its opening quote: escapes are checked for their
form, a control byte is a fault at the byte itself. -/
def skipString (b : ByteArray) : Nat → Scan Unit
  | 0 => pure ()
  | fuel + 1 => do
    match (← peek b) with
    | none => failHere .eofWhileParsingString
    | some 34 => eat
    | some 92 => do
      eat
      match (← peek b) with
      | none => failHere .eofWhileParsingString
      | some 117 => do
        eat
        let i ← get
        if b.size < i + 4 then do
          set b.size
          failHere .eofWhileParsingString
        set (i + 4)
        unless [i, i + 1, i + 2, i + 3].all (fun k => ((Reader.byteAt b k).bind Reader.hexValue).isSome) do
          failHere .invalidEscape
      | some c => do
        eat
        if !isShortEscape c then failHere .invalidEscape
      skipString b fuel
    | some c =>
      if c < 0x20 then failHere .controlCharacterWhileParsingString
      else do eat; skipString b fuel

/-- Reads the key and colon of the next member of an object being skipped. -/
def skipKey (b : ByteArray) : Scan Unit := do
  skipBlanks b
  match (← peek b) with
  | some 34 => eat
  | some _ => failAhead b .keyMustBeAString
  | none => failAhead b .eofWhileParsingObject
  skipString b b.size
  skipBlanks b
  match (← peek b) with
  | some 58 => eat
  | some _ => failAhead b .expectedColon
  | none => failAhead b .eofWhileParsingObject

/-- After a value inside the open container `frame` (`[` or `{`), with `outer` the
containers around it: a comma leads to the next value, when one may come; a closing
bracket of the container closes it, and the reading goes on in the one around it. Answers
the container in which a value comes next, or `none` when the outermost one has closed. -/
def afterValue (b : ByteArray) :
    Nat → Bool → UInt8 → List UInt8 → Scan (Option (UInt8 × List UInt8))
  | 0, _, _, _ => pure none
  | fuel + 1, mayComma, frame, outer => do
    skipBlanks b
    match (← peek b) with
    | none => failAhead b (if frame = 91 then .eofWhileParsingList else .eofWhileParsingObject)
    | some c =>
      if c = 44 ∧ mayComma then do
        eat
        pure (some (frame, outer))
      else if (c = 93 ∧ frame = 91) ∨ (c = 125 ∧ frame = 123) then do
        eat
        match outer with
        | [] => pure none
        | f :: rest => afterValue b fuel true f rest
      else if mayComma then
        failAhead b (if frame = 91 then .expectedListCommaOrEnd else .expectedObjectCommaOrEnd)
      else pure (some (frame, outer))

/-- Skips values; `opened` holds the containers open around the next value, innermost first. -/
def skipValues (b : ByteArray) : Nat → List UInt8 → Scan Unit
  | 0, _ => pure ()
  | fuel + 1, opened => do
    skipBlanks b
    let started : Option UInt8 ← match (← peek b) with
      | none => failAhead b .eofWhileParsingValue
      | some 110 => do eat; keyword b [117, 108, 108]; pure none
      | some 116 => do eat; keyword b [114, 117, 101]; pure none
      | some 102 => do eat; keyword b [97, 108, 115, 101]; pure none
      | some 45 => do eat; skipUnsigned b; pure none
      | some 34 => do eat; skipString b b.size; pure none
      | some 91 => do eat; pure (some 91)
      | some 123 => do eat; pure (some 123)
      | some x =>
        if Reader.isDigit x then do skipUnsigned b; pure none
        else failAhead b .expectedSomeValue
    let next ← match started, opened with
      | some f, outer => afterValue b fuel false f outer
      | none, f :: outer => afterValue b fuel true f outer
      | none, [] => pure none
    match next with
    | none => pure ()
    | some (frame, outer) =>
      if frame = 123 then skipKey b
      skipValues b fuel (frame :: outer)

/-- Skips one value. -/
def skipValue (b : ByteArray) : Scan Unit := skipValues b (b.size + 2) []

/-! ## Typed values -/

/-- Reads a string. -/
def string (b : ByteArray) : Scan String := do
  skipBlanks b
  match (← peek b) with
  | none => failAhead b .eofWhileParsingValue
  | some 34 => do eat; stringBody b
  | some _ => invalidType b "a string"

/-- Reads `null` as `none`, and anything else with `read`. -/
def optional {α : Type} (b : ByteArray) (read : Scan α) : Scan (Option α) := do
  skipBlanks b
  match (← peek b) with
  | some 110 => do eat; keyword b [117, 108, 108]; pure none
  | _ => some <$> read

/-- Reads an unsigned integer of at most 64 bits, named `usize` in messages. -/
def usize (b : ByteArray) : Scan Nat := do
  skipBlanks b
  match (← peek b) with
  | none => failAhead b .eofWhileParsingValue
  | some x =>
    if x = 45 ∨ Reader.isDigit x then do
      match (← number b) with
      | .int i =>
        if 0 ≤ i ∧ i ≤ Reader.u64Max then pure i.toNat
        else dataHere (.invalidValue (.int i) "usize")
      | .float d => dataHere (.invalidType (.float d) "usize")
    else invalidType b "usize"

/-- Reads an identifier from a string; a string that is not one is a fault after it. -/
def uuid (b : ByteArray) : Scan Uuid := do
  skipBlanks b
  match (← peek b) with
  | none => failAhead b .eofWhileParsingValue
  | some 34 => do
    eat
    match Uuid.parse (← stringBody b) with
    | .ok u => pure u
    | .error e => dataHere (.custom ("UUID parsing failed: " ++ e.message))
  | some _ => invalidType b "a formatted UUID string"

/-! ## Records -/

/-- A field of a record: its name, whether it may be left out, and how its value is read,
at a path and with the depth left, into an update of the record being built. -/
structure Field (β : Type) where
  name : String
  optional : Bool
  read : ByteArray → List Segment → Nat → Scan (β → β)

/-- How a record read from an array is described in a fault: `struct R with n elements`. -/
def arrayShape (name : String) (count : Nat) : String :=
  "struct " ++ name ++ " with " ++ toString count ++ (if count = 1 then " element" else " elements")

/-- Reads a record from the elements of an array, one per field in declaration order,
from place `i`. When the elements run out, the remaining fields must all be optional;
else the fault stands after the closing bracket. -/
def recordItems {β : Type} (b : ByteArray) (name : String) (count depth : Nat) :
    List (Field β) → Nat → β → Scan β
  | [], _, r => pure r
  | f :: fs, i, r => do
    if (← nextItem b (i == 0)) then
      let update ← tracked [.index i] (f.read b [.index i] depth)
      recordItems b name count depth fs (i + 1) (update r)
    else if f.optional then recordItems b name count depth fs (i + 1) r
    else dataAt (.invalidLength i (arrayShape name count)) ((← get) + 1)

/-- Reads a record from the members of an object, in text order. A member that is not a
field is skipped; a field given twice is a fault right after its key (and the closing
brace, when that comes next); at the closing brace, the first field in declaration order
that is neither given nor optional is missing, a fault after the brace. -/
def recordMembers {β : Type} (b : ByteArray) (fields : List (Field β)) (depth : Nat) :
    Nat → Bool → List String → β → Scan β
  | 0, _, _, r => pure r
  | fuel + 1, first, seen, r => do
    match (← tracked [.unknown] (nextKey b first)) with
    | none =>
      match fields.find? (fun f => !f.optional && !seen.contains f.name) with
      | some f => dataAt (.missingField f.name) ((← get) + 1)
      | none => do eat; pure r
    | some k =>
      match fields.find? (·.name == k) with
      | some f =>
        if seen.contains k then do
          skipBlanks b
          let brace := if (← peek b) = some 125 then 1 else 0
          dataAt (.duplicateField k) ((← get) + brace)
        else do
          colon b
          let update ← tracked [.key k] (f.read b [.key k] depth)
          recordMembers b fields depth fuel false (k :: seen) (update r)
      | none => do
        colon b
        tracked [.key k] (skipValue b)
        recordMembers b fields depth fuel false seen r

/-- The depth a top-level value may open. -/
def depthLimit : Nat := 128

/-- Reads a record named `name` from an object or an array, starting from `init`. -/
def record {β : Type} (b : ByteArray) (name : String) (fields : List (Field β)) (init : β) :
    Scan β := tracked [] do
  skipBlanks b
  match (← peek b) with
  | none => failAhead b .eofWhileParsingValue
  | some 91 => do
    eat
    let r ← recordItems b name fields.length (depthLimit - 1) fields 0 init
    closeArray b
    pure r
  | some 123 => do
    eat
    recordMembers b fields (depthLimit - 1) (b.size + 2) true [] init
  | some _ => invalidType b ("struct " ++ name)

/-- Reads a whole text with `read`: after the value, only blanks may follow. -/
def document {α : Type} (b : ByteArray) (read : Scan α) : Except Fault α :=
  let whole : Scan α := do
    let v ← read
    skipBlanks b
    if (← peek b).isSome then failAhead b .trailingCharacters
    pure v
  (whole.run 0).map (·.1)

end Stream

end ImageStudio
