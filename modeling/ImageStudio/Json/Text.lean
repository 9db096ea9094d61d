import ImageStudio.Json.Value
import ImageStudio.Number.Text

/-!
# Json · Text: reading and writing JSON text

**Writing.** A document is written compactly: no blanks, members in their sorted order,
floats in data text (`Double.toDataString`), and in strings only the quote, the backslash
and the control characters escaped (`\b \f \n \r \t`, others as `\u00xx`).

**Reading.** `Node.parse` reads UTF-8 text into a `Node`: a document that keeps object
members in text order, repeats included, and remembers for every node the byte offset just
past it, so that a later decoding error can say where it happened. The grammar is strict
JSON; the number rules are those of the data format:

* an integer literal that fits becomes an integer: a nonnegative one below `2^64`, a
  negative one down to `-2^63`; `-0` and any other integer literal become floats;
* a float is computed from at most nineteen significant digits `s` (later digits only shift
  the exponent) and a decimal exponent `e`: `s` is rounded to a double, then multiplied or
  divided by the rounded `10^|e|`, in steps of `10^308` beyond the table; a product that
  overflows is the error "number out of range".

A `\u` escape of a leading surrogate must be followed at once by the `\u` escape of a
trailing one. Any other byte there is an "unexpected end of hex escape", reported one past
it (after a backslash, one past the byte after the backslash); a second escape that is not
a trailing surrogate, and a trailing surrogate on its own, are a "lone leading surrogate".

A syntax error is a `SyntaxError`: a cause and the byte offset it is reported at.
-/

namespace ImageStudio

/-! ## Writing -/

namespace Json

/-- The escape of one character inside a string literal. -/
def escapeChar (c : Char) : String :=
  if c = '"' then "\\\""
  else if c = '\\' then "\\\\"
  else if c = '\n' then "\\n"
  else if c = '\r' then "\\r"
  else if c = '\t' then "\\t"
  else if c.toNat = 8 then "\\b"
  else if c.toNat = 12 then "\\f"
  else if c.toNat < 0x20 then
    let hex := "0123456789abcdef".toList
    "\\u00" ++ String.singleton (hex.getD (c.toNat / 16) '0') ++
      String.singleton (hex.getD (c.toNat % 16) '0')
  else String.singleton c

/-- A string literal. -/
def quote (s : String) : String :=
  "\"" ++ String.join (s.toList.map escapeChar) ++ "\""

/-- The text of a number. -/
def numberText : Number → String
  | .int i => toString i
  | .float d => d.toDataString

mutual
/-- The compact text of a document. -/
def render : Json → String
  | .null => "null"
  | .bool b => if b then "true" else "false"
  | .num n => numberText n
  | .str s => quote s
  | .arr items => "[" ++ renderItems items ++ "]"
  | .obj fields => "\x7b" ++ renderFields fields ++ "\x7d"

/-- Comma-separated item texts. -/
def renderItems : List Json → String
  | [] => ""
  | [x] => render x
  | x :: rest => render x ++ "," ++ renderItems rest

/-- Comma-separated member texts. -/
def renderFields : List (String × Json) → String
  | [] => ""
  | [(k, v)] => quote k ++ ":" ++ render v
  | (k, v) :: rest => quote k ++ ":" ++ render v ++ "," ++ renderFields rest
end

end Json

/-! ## Documents as read from text -/

/-- A document as read, with the byte offset just past each node; object members keep text
order and repeats. A node made from a `Json` value has offset `0` everywhere. -/
inductive Node where
  | null (stop : Nat)
  | bool (b : Bool) (stop : Nat)
  | num (n : Number) (stop : Nat)
  | str (s : String) (stop : Nat)
  | arr (items : List Node) (stop : Nat)
  | obj (fields : List (String × Node)) (stop : Nat)
  deriving Repr, Inhabited

namespace Node

/-- The offset just past the node. -/
def stop : Node → Nat
  | .null p | .bool _ p | .num _ p | .str _ p | .arr _ p | .obj _ p => p

mutual
/-- The node of a value, without positions. -/
def ofJson : Json → Node
  | .null => .null 0
  | .bool b => .bool b 0
  | .num n => .num n 0
  | .str s => .str s 0
  | .arr items => .arr (ofJsonList items) 0
  | .obj fields => .obj (ofJsonFields fields) 0

/-- Nodes of a list of values. -/
def ofJsonList : List Json → List Node
  | [] => []
  | x :: rest => ofJson x :: ofJsonList rest

/-- Nodes of a member list. -/
def ofJsonFields : List (String × Json) → List (String × Node)
  | [] => []
  | (k, v) :: rest => (k, ofJson v) :: ofJsonFields rest
end

mutual
/-- The value a node denotes: members sorted, a repeated key keeping its last value. -/
def toJson : Node → Json
  | .null _ => .null
  | .bool b _ => .bool b
  | .num n _ => .num n
  | .str s _ => .str s
  | .arr items _ => .arr (toJsonList items)
  | .obj fields _ => Json.mkObj (toJsonFields fields)

/-- Values of a list of nodes. -/
def toJsonList : List Node → List Json
  | [] => []
  | x :: rest => toJson x :: toJsonList rest

/-- Values of a member list. -/
def toJsonFields : List (String × Node) → List (String × Json)
  | [] => []
  | (k, v) :: rest => (k, toJson v) :: toJsonFields rest
end

end Node

/-! ## Syntax errors -/

/-- The causes of a syntax error in JSON text. -/
inductive SyntaxCause where
  | eofWhileParsingList
  | eofWhileParsingObject
  | eofWhileParsingString
  | eofWhileParsingValue
  | expectedColon
  | expectedListCommaOrEnd
  | expectedObjectCommaOrEnd
  | expectedSomeIdent
  | expectedSomeValue
  | invalidEscape
  | invalidNumber
  | numberOutOfRange
  | invalidUnicodeCodePoint
  | controlCharacterWhileParsingString
  | keyMustBeAString
  | loneLeadingSurrogateInHexEscape
  | trailingComma
  | trailingCharacters
  | unexpectedEndOfHexEscape
  | recursionLimitExceeded
  deriving DecidableEq, Repr

/-- The message of a syntax error cause. -/
def SyntaxCause.message : SyntaxCause → String
  | .eofWhileParsingList => "EOF while parsing a list"
  | .eofWhileParsingObject => "EOF while parsing an object"
  | .eofWhileParsingString => "EOF while parsing a string"
  | .eofWhileParsingValue => "EOF while parsing a value"
  | .expectedColon => "expected `:`"
  | .expectedListCommaOrEnd => "expected `,` or `]`"
  | .expectedObjectCommaOrEnd => "expected `,` or `\x7d`"
  | .expectedSomeIdent => "expected ident"
  | .expectedSomeValue => "expected value"
  | .invalidEscape => "invalid escape"
  | .invalidNumber => "invalid number"
  | .numberOutOfRange => "number out of range"
  | .invalidUnicodeCodePoint => "invalid unicode code point"
  | .controlCharacterWhileParsingString => "control character (\\u0000-\\u001F) found while parsing a string"
  | .keyMustBeAString => "key must be a string"
  | .loneLeadingSurrogateInHexEscape => "lone leading surrogate in hex escape"
  | .trailingComma => "trailing comma"
  | .trailingCharacters => "trailing characters"
  | .unexpectedEndOfHexEscape => "unexpected end of hex escape"
  | .recursionLimitExceeded => "recursion limit exceeded"

/-- A syntax error: its cause and the byte offset whose line and column it reports. -/
structure SyntaxError where
  cause : SyntaxCause
  offset : Nat
  deriving Repr

/-- Line (from 1) and column (bytes since the line began) of a byte offset. -/
def lineColumn (bytes : ByteArray) (offset : Nat) : Nat × Nat :=
  (bytes.toList.take offset).foldl
    (fun (lc : Nat × Nat) b => if b = 10 then (lc.1 + 1, 0) else (lc.1, lc.2 + 1)) (1, 0)

/-- " at line L column C" for an offset of a text. -/
def positionSuffix (bytes : ByteArray) (offset : Nat) : String :=
  let (l, c) := lineColumn bytes offset
  " at line " ++ toString l ++ " column " ++ toString c

/-- The message of a syntax error in a text. -/
def SyntaxError.message (bytes : ByteArray) (e : SyntaxError) : String :=
  e.cause.message ++ positionSuffix bytes e.offset

/-! ## Reading -/

namespace Reader

/-- The result of a reading step: a value and the offset after it, or an error. -/
abbrev Step (α : Type) := Except SyntaxError (α × Nat)

/-- The byte at an offset. -/
def byteAt (b : ByteArray) (i : Nat) : Option UInt8 := if h : i < b.size then some b[i] else none

/-- The offset at which a peek error is reported: one past the current byte, at most the end. -/
def peekPos (b : ByteArray) (i : Nat) : Nat := min b.size (i + 1)

/-- Skips blanks (space, tab, line feed, carriage return). -/
def skipBlanks (b : ByteArray) : Nat → Nat → Nat
  | 0, i => i
  | fuel + 1, i =>
    match byteAt b i with
    | some 32 | some 9 | some 10 | some 13 => skipBlanks b fuel (i + 1)
    | _ => i

/-- Reads the rest of a keyword, byte by byte. -/
def expectIdent (b : ByteArray) : List UInt8 → Nat → Except SyntaxError Nat
  | [], i => .ok i
  | c :: rest, i =>
    match byteAt b i with
    | none => .error ⟨.eofWhileParsingValue, i⟩
    | some x => if x = c then expectIdent b rest (i + 1) else .error ⟨.expectedSomeIdent, i + 1⟩

/-- Whether a byte is a decimal digit. -/
def isDigit (x : UInt8) : Bool := 48 ≤ x && x ≤ 57

/-- The greatest 64-bit unsigned integer. -/
def u64Max : Nat := 18446744073709551615

/-- The double `significand · 10^exponent`, computed as the data format does. -/
def floatOfParts (positive : Bool) (significand : Nat) (exponent : Int) : Option Double :=
  let rec go : Nat → Double → Int → Option Double
    | 0, f, _ => some f
    | fuel + 1, f, e =>
      if e.natAbs ≤ 308 then
        if 0 ≤ e then Double.mul f (Double.powTen e.natAbs)
        else Double.div f (Double.powTen e.natAbs)
      else if f.man = 0 then some f
      else if 0 ≤ e then none
      else match Double.div f (Double.powTen 308) with
        | some g => go fuel g (e + 308)
        | none => none
  match go (exponent.natAbs / 308 + 2) ((Double.ofNat significand).getD Double.zero) exponent with
  | some f => some (if positive then f else f.negate)
  | none => none

/-- A float result at an offset, or the out-of-range error there. -/
def floatAt (positive : Bool) (sig : Nat) (e : Int) (i : Nat) : Step Number :=
  match floatOfParts positive sig e with
  | some f => .ok (.float f, i)
  | none => .error ⟨.numberOutOfRange, i⟩

/-- Reads the digits of an exponent after `e`, `e+` or `e-`. -/
def exponentDigits (b : ByteArray) : Nat → Nat → Nat → Bool × Nat × Nat
  | 0, acc, i => (false, acc, i)
  | fuel + 1, acc, i =>
    match byteAt b i with
    | some x =>
      if isDigit x then
        let acc' := acc * 10 + (x - 48).toNat
        if acc' > 2147483647 then (true, acc, i) else exponentDigits b fuel acc' (i + 1)
      else (false, acc, i)
    | none => (false, acc, i)

/-- Skips digits. -/
def skipDigits (b : ByteArray) : Nat → Nat → Nat
  | 0, i => i
  | fuel + 1, i =>
    match byteAt b i with
    | some x => if isDigit x then skipDigits b fuel (i + 1) else i
    | none => i

/-- Reads an exponent part; `i` points at the `e`. -/
def readExponent (b : ByteArray) (positive : Bool) (sig : Nat) (start : Int) (i : Nat) :
    Step Number :=
  let i := i + 1
  let (posExp, i) := match byteAt b i with
    | some 43 => (true, i + 1)
    | some 45 => (false, i + 1)
    | _ => (true, i)
  match byteAt b i with
  | none => .error ⟨.eofWhileParsingValue, i⟩
  | some x =>
    if !isDigit x then .error ⟨.invalidNumber, i + 1⟩ else
    let (overflow, e, j) := exponentDigits b b.size 0 i
    if overflow then
      if sig ≠ 0 ∧ posExp then .error ⟨.numberOutOfRange, j + 1⟩
      else
        let j := skipDigits b b.size j
        .ok (.float (if positive then Double.zero else Double.zero.negate), j)
    else
      let final : Int := if posExp then start + e else start - e
      floatAt positive sig final j

/-- Reads a fraction; `i` points at the point. Digits beyond nineteen significant ones are
skipped. -/
def readFraction (b : ByteArray) (positive : Bool) (sig : Nat) (start : Int) (i : Nat) :
    Step Number :=
  let rec digits : Nat → Nat → Int → Bool → Nat → Nat × Int × Bool × Nat
    | 0, s, e, any, i => (s, e, any, i)
    | fuel + 1, s, e, any, i =>
      match byteAt b i with
      | some x =>
        if isDigit x then
          let s' := s * 10 + (x - 48).toNat
          if s' > u64Max then
            -- overflow: the remaining digits are skipped
            (s, e, true, skipDigits b b.size i)
          else digits fuel s' (e - 1) true (i + 1)
        else (s, e, any, i)
      | none => (s, e, any, i)
  let (s, e, any, j) := digits b.size sig start false (i + 1)
  if !any then
    match byteAt b j with
    | some _ => .error ⟨.invalidNumber, peekPos b j⟩
    | none => .error ⟨.eofWhileParsingValue, peekPos b j⟩
  else
    match byteAt b j with
    | some 101 | some 69 => readExponent b positive s e j
    | _ => floatAt positive s e j

/-- What follows the integer digits of a number. -/
def readNumberTail (b : ByteArray) (positive : Bool) (sig : Nat) (i : Nat) : Step Number :=
  match byteAt b i with
  | some 46 => readFraction b positive sig 0 i
  | some 101 | some 69 => readExponent b positive sig 0 i
  | _ =>
    if positive then .ok (.int sig, i)
    else if 0 < sig ∧ sig ≤ 9223372036854775808 then .ok (.int (-(sig : Int)), i)
    else .ok (.float ((Double.ofNat sig).getD Double.zero).negate, i)

/-- Reads an integer that no longer fits: later digits only raise the exponent. -/
def readLongInteger (b : ByteArray) (positive : Bool) (sig : Nat) : Nat → Int → Nat → Step Number
  | 0, e, i => floatAt positive sig e i
  | fuel + 1, e, i =>
    match byteAt b i with
    | some x =>
      if isDigit x then readLongInteger b positive sig fuel (e + 1) (i + 1)
      else if x = 46 then readFraction b positive sig e i
      else if x = 101 ∨ x = 69 then readExponent b positive sig e i
      else floatAt positive sig e i
    | none => floatAt positive sig e i

/-- Reads the integer digits of a number after its sign. -/
def readNumber (b : ByteArray) (positive : Bool) (i : Nat) : Step Number :=
  match byteAt b i with
  | none => .error ⟨.eofWhileParsingValue, i⟩
  | some 48 =>
    match byteAt b (i + 1) with
    | some x => if isDigit x then .error ⟨.invalidNumber, peekPos b (i + 1)⟩
                else readNumberTail b positive 0 (i + 1)
    | none => readNumberTail b positive 0 (i + 1)
  | some x =>
    if !isDigit x then .error ⟨.invalidNumber, i + 1⟩ else
    let rec go : Nat → Nat → Nat → Step Number
      | 0, s, i => readNumberTail b positive s i
      | fuel + 1, s, i =>
        match byteAt b i with
        | some y =>
          if isDigit y then
            let s' := s * 10 + (y - 48).toNat
            if s' > u64Max then readLongInteger b positive s b.size 0 i
            else go fuel s' (i + 1)
          else readNumberTail b positive s i
        | none => readNumberTail b positive s i
    go b.size (x - 48).toNat (i + 1)

/-- The value of a hexadecimal digit. -/
def hexValue (x : UInt8) : Option Nat :=
  if 48 ≤ x ∧ x ≤ 57 then some (x - 48).toNat
  else if 97 ≤ x ∧ x ≤ 102 then some ((x - 97).toNat + 10)
  else if 65 ≤ x ∧ x ≤ 70 then some ((x - 65).toNat + 10)
  else none

/-- Reads four hexadecimal digits at an offset. -/
def readHex4 (b : ByteArray) (i : Nat) : Except SyntaxError Nat :=
  if b.size < i + 4 then .error ⟨.eofWhileParsingString, b.size⟩ else
  let ds := [byteAt b i, byteAt b (i + 1), byteAt b (i + 2), byteAt b (i + 3)]
  let step (acc : Nat) (d : Option UInt8) : Except SyntaxError Nat :=
    match d.bind hexValue with
    | some v => .ok (acc * 16 + v)
    | none => .error ⟨.invalidEscape, i + 4⟩
  ds.foldlM step 0

/-- Decodes the UTF-8 sequence starting at an offset; the text was valid UTF-8. -/
def utf8Char (b : ByteArray) (i : Nat) : Char × Nat :=
  let g (k : Nat) : Nat := ((byteAt b (i + k)).getD 0).toNat % 64
  let x := ((byteAt b i).getD 0).toNat
  if x < 0x80 then (Char.ofNat x, i + 1)
  else if x < 0xE0 then (Char.ofNat ((x % 32) * 64 + g 1), i + 2)
  else if x < 0xF0 then (Char.ofNat ((x % 16) * 4096 + g 1 * 64 + g 2), i + 3)
  else (Char.ofNat ((x % 8) * 262144 + g 1 * 4096 + g 2 * 64 + g 3), i + 4)

/-- Reads a string body after its opening quote; answers the characters and the offset
after the closing quote. -/
def readString (b : ByteArray) : Nat → List Char → Nat → Step (List Char)
  | 0, _, i => .error ⟨.eofWhileParsingString, i⟩
  | fuel + 1, acc, i =>
    match byteAt b i with
    | none => .error ⟨.eofWhileParsingString, b.size⟩
    | some 34 => .ok (acc.reverse, i + 1)
    | some 92 =>
      match byteAt b (i + 1) with
      | none => .error ⟨.eofWhileParsingString, b.size⟩
      | some 34 => readString b fuel ('"' :: acc) (i + 2)
      | some 92 => readString b fuel ('\\' :: acc) (i + 2)
      | some 47 => readString b fuel ('/' :: acc) (i + 2)
      | some 98 => readString b fuel (Char.ofNat 8 :: acc) (i + 2)
      | some 102 => readString b fuel (Char.ofNat 12 :: acc) (i + 2)
      | some 110 => readString b fuel ('\n' :: acc) (i + 2)
      | some 114 => readString b fuel ('\r' :: acc) (i + 2)
      | some 116 => readString b fuel ('\t' :: acc) (i + 2)
      | some 117 =>
        match readHex4 b (i + 2) with
        | .error e => .error e
        | .ok n =>
          if 0xD800 ≤ n ∧ n < 0xDC00 then
            -- a leading surrogate must be followed by an escaped trailing one
            match byteAt b (i + 6), byteAt b (i + 7) with
            | none, _ => .error ⟨.eofWhileParsingString, i + 6⟩
            | some 92, none => .error ⟨.eofWhileParsingString, i + 7⟩
            | some 92, some 117 =>
              match readHex4 b (i + 8) with
              | .error e => .error e
              | .ok m =>
                if 0xDC00 ≤ m ∧ m < 0xE000 then
                  let c := Char.ofNat (0x10000 + (n - 0xD800) * 1024 + (m - 0xDC00))
                  readString b fuel (c :: acc) (i + 12)
                else .error ⟨.loneLeadingSurrogateInHexEscape, i + 12⟩
            | some 92, some _ => .error ⟨.unexpectedEndOfHexEscape, i + 8⟩
            | some _, _ => .error ⟨.unexpectedEndOfHexEscape, i + 7⟩
          else if 0xDC00 ≤ n ∧ n < 0xE000 then .error ⟨.loneLeadingSurrogateInHexEscape, i + 6⟩
          else readString b fuel (Char.ofNat n :: acc) (i + 6)
      | some _ => .error ⟨.invalidEscape, i + 2⟩
    | some x =>
      if x < 0x20 then .error ⟨.controlCharacterWhileParsingString, i + 1⟩
      else
        let (c, j) := utf8Char b i
        readString b fuel (c :: acc) j

mutual
/-- Reads one value after blanks. -/
def readValue (b : ByteArray) : Nat → Nat → Step Node
  | 0, i => .error ⟨.recursionLimitExceeded, i⟩
  | fuel + 1, i =>
    let i := skipBlanks b b.size i
    match byteAt b i with
    | none => .error ⟨.eofWhileParsingValue, peekPos b i⟩
    | some 110 => (expectIdent b [117, 108, 108] (i + 1)).map fun j => (.null j, j)
    | some 116 => (expectIdent b [114, 117, 101] (i + 1)).map fun j => (.bool true j, j)
    | some 102 => (expectIdent b [97, 108, 115, 101] (i + 1)).map fun j => (.bool false j, j)
    | some 45 => (readNumber b false (i + 1)).map fun (n, j) => (.num n j, j)
    | some 34 => (readString b b.size [] (i + 1)).map fun (cs, j) => (.str (String.ofList cs) j, j)
    | some 91 => readItems b fuel true [] (i + 1)
    | some 123 => readFields b fuel true [] (i + 1)
    | some x =>
      if isDigit x then (readNumber b true i).map fun (n, j) => (.num n j, j)
      else .error ⟨.expectedSomeValue, peekPos b i⟩

/-- Reads the items of an array after `[` or after an item. -/
def readItems (b : ByteArray) : Nat → Bool → List Node → Nat → Step Node
  | 0, _, _, i => .error ⟨.recursionLimitExceeded, i⟩
  | fuel + 1, first, acc, i =>
    let i := skipBlanks b b.size i
    match byteAt b i with
    | none => .error ⟨.eofWhileParsingList, peekPos b i⟩
    | some 93 => .ok (.arr acc.reverse (i + 1), i + 1)
    | some 44 =>
      if first then .error ⟨.expectedSomeValue, peekPos b i⟩ else
      let j := skipBlanks b b.size (i + 1)
      match byteAt b j with
      | some 93 => .error ⟨.trailingComma, peekPos b j⟩
      | none => .error ⟨.eofWhileParsingValue, peekPos b j⟩
      | some _ =>
        match readValue b fuel j with
        | .ok (v, k) => readItems b fuel false (v :: acc) k
        | .error e => .error e
    | some _ =>
      if !first then .error ⟨.expectedListCommaOrEnd, peekPos b i⟩ else
      match readValue b fuel i with
      | .ok (v, k) => readItems b fuel false (v :: acc) k
      | .error e => .error e

/-- Reads the members of an object after `{` or after a member. -/
def readFields (b : ByteArray) : Nat → Bool → List (String × Node) → Nat → Step Node
  | 0, _, _, i => .error ⟨.recursionLimitExceeded, i⟩
  | fuel + 1, first, acc, i =>
    let i := skipBlanks b b.size i
    match byteAt b i with
    | none => .error ⟨.eofWhileParsingObject, peekPos b i⟩
    | some 125 => .ok (.obj acc.reverse (i + 1), i + 1)
    | some x =>
      let j :=
        if x = 44 ∧ !first then skipBlanks b b.size (i + 1) else i
      if x ≠ 44 ∧ !first then .error ⟨.expectedObjectCommaOrEnd, peekPos b i⟩
      else if x = 44 ∧ first then .error ⟨.keyMustBeAString, peekPos b i⟩
      else
        match byteAt b j with
        | none => .error ⟨.eofWhileParsingValue, peekPos b j⟩
        | some 125 => .error ⟨.trailingComma, peekPos b j⟩
        | some 34 =>
          match readString b b.size [] (j + 1) with
          | .error e => .error e
          | .ok (key, k) =>
            let k := skipBlanks b b.size k
            match byteAt b k with
            | some 58 =>
              match readValue b fuel (k + 1) with
              | .ok (v, m) => readFields b fuel false ((String.ofList key, v) :: acc) m
              | .error e => .error e
            | some _ => .error ⟨.expectedColon, peekPos b k⟩
            | none => .error ⟨.eofWhileParsingObject, peekPos b k⟩
        | some _ => .error ⟨.keyMustBeAString, peekPos b j⟩
end

end Reader

namespace Node

/-- Reads a whole text as one document; only blanks may follow it. -/
def parse (b : ByteArray) : Except SyntaxError Node :=
  match Reader.readValue b (b.size + 2) 0 with
  | .error e => .error e
  | .ok (v, i) =>
    let j := Reader.skipBlanks b b.size i
    if j < b.size then .error ⟨.trailingCharacters, Reader.peekPos b j⟩ else .ok v

end Node

namespace Json

/-- Reads a text as a value; the message of a syntax error carries its position. -/
def parse (s : String) : Except String Json :=
  match Node.parse s.toUTF8 with
  | .ok n => .ok n.toJson
  | .error e => .error (e.message s.toUTF8)

end Json

end ImageStudio
