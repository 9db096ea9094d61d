import ImageStudio.Net.Url
import ImageStudio.Text.Unsigned

/-!
# Net · SocketAddress: the address a server listens on

A socket address is an IP address with a port. It is written either as an IPv4 address in
dotted decimal, as in `127.0.0.1:8080`, or as an IPv6 address in brackets, as in
`[::1]:80`. An IPv6 address may name a zone with `%` and a number, as in
`[fe80::1%2]:80`.

The grammar is strict; nothing like the loose IPv4 forms a URL host allows is accepted:

* an IPv4 part is one to three decimal digits at most 255, with no leading zero;
* an IPv6 group is one to four hexadecimal digits, in either case. `::` stands for one or
  more zero groups. The last two groups may be written as an IPv4 address, but only after
  at least one group or `::`;
* a port is any number of decimal digits at most 65535, and a zone is any number of digits
  that fits 32 bits. Leading zeros are allowed in both.

The whole text must be read. Each reader takes a list of characters and returns what it read
with the characters left, or `none`. A failed reader consumes nothing, so a caller can go on
with another reader at the same place.

An address is written back in its shortest form. An IPv6 address drops the longest run of
two or more zero groups, the first such run on a tie. An address mapped from IPv4
(`::ffff:a.b.c.d`) keeps its IPv4 tail, and zone 0 is left out.
-/

namespace ImageStudio

/-- A socket address: an IPv4 address (four parts) or an IPv6 address (eight groups and a
zone), with a port. -/
inductive SocketAddress where
  | v4 (parts : List Nat) (port : Nat)
  | v6 (groups : List Nat) (zone : Nat) (port : Nat)
  deriving Repr, DecidableEq, Inhabited

namespace SocketAddress

/-- The value of a digit in a radix up to 16, in either case. -/
def digitValue (radix : Nat) (c : Char) : Option Nat :=
  let v := if c.isDigit then some (c.toNat - '0'.toNat)
    else if 'a' ≤ c && c ≤ 'f' then some (c.toNat - 'a'.toNat + 10)
    else if 'A' ≤ c && c ≤ 'F' then some (c.toNat - 'A'.toNat + 10)
    else none
  v.filter (· < radix)

/-- Reads a number: all the digits at the front, at most `maxDigits` of them when given,
with no leading zero unless `zeroPrefix`, and a value at most `limit`. -/
def readNumber (radix : Nat) (maxDigits : Option Nat) (zeroPrefix : Bool) (limit : Nat)
    (cs : List Char) : Option (Nat × List Char) :=
  let ds := cs.takeWhile fun c => (digitValue radix c).isSome
  let value := ds.foldl (fun acc c => acc * radix + (digitValue radix c).getD 0) 0
  if ds.isEmpty then none
  else if (maxDigits.map fun m => decide (ds.length > m)).getD false then none
  else if !zeroPrefix && ds.head? == some '0' && ds.length > 1 then none
  else if value > limit then none
  else some (value, cs.drop ds.length)

/-- Reads one expected character. -/
def expect (c : Char) : List Char → Option (List Char)
  | d :: rest => if c == d then some rest else none
  | [] => none

/-- Reads the item at place `i` of a list separated by `sep`: the separator comes before
every item but the first. -/
def readSeparated {α : Type} (sep : Char) (i : Nat) (inner : List Char → Option (α × List Char))
    (cs : List Char) : Option (α × List Char) :=
  if i == 0 then inner cs else (expect sep cs).bind inner

/-- Reads an IPv4 address: four parts separated by dots. -/
def readIpv4 (cs : List Char) : Option (List Nat × List Char) := do
  let part := readNumber 10 (some 3) false 255
  let (a, cs) ← part cs
  let (b, cs) ← readSeparated '.' 1 part cs
  let (c, cs) ← readSeparated '.' 2 part cs
  let (d, cs) ← readSeparated '.' 3 part cs
  pure ([a, b, c, d], cs)

/-- Reads up to `slots` groups of an IPv6 address, the first at place `i`: the groups, whether
the last two came from an IPv4 address, and the characters left. An IPv4 address is tried
first wherever two slots are left. -/
def readGroups : Nat → Nat → List Char → List Nat × Bool × List Char
  | 0, _, cs => ([], false, cs)
  | left + 1, i, cs =>
    let embedded := if left ≥ 1 then readSeparated ':' i readIpv4 cs else none
    match embedded with
    | some (ps, rest) =>
      ([ps.getD 0 0 * 256 + ps.getD 1 0, ps.getD 2 0 * 256 + ps.getD 3 0], true, rest)
    | none =>
      match readSeparated ':' i (readNumber 16 (some 4) true 0xFFFF) cs with
      | some (g, rest) =>
        let (gs, fromV4, rest) := readGroups left (i + 1) rest
        (g :: gs, fromV4, rest)
      | none => ([], false, cs)

/-- Reads an IPv6 address: eight groups, or the groups before and after a `::`. -/
def readIpv6 (cs : List Char) : Option (List Nat × List Char) :=
  let (head, headV4, rest) := readGroups 8 0 cs
  if head.length == 8 then some (head, rest)
  else if headV4 then none
  else do
    let rest ← expect ':' rest
    let rest ← expect ':' rest
    let (tail, _, rest) := readGroups (8 - (head.length + 1)) 0 rest
    pure (head ++ List.replicate (8 - head.length - tail.length) 0 ++ tail, rest)

/-- Reads a port after its colon. -/
def readPort (cs : List Char) : Option (Nat × List Char) :=
  (expect ':' cs).bind (readNumber 10 none true 65535)

/-- Reads an IPv4 socket address. -/
def readV4 (cs : List Char) : Option (SocketAddress × List Char) := do
  let (parts, cs) ← readIpv4 cs
  let (port, cs) ← readPort cs
  pure (.v4 parts port, cs)

/-- Reads an IPv6 socket address: the address and its zone in brackets, then the port. -/
def readV6 (cs : List Char) : Option (SocketAddress × List Char) := do
  let cs ← expect '[' cs
  let (groups, cs) ← readIpv6 cs
  let (zone, cs) := match (expect '%' cs).bind (readNumber 10 none true Text.maxU32) with
    | some (z, rest) => (z, rest)
    | none => (0, cs)
  let cs ← expect ']' cs
  let (port, cs) ← readPort cs
  pure (.v6 groups zone port, cs)

/-- Reads a whole text as a socket address. An IPv4 address that reads is kept, even if
text is left after it. -/
def parse (s : String) : Option SocketAddress :=
  match readV4 s.toList with
  | some (a, rest) => if rest.isEmpty then some a else none
  | none =>
    match readV6 s.toList with
    | some (a, rest) => if rest.isEmpty then some a else none
    | none => none

/-- Lowercase hexadecimal. -/
def hexText (n : Nat) : String := String.ofList (Nat.toDigits 16 n)

/-- Dotted decimal. -/
def ipv4Text (parts : List Nat) : String := ".".intercalate (parts.map toString)

/-- The shortest text of an IPv6 address, without brackets. -/
def ipv6Text (gs : List Nat) : String :=
  let join (xs : List Nat) := ":".intercalate (xs.map hexText)
  if gs.take 6 == [0, 0, 0, 0, 0, 0xFFFF] then
    let a := gs.getD 6 0
    let b := gs.getD 7 0
    "::ffff:" ++ ipv4Text [a / 256, a % 256, b / 256, b % 256]
  else
    match Url.longestZeros gs with
    | some (s, l) => join (gs.take s) ++ "::" ++ join (gs.drop (s + l))
    | none => join gs

/-- The text of a socket address. -/
def toText : SocketAddress → String
  | .v4 parts port => ipv4Text parts ++ ":" ++ toString port
  | .v6 groups zone port =>
    "[" ++ ipv6Text groups ++ (if zone == 0 then "" else "%" ++ toString zone) ++ "]:" ++
      toString port

end SocketAddress

end ImageStudio
