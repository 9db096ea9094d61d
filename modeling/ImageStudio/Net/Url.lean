import ImageStudio.Id.Uuid
import ImageStudio.Net.Idna

/-!
# Net · Url: reading and writing absolute URLs

An absolute URL is read the way web clients read it (the WHATWG URL standard) and written
back in its normal form. The service needs this for two things: to tell whether a
reference image lives on the local machine, and to name a request's URL in a failure.

What the reader does:

* Surrounding spaces and control characters are dropped; tabs and line breaks anywhere are
  dropped.
* The scheme is lower-cased. The special schemes (`http`, `https`, `ws`, `wss`, `ftp`,
  `file`) always have a host; any slashes and backslashes after the colon are skipped,
  and a backslash separates path segments like a slash.
* A host is percent-decoded and brought to ASCII (`Net.Idna`): lower-cased, mapped and, for
  labels beyond ASCII, Punycode-encoded; it may not hold a forbidden character. A host
  whose last label is a number is an IPv4 address, written back in dotted decimal; a
  bracketed host is an IPv6 address, written back in its shortest form. A `file` URL's
  host `localhost` is the empty host.
* A port is decimal and at most 65535; the scheme's default port is dropped.
* Path segments `.` and `..` are resolved, and characters outside each part's safe set are
  percent-encoded as UTF-8.

A text that is not an absolute URL reads as `none`.
-/

namespace ImageStudio

/-- An absolute URL, each part in its written form. -/
structure Url where
  scheme : String
  /-- `user` or `user:password`, percent-encoded; empty when absent. -/
  userinfo : String := ""
  /-- The host as written, an IPv6 address with its brackets. -/
  host : Option String := none
  port : Option Nat := none
  path : String := ""
  query : Option String := none
  fragment : Option String := none
  deriving DecidableEq, Repr, Inhabited

namespace Url

/-! ## Character sets -/

/-- Controls: every character below a space, delete, and everything beyond ASCII. -/
def isControl (c : Char) : Bool := c.toNat < 0x20 || c.toNat ≥ 0x7F

/-- Characters encoded in a fragment. -/
def inFragmentSet (c : Char) : Bool := isControl c || " \"<>`".contains c

/-- Characters encoded in a query. -/
def inQuerySet (special : Bool) (c : Char) : Bool :=
  isControl c || " \"#<>".contains c || (special && c == '\'')

/-- Characters encoded in a path segment. -/
def inPathSet (c : Char) : Bool := inFragmentSet c || "#?\x7b\x7d".contains c

/-- Characters encoded in the user information. -/
def inUserinfoSet (c : Char) : Bool := inPathSet c || "/:;=@[\\]^|".contains c

/-- Characters no host may hold. -/
def forbiddenInHost (c : Char) : Bool :=
  c.toNat < 0x20 || c.toNat == 0x7F || " #/:<>?@[\\]^|".contains c

/-- The uppercase hexadecimal digit of a value below 16. -/
def hexDigit (n : Nat) : Char := "0123456789ABCDEF".toList.getD n '0'

/-- `%XX` for each UTF-8 byte of a character. -/
def percentBytes (c : Char) : String :=
  (String.singleton c).toUTF8.foldl (fun acc b =>
    acc ++ "%" ++ String.singleton (hexDigit (b.toNat / 16)) ++
      String.singleton (hexDigit (b.toNat % 16))) ""

/-- Percent-encodes the characters of `set`. -/
def encodeWith (set : Char → Bool) (cs : List Char) : String :=
  cs.foldl (fun acc c => if set c then acc ++ percentBytes c else acc.push c) ""

/-- The value of a hexadecimal digit. -/
def hexValue (c : Char) : Option Nat :=
  if '0' ≤ c ∧ c ≤ '9' then some (c.toNat - '0'.toNat)
  else if 'a' ≤ c ∧ c ≤ 'f' then some (c.toNat - 'a'.toNat + 10)
  else if 'A' ≤ c ∧ c ≤ 'F' then some (c.toNat - 'A'.toNat + 10)
  else none

/-- Percent-decodes to bytes; a `%` not followed by two hex digits stays as it is. -/
def decodeBytes : List Char → List UInt8
  | '%' :: a :: b :: rest =>
    match hexValue a, hexValue b with
    | some x, some y => (x * 16 + y).toUInt8 :: decodeBytes rest
    | _, _ => '%'.toNat.toUInt8 :: decodeBytes (a :: b :: rest)
  | c :: rest => (String.singleton c).toUTF8.toList ++ decodeBytes rest
  | [] => []

/-! ## Hosts -/

/-- One part of an IPv4 address: decimal, octal after a leading zero, hex after `0x`. -/
def ipv4Part (cs : List Char) : Option Nat :=
  match cs with
  | '0' :: x :: rest =>
    if x == 'x' || x == 'X' then
      rest.foldlM (fun n c => (hexValue c).map (n * 16 + ·)) 0
    else (x :: rest).foldlM (fun n c =>
      if '0' ≤ c ∧ c ≤ '7' then some (n * 8 + (c.toNat - '0'.toNat)) else none) 0
  | [] => none
  | _ => cs.foldlM (fun n c =>
      if c.isDigit then some (n * 10 + (c.toNat - '0'.toNat)) else none) 0

/-- Whether the last label of a host is a number, which makes the host an IPv4 address. -/
def endsInNumber (host : List Char) : Bool :=
  let labels := host.splitOn '.'
  let labels := if labels.getLast? == some [] && labels.length > 1 then labels.dropLast else labels
  match labels.getLast? with
  | some last =>
    (!last.isEmpty && last.all Char.isDigit) ||
      (match last with
       | '0' :: x :: rest => (x == 'x' || x == 'X') && rest.all fun c => (hexValue c).isSome
       | _ => false)
  | none => false

/-- Reads an IPv4 address in any of its notations. -/
def parseIpv4 (host : List Char) : Option Nat := do
  let labels := host.splitOn '.'
  let labels := if labels.getLast? == some [] && labels.length > 1 then labels.dropLast else labels
  if labels.length > 4 then none
  let nums ← labels.mapM ipv4Part
  let n := nums.length
  let front := nums.dropLast
  let last ← nums.getLast?
  if front.any (· > 255) then none
  if last ≥ Nat.pow 256 (5 - n) then none
  pure (front.zipIdx.foldl (fun acc (v, i) => acc + v * Nat.pow 256 (3 - i)) last)

/-- Dotted decimal. -/
def ipv4Text (n : Nat) : String :=
  toString (n / Nat.pow 2 24 % 256) ++ "." ++ toString (n / Nat.pow 2 16 % 256) ++ "." ++
    toString (n / Nat.pow 2 8 % 256) ++ "." ++ toString (n % 256)

/-- Reads up to four hexadecimal digits: their value, how many there were, and the rest. -/
def hexPiece : Nat → Nat → List Char → Nat × Nat × List Char
  | value, len, c :: rest =>
    match hexValue c with
    | some v => if len < 4 then hexPiece (value * 16 + v) (len + 1) rest else (value, len, c :: rest)
    | none => (value, len, c :: rest)
  | value, len, [] => (value, len, [])

/-- Reads the IPv4 tail of an IPv6 address: exactly four decimal numbers below 256, without
leading zeros, separated by dots. They make two groups. -/
def ipv4Tail (cs : List Char) : Option (Nat × Nat) := do
  let parts := cs.splitOn '.'
  if parts.length != 4 then none
  let nums ← parts.mapM fun p =>
    if p.isEmpty || !p.all Char.isDigit || (p.length > 1 && p.head? == some '0') then none
    else
      let v := p.foldl (fun n c => n * 10 + (c.toNat - '0'.toNat)) 0
      if v > 255 then none else some v
  pure (nums.getD 0 0 * 256 + nums.getD 1 0, nums.getD 2 0 * 256 + nums.getD 3 0)

/-- Reads the groups of an IPv6 address after its start. `pieces` are the groups so far;
`compress` is where the groups after a `::` begin. A `::` takes one group of its own, so that
eight groups and a `::` do not fit. -/
def ipv6Pieces : Nat → List Nat → Option Nat → List Char → Option (List Nat × Option Nat)
  | 0, _, _, _ => none
  | fuel + 1, pieces, compress, cs =>
    match cs with
    | [] => some (pieces, compress)
    | c :: rest =>
      if pieces.length ≥ 8 then none
      else if c == ':' then
        if compress.isSome then none
        else ipv6Pieces fuel (pieces ++ [0]) (some (pieces.length + 1)) rest
      else
        let (value, len, after) := hexPiece 0 0 cs
        match after with
        | '.' :: _ =>
          if len == 0 || pieces.length > 6 then none
          else (ipv4Tail cs).map fun (a, b) => (pieces ++ [a, b], compress)
        | [':'] => none
        | ':' :: more => ipv6Pieces fuel (pieces ++ [value]) compress more
        | [] => some (pieces ++ [value], compress)
        | _ => none

/-- Reads the eight groups of an IPv6 address. `::` stands for as many zero groups as are
missing, and the last two groups may be written as an IPv4 address. -/
def parseIpv6 (cs : List Char) : Option (List Nat) := do
  let (pieces, compress, rest) ← match cs with
    | ':' :: ':' :: rest => some ([0], some 1, rest)
    | ':' :: _ => none
    | _ => some ([], none, cs)
  let (pieces, compress) ← ipv6Pieces (rest.length + 1) pieces compress rest
  match compress with
  | some k =>
    if pieces.length > 8 then none
    else some (pieces.take k ++ List.replicate (8 - pieces.length) 0 ++ pieces.drop k)
  | none => if pieces.length == 8 then some pieces else none

/-- The start and length of the longest run of at least two zero groups (the first such). -/
def longestZeros (gs : List Nat) : Option (Nat × Nat) :=
  let step (acc : Option (Nat × Nat) × Nat × Nat) (x : Nat × Nat) :=
    let (best, start, len) := acc
    let (g, i) := x
    if g == 0 then
      let start := if len == 0 then i else start
      let len := len + 1
      let better : Bool := match best with
        | some (_, l) => decide (len > l)
        | none => decide (len ≥ 2)
      (if better then some (start, len) else best, start, len)
    else (best, 0, 0)
  (gs.zipIdx.foldl step (none, 0, 0)).1

/-- The shortest text of an IPv6 address, in brackets. -/
def ipv6Text (gs : List Nat) : String :=
  let hex (g : Nat) := String.ofList (Nat.toDigits 16 g)
  let join (xs : List Nat) := ":".intercalate (xs.map hex)
  match longestZeros gs with
  | some (s, l) => "[" ++ join (gs.take s) ++ "::" ++ join (gs.drop (s + l)) ++ "]"
  | none => "[" ++ join gs ++ "]"

/-- Reads the host of a URL with a special scheme. -/
def parseSpecialHost (cs : List Char) : Option String :=
  match cs with
  | '[' :: rest =>
    if rest.getLast? == some ']' then (parseIpv6 rest.dropLast).map ipv6Text else none
  | _ => do
    let bytes := decodeBytes cs
    let text ← String.fromUTF8? (ByteArray.mk bytes.toArray)
    let ascii ← Idna.toAscii text.toList
    if ascii.isEmpty then none
    if endsInNumber ascii then (parseIpv4 ascii).map ipv4Text
    else pure (String.ofList ascii)

/-- Reads the host of a URL with another scheme: kept as written, controls encoded. -/
def parseOpaqueHost (cs : List Char) : Option String :=
  match cs with
  | '[' :: rest =>
    if rest.getLast? == some ']' then (parseIpv6 rest.dropLast).map ipv6Text else none
  | _ =>
    if cs.any (fun c => c != '%' && forbiddenInHost c) then none
    else some (encodeWith isControl cs)

/-! ## Reading -/

/-- The schemes with a host and a default port. -/
def specialSchemes : List String := ["http", "https", "ws", "wss", "ftp", "file"]

/-- The default port of a scheme. -/
def defaultPort : String → Option Nat
  | "http" | "ws" => some 80
  | "https" | "wss" => some 443
  | "ftp" => some 21
  | _ => none

/-- Whether a path segment is `.`, in any of its spellings. -/
def isSingleDot (s : List Char) : Bool :=
  let t := (String.ofList s).toLower
  t == "." || t == "%2e"

/-- Whether a path segment is `..`, in any of its spellings. -/
def isDoubleDot (s : List Char) : Bool :=
  let t := (String.ofList s).toLower
  t == ".." || t == ".%2e" || t == "%2e." || t == "%2e%2e"

/-- Resolves the segments of a path: `.` goes, `..` drops the segment before it. A final
`.` or `..` leaves an empty last segment. -/
def resolveSegments (segs : List (List Char)) : List (List Char) :=
  let n := segs.length
  (segs.zipIdx.foldl (fun acc (s, i) =>
    let last := i + 1 == n
    if isDoubleDot s then acc.dropLast ++ (if last then [[]] else [])
    else if isSingleDot s then acc ++ (if last then [[]] else [])
    else acc ++ [s]) [])

/-- Splits at the first character satisfying `p`. -/
def breakAt (p : Char → Bool) (cs : List Char) : List Char × List Char :=
  (cs.takeWhile (fun c => !p c), cs.dropWhile (fun c => !p c))

/-- Reads the path, query and fragment that follow the host. -/
def readTail (special : Bool) (cs : List Char) (flat : Bool) :
    String × Option String × Option String :=
  let (beforeFrag, frag) := breakAt (· == '#') cs
  let fragment := match frag with
    | _ :: f => some (encodeWith inFragmentSet f)
    | [] => none
  let (pathPart, q) := breakAt (· == '?') beforeFrag
  let query := match q with
    | _ :: qs => some (encodeWith (inQuerySet special) qs)
    | [] => none
  let path :=
    if flat then encodeWith isControl pathPart
    else
      let isSep (c : Char) := c == '/' || (special && c == '\\')
      let rest := match pathPart with
        | c :: more => if isSep c then more else pathPart
        | [] => []
      if pathPart.isEmpty && !special then ""
      else
        let segs := resolveSegments (rest.splitOnP isSep)
        String.join (segs.map fun s => "/" ++ encodeWith inPathSet s)
  (path, query, fragment)

/-- Reads the authority: user information, host and port. -/
def readAuthority (scheme : String) (special : Bool) (auth : List Char) :
    Option (String × String × Option Nat) := do
  let (userinfo, hostPort) :=
    match (auth.reverse.findIdx? (· == '@')) with
    | some j =>
      let k := auth.length - 1 - j
      let creds := auth.take k
      let (user, pass) := breakAt (· == ':') creds
      let userText := encodeWith inUserinfoSet user
      let passText := match pass with
        | _ :: p => if p.isEmpty then "" else ":" ++ encodeWith inUserinfoSet p
        | [] => ""
      (userText ++ passText, auth.drop (k + 1))
    | none => ("", auth)
  let (hostPart, portPart) :=
    match hostPort with
    | '[' :: _ =>
      let (inside, after) := breakAt (· == ']') hostPort
      (inside ++ after.take 1, after.drop 1)
    | _ => breakAt (· == ':') hostPort
  let port ← match portPart with
    | [] => pure none
    | _ :: digits =>
      if digits.isEmpty then pure none
      else if digits.all Char.isDigit then
        let n := digits.foldl (fun n c => n * 10 + (c.toNat - '0'.toNat)) 0
        if n > 65535 then none
        else pure (if defaultPort scheme == some n then none else some n)
      else none
  let host ← if special then parseSpecialHost hostPart else parseOpaqueHost hostPart
  if special && host.isEmpty && scheme != "file" then none
  pure (userinfo, host, port)

/-- Whether a text is a drive letter: a letter and a colon or a bar. -/
def isDriveLetter (cs : List Char) : Bool :=
  match cs with
  | [l, c] => l.isAlpha && (c == ':' || c == '|')
  | _ => false

/-- Reads an absolute URL. -/
def parse (s : String) : Option Url := do
  let cs := s.toList.filter fun c => c != '\t' && c != '\n' && c != '\r'
  let trim (xs : List Char) := xs.dropWhile fun c => c.toNat ≤ 0x20
  let cs := (trim (trim cs).reverse).reverse
  let (schemeCs, rest) := breakAt (· == ':') cs
  let first ← schemeCs.head?
  if !first.isAlpha then none
  if !schemeCs.all (fun c => c.isAlphanum || c == '+' || c == '-' || c == '.') then none
  let afterColon ← match rest with
    | _ :: more => some more
    | [] => none
  let scheme := String.ofList (schemeCs.map Char.toLower)
  let special := specialSchemes.contains scheme
  let isSlash (c : Char) := c == '/' || c == '\\'
  if scheme == "file" then
    let (host, tail) ← match afterColon with
      | a :: b :: more =>
        if isSlash a && isSlash b then
          let (auth, tail) := breakAt (fun c => isSlash c || c == '?' || c == '#') more
          if isDriveLetter auth then pure ("", auth ++ tail)
          else if auth.isEmpty then pure ("", tail)
          else
            let host ← parseSpecialHost auth
            pure (if host == "localhost" then "" else host, tail)
        else pure ("", afterColon)
      | _ => pure ("", afterColon)
    let (path, query, fragment) := readTail true tail false
    pure { scheme, host := some host, path, query, fragment }
  else if special then
    let afterSlashes := afterColon.dropWhile isSlash
    let (auth, tail) := breakAt (fun c => c == '/' || c == '\\' || c == '?' || c == '#') afterSlashes
    let (userinfo, host, port) ← readAuthority scheme true auth
    let (path, query, fragment) := readTail true tail false
    pure { scheme, userinfo, host := some host, port, path, query, fragment }
  else
    match afterColon with
    | '/' :: '/' :: more =>
      let (auth, tail) := breakAt (fun c => c == '/' || c == '?' || c == '#') more
      let (userinfo, host, port) ← readAuthority scheme false auth
      let (path, query, fragment) := readTail false tail false
      pure { scheme, userinfo, host := some host, port, path, query, fragment }
    | '/' :: _ =>
      let (path, query, fragment) := readTail false afterColon false
      pure { scheme, path, query, fragment }
    | _ =>
      let (path, query, fragment) := readTail false afterColon true
      pure { scheme, path, query, fragment }

/-! ## Writing -/

/-- The normal text of a URL. -/
def toText (u : Url) : String :=
  let authority := match u.host with
    | some h =>
      "//" ++ (if u.userinfo.isEmpty then "" else u.userinfo ++ "@") ++ h ++
        (match u.port with | some p => ":" ++ toString p | none => "")
    | none => ""
  u.scheme ++ ":" ++ authority ++ u.path ++
    (match u.query with | some q => "?" ++ q | none => "") ++
    (match u.fragment with | some f => "#" ++ f | none => "")

/-- Whether the URL has a special scheme. -/
def isSpecial (u : Url) : Bool := specialSchemes.contains u.scheme

end Url

end ImageStudio
