import ImageStudio.Text.Quoted

/-!
# Id · Uuid: 128-bit identifiers and their text

Every topic, batch, generation, task, file and user is named by a 128-bit identifier. Its
text is 32 lowercase hexadecimal digits, hyphenated 8-4-4-4-12; the *simple* text omits
the hyphens.

**Reading** accepts 32 hexadecimal digits, the hyphenated form, the hyphenated form in
braces, and the hyphenated form after `urn:uuid:`, digits and prefix in either case. A
refused text gets a diagnosis, looked for in this order: a text longer than the longest
form (45 bytes); the first character, inside the braces or after the prefix, that is
neither a hexadecimal digit nor a hyphen, at its byte index there; a text without hyphens,
braces or prefix whose length is not that of the hyphenated form, as a simple text of the
wrong length; a hyphen count other than four; the first group of the wrong length. The
length of the last group is counted from the whole text, braces or prefix included.
-/

namespace ImageStudio

/-- A 128-bit identifier. -/
structure Uuid where
  value : Nat
  deriving DecidableEq, Repr, Inhabited, Hashable

/-- Why a text is not an identifier. -/
inductive UuidError where
  | char (c : Char) (index : Nat)
  | length (len : Nat)
  | groupCount (count : Nat)
  | groupLength (group len : Nat)
  deriving DecidableEq, Repr

namespace UuidError

/-- The diagnosis, as messages word it. -/
def message : UuidError → String
  | .char c i => "invalid character: found `" ++ String.singleton c ++ "` at " ++ toString i
  | .length n => "invalid length: found " ++ toString n
  | .groupCount n => "invalid group count: expected 5, found " ++ toString n
  | .groupLength g n =>
    "invalid group length in group " ++ toString g ++ ": expected " ++
      toString ([8, 4, 4, 4, 12].getD g 0) ++ ", found " ++ toString n

end UuidError

namespace Uuid

/-- The value of a hexadecimal digit character. -/
def hexValue (c : Char) : Option Nat :=
  if '0' ≤ c ∧ c ≤ '9' then some (c.toNat - '0'.toNat)
  else if 'a' ≤ c ∧ c ≤ 'f' then some (c.toNat - 'a'.toNat + 10)
  else if 'A' ≤ c ∧ c ≤ 'F' then some (c.toNat - 'A'.toNat + 10)
  else none

/-- The number written by hexadecimal digits, when they all are. -/
def hexNumber (cs : List Char) : Option Nat :=
  cs.foldlM (fun acc c => (hexValue c).map (acc * 16 + ·)) 0

/-- Reads the hyphenated form `8-4-4-4-12`. -/
def readHyphenated (cs : List Char) : Option Nat :=
  if cs.length = 36 ∧ cs.getD 8 ' ' = '-' ∧ cs.getD 13 ' ' = '-' ∧ cs.getD 18 ' ' = '-' ∧
      cs.getD 23 ' ' = '-' then
    hexNumber (cs.filter (· ≠ '-')) |>.filter fun _ => (cs.filter (· = '-')).length = 4
  else none

/-- Whether a text starts with `urn:uuid:`, in any case. -/
def hasUrnPrefix (cs : List Char) : Bool :=
  (cs.take 9).map Char.toLower == "urn:uuid:".toList

/-- The longest text of an identifier: the hyphenated form after `urn:uuid:`. -/
def longestText : Nat := 45

/-- The diagnosis of a refused text. -/
def diagnose (s : String) : UuidError :=
  let cs := s.toList
  let (body, simple) :=
    if cs.head? = some '{' ∧ cs.getLast? = some '}' ∧ cs.length ≥ 2 then
      ((cs.drop 1).dropLast, false)
    else if hasUrnPrefix cs then (cs.drop 9, false)
    else (cs, cs.length ≠ 36)
  -- byte offsets of the characters of the body
  let rec scan : List Char → Nat → Nat → List Nat → Option UuidError × Nat × List Nat
    | [], _, hyphens, bounds => (none, hyphens, bounds.reverse)
    | c :: rest, i, hyphens, bounds =>
      if c = '-' then scan rest (i + 1) (hyphens + 1) (if hyphens < 4 then i :: bounds else bounds)
      else if (hexValue c).isSome then scan rest (i + c.utf8Size) hyphens bounds
      else (some (.char c i), hyphens, bounds.reverse)
  if s.utf8ByteSize > longestText then .length s.utf8ByteSize
  else match scan body 0 0 [] with
  | (some e, _, _) => e
  | (none, hyphens, bounds) =>
    if hyphens = 0 ∧ simple then .length s.utf8ByteSize
    else if hyphens ≠ 4 then .groupCount (hyphens + 1)
    else
      let starts := [0, 9, 14, 19, 24]
      let rec firstBad : Nat → List Nat → UuidError
        | i, b :: bs =>
          if b ≠ starts.getD (i + 1) 0 - 1 then .groupLength i (b - starts.getD i 0)
          else firstBad (i + 1) bs
        | _, [] => .groupLength 4 (s.utf8ByteSize - 24)
      firstBad 0 bounds

/-- Reads an identifier from its text. -/
def parse (s : String) : Except UuidError Uuid :=
  let cs := s.toList
  let body :=
    if cs.length = 38 ∧ cs.head? = some '{' ∧ cs.getLast? = some '}' then (cs.drop 1).dropLast
    else if cs.length = 45 ∧ hasUrnPrefix cs then cs.drop 9
    else cs
  let parsed :=
    if cs.length = 32 then hexNumber cs
    else if body.length = 36 ∧ (cs.length = 36 ∨ cs.length = 38 ∨ cs.length = 45) then
      readHyphenated body
    else none
  match parsed with
  | some v => .ok ⟨v⟩
  | none => .error (diagnose s)

/-- `n` as exactly `width` lowercase hexadecimal digits. -/
def hexPadded (width n : Nat) : String :=
  let ds := Nat.toDigits 16 n
  String.ofList (List.replicate (width - ds.length) '0' ++ ds)

/-- The simple text: 32 lowercase hexadecimal digits. -/
def simple (u : Uuid) : String := hexPadded 32 u.value

/-- The hyphenated text. -/
def toText (u : Uuid) : String :=
  let h := (simple u).toList
  let part (a b : Nat) := String.ofList ((h.drop a).take (b - a))
  part 0 8 ++ "-" ++ part 8 12 ++ "-" ++ part 12 16 ++ "-" ++ part 16 20 ++ "-" ++ part 20 32

instance : ToString Uuid := ⟨toText⟩

/-- Whether a text is a hyphenated identifier in lowercase or uppercase. -/
def looksHyphenated (cs : List Char) : Bool := (readHyphenated cs).isSome

example : (parse "6F1C3C1E-9D4B-4A57-9B1E-2F1A3C4D5E6F").toOption.map toText =
    some "6f1c3c1e-9d4b-4a57-9b1e-2f1a3c4d5e6f" := by decide

end Uuid

end ImageStudio
