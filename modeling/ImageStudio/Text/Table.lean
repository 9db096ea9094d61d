/-!
# Text · Table: tables of code points kept as text

Character data (mappings, classes, ranges) are kept as compact texts of hexadecimal
numbers and read into sorted arrays once. A code point is found by binary search: the last
entry whose first code point is at most the one looked for.
-/

namespace ImageStudio.Text.Table

/-- The value of a hexadecimal digit, in either case. -/
def hexDigitValue (c : Char) : Option Nat :=
  if '0' ≤ c ∧ c ≤ '9' then some (c.toNat - '0'.toNat)
  else if 'A' ≤ c ∧ c ≤ 'F' then some (c.toNat - 'A'.toNat + 10)
  else if 'a' ≤ c ∧ c ≤ 'f' then some (c.toNat - 'a'.toNat + 10)
  else none

/-- Reads a hexadecimal number; the empty text is no number. -/
def readHex (s : String) : Option Nat :=
  if s.isEmpty then none
  else s.toList.foldlM (fun n c => (hexDigitValue c).map (n * 16 + ·)) 0

/-- Reads bytes written as pairs of hexadecimal digits; a pair that is not one reads as
zero, and an odd last digit is dropped. -/
def readHexBytes (s : String) : Array Nat :=
  let rec go : List Char → Array Nat → Array Nat
    | a :: b :: rest, acc =>
      go rest (acc.push (((hexDigitValue a).getD 0) * 16 + ((hexDigitValue b).getD 0)))
    | _, acc => acc
  go s.toList #[]

/-- Reads a list of hexadecimal numbers separated by `sep`. -/
def readHexList (sep : String) (s : String) : Option (List Nat) :=
  (s.splitOn sep).mapM readHex

/-- The index of the last element whose key is at most `n`, searching `[lo, hi)` where the
key at `lo` is at most `n`; `fuel` halvings at most. -/
def lastAtMost {α : Type} [Inhabited α] (arr : Array α) (key : α → Nat) (n : Nat) :
    Nat → Nat → Nat → Nat
  | 0, lo, _ => lo
  | fuel + 1, lo, hi =>
    if hi ≤ lo + 1 then lo
    else
      let mid := (lo + hi) / 2
      if key arr[mid]! ≤ n then lastAtMost arr key n fuel mid hi
      else lastAtMost arr key n fuel lo mid

/-- Halvings enough for any array of fewer than 2⁶⁴ elements. -/
def searchFuel : Nat := 64

/-- The last element whose key is at most `n`, in an array sorted by key. -/
def entryAt {α : Type} [Inhabited α] (arr : Array α) (key : α → Nat) (n : Nat) : Option α :=
  if arr.isEmpty then none
  else if n < key arr[0]! then none
  else some arr[lastAtMost arr key n searchFuel 0 arr.size]!

/-- Whether `n` lies in one of sorted, disjoint closed ranges. -/
def inRanges (arr : Array (Nat × Nat)) (n : Nat) : Bool :=
  match entryAt arr (·.1) n with
  | some (_, hi) => n ≤ hi
  | none => false

/-- Reads closed ranges written `first.last`, separated by `;`. -/
def readRanges (s : String) : Array (Nat × Nat) :=
  ((s.splitOn ";").filterMap fun e =>
    match readHexList "." e with
    | some [a, b] => some (a, b)
    | _ => none).toArray

end ImageStudio.Text.Table
