/-!
# Text · Unsigned: reading an unsigned decimal number of a fixed width

A setting that holds a count is read as an unsigned number of some width: 32 bits for a
connection count, 64 bits for the other counts and for seconds. The text is read from the
left. An optional `+` may come first. Then every character must be a decimal digit and the
value so far must fit the width. The first character that breaks a rule decides the
failure:

* an empty text is `empty`;
* a character that is no digit, or a lone `+`, is `invalidDigit`;
* a value past the largest of the width is `tooLarge`.

A digit is looked at before the value is checked. So in `99999999999999999999x` the digits
already overflow 64 bits before the `x`, and the failure is `tooLarge`.
-/

namespace ImageStudio.Text

/-- Why a text is not an unsigned number. -/
inductive UnsignedError where
  | empty
  | invalidDigit
  | tooLarge
  deriving Repr, DecidableEq, Inhabited

namespace UnsignedError

/-- The message of a failure. -/
def message : UnsignedError → String
  | .empty => "cannot parse integer from empty string"
  | .invalidDigit => "invalid digit found in string"
  | .tooLarge => "number too large to fit in target type"

end UnsignedError

/-- Reads decimal digits onto the value `acc`, failing at the first character that is no
digit or at the first digit that takes the value past `limit`. -/
def readDigits (limit : Nat) : Nat → List Char → Except UnsignedError Nat
  | acc, [] => .ok acc
  | acc, c :: rest =>
    if !c.isDigit then .error .invalidDigit
    else
      let next := acc * 10 + (c.toNat - '0'.toNat)
      if next > limit then .error .tooLarge else readDigits limit next rest

/-- Reads an unsigned decimal number no larger than `limit`. -/
def readUnsigned (limit : Nat) (s : String) : Except UnsignedError Nat :=
  match s.toList with
  | [] => .error .empty
  | ['+'] => .error .invalidDigit
  | '+' :: rest => readDigits limit 0 rest
  | cs => readDigits limit 0 cs

/-- The largest unsigned number of 32 bits. -/
def maxU32 : Nat := Nat.pow 2 32 - 1

/-- The largest unsigned number of 64 bits. -/
def maxU64 : Nat := Nat.pow 2 64 - 1

/-! ### Equations -/

theorem readUnsigned_empty (limit : Nat) : readUnsigned limit "" = .error .empty := rfl

/-- A value that was read is within its limit. -/
theorem readDigits_le (limit : Nat) :
    ∀ (acc : Nat) (cs : List Char) (n : Nat), acc ≤ limit →
      readDigits limit acc cs = .ok n → n ≤ limit
  | acc, [], n, h, e => by
    simp only [readDigits, Except.ok.injEq] at e
    exact e ▸ h
  | acc, c :: rest, n, _, e => by
    unfold readDigits at e
    split at e
    · exact absurd e (by simp)
    · simp only [] at e
      split at e
      · exact absurd e (by simp)
      · exact readDigits_le limit _ rest n (by omega) e

end ImageStudio.Text
