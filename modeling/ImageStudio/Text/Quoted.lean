import ImageStudio.Text.Unprintable

/-!
# Text · Quoted: texts quoted inside messages

Messages that repeat a user's text show it quoted and escaped, so that blanks, control
characters and quotes stay visible: `'1024x1024\n' is not one of ["auto", "1024x1024"]`.
The escape is a backslash form for the quote, the backslash, tab, carriage return, line feed
and NUL, and a braced hexadecimal code (`\u{7}`) for the other characters that do not
print (`Text.Unprintable`).
-/

namespace ImageStudio.Text

/-- Lowercase hexadecimal digits of a number, without leading zeros. -/
def hexDigits (n : Nat) : String := String.ofList (Nat.toDigits 16 n)

/-- The escaped form of one character inside a quoted text. -/
def escapeForMessage (c : Char) : String :=
  if c = '"' then "\\\""
  else if c = '\\' then "\\\\"
  else if c = '\n' then "\\n"
  else if c = '\r' then "\\r"
  else if c = '\t' then "\\t"
  else if c.toNat = 0 then "\\0"
  else if isUnprintable c then "\\u" ++ "\x7b" ++ hexDigits c.toNat ++ "\x7d"
  else String.singleton c

/-- A text in double quotes, escaped for a message. -/
def quoteForMessage (s : String) : String :=
  "\"" ++ String.join (s.toList.map escapeForMessage) ++ "\""

/-- A list of texts as a message shows it: `["a", "b"]`. -/
def quoteListForMessage (xs : List String) : String :=
  "[" ++ ", ".intercalate (xs.map quoteForMessage) ++ "]"

example : quoteListForMessage ["\n", "\t"] = "[\"\\n\", \"\\t\"]" := by decide

end ImageStudio.Text
