import ImageStudio.Net.Punycode
import ImageStudio.Text.IdnaMapping
import ImageStudio.Text.Normal
import ImageStudio.Text.BidiClass
import ImageStudio.Text.JoiningType
import ImageStudio.Text.Mark

/-!
# Net · Idna: a domain name in ASCII

The host of a web URL may be written in any script: `Buße.de` is the host
`xn--bue-6ka.de`. The name is brought to ASCII in the steps of Unicode Technical Standard
46, with the options web clients use (hyphens are not checked, joiners and bidirectional
text are, deviation characters are kept):

1. each character is mapped (`Text.IdnaMapping`): uppercase becomes lowercase,
   compatibility forms their plain form, ignored characters go, and a disallowed character
   makes the name invalid;
2. the result is composed (NFC) and split into labels at `.`;
3. a label that starts with `xn--` is decoded from Punycode; it must decode, must hold a
   character beyond ASCII, must be composed already, must hold only valid characters and
   must not start with `xn--` again;
4. every label must not start with a mark, and may hold a zero-width joiner only after a
   virama, a zero-width non-joiner only after a virama or between joining characters;
5. when any label holds right-to-left text, every label must follow the bidirectional
   rule (RFC 5893);
6. a label beyond ASCII is written `xn--` and its Punycode; the labels are joined by `.`.

Last, the ASCII name may hold none of the characters a URL host forbids.
-/

namespace ImageStudio.Idna

open Text

/-- The characters no domain of a URL may hold: the C0 controls, space, delete, and
`# % / : < > ? @ [ \ ] ^ |`. -/
def isForbidden (c : Char) : Bool :=
  c.toNat < 0x20 || c.toNat == 0x7F || " #%/:<>?@[\\]^|".contains c

/-- Maps each character, or fails at a disallowed one. -/
def mapChars : List Char → Option (List Char)
  | [] => some []
  | c :: rest => do
    let tail ← mapChars rest
    match idnaStatus c with
    | .valid => pure (c :: tail)
    | .mapped r => pure (r ++ tail)
    | .ignored => pure tail
    | .disallowed => none

/-- The zero-width non-joiner and joiner. -/
def zwnj : Char := Char.ofNat 0x200C
def zwj : Char := Char.ofNat 0x200D

/-- Whether a character is a virama (combining class 9). -/
def isVirama (c : Char) : Bool := Normal.combiningClass c.toNat == 9

/-- Whether, skipping transparent characters, the first character of `cs` joins with one of
the given types. -/
def joinsAcross (types : List JoiningType) : List Char → Bool
  | [] => false
  | c :: rest =>
    let t := joiningType c
    if t == .transparent then joinsAcross types rest else types.contains t

/-- Whether every joiner of a label stands where it may (RFC 5892, appendix A). -/
def joinersOk (label : List Char) : Bool :=
  (label.zipIdx).all fun (c, i) =>
    let before := (label.take i).reverse
    let afterVirama := match before with
      | b :: _ => isVirama b
      | [] => false
    if c == zwj then afterVirama
    else if c == zwnj then
      afterVirama ||
        (joinsAcross [.left, .dual] before && joinsAcross [.right, .dual] (label.drop (i + 1)))
    else true

/-- Whether a label follows the bidirectional rule (RFC 5893, section 2). -/
def bidiOk (label : List Char) : Bool :=
  let classes := label.map bidiClass
  let lastNonMark := (classes.reverse.dropWhile (· == .nsm)).head?
  match classes with
  | [] => true
  | .l :: _ =>
    classes.all (fun k => [.l, .en, .es, .cs, .et, .on, .bn, .nsm].contains k) &&
      (match lastNonMark with
       | some k => k == .l || k == .en
       | none => true)
  | first :: _ =>
    if first == .r || first == .al then
      classes.all (fun k => [.r, .al, .an, .en, .es, .cs, .et, .on, .bn, .nsm].contains k) &&
        (match lastNonMark with
         | some k => [.r, .al, .en, .an].contains k
         | none => false) &&
        !(classes.contains .en && classes.contains .an)
    else false

/-- Whether a name holds right-to-left text. -/
def isBidiName (cs : List Char) : Bool :=
  cs.any fun c => let k := bidiClass c; k == .r || k == .al || k == .an

/-- The ACE start of a label. -/
def acePart : List Char := ['x', 'n', '-', '-']

/-- The checks every label passes: no mark first, joiners in place. -/
def labelOk (label : List Char) : Bool :=
  (match label with
   | c :: _ => !isMark c
   | [] => true) && joinersOk label

/-- A label in its Unicode form and its ASCII form, or `none` when it is invalid. -/
def convertLabel (label : List Char) : Option (List Char × List Char) :=
  if label.take 4 == acePart then do
    let payload := label.drop 4
    if payload.any (fun c => c.toNat ≥ 0x80) then none
    let decoded ← Punycode.decode payload
    if decoded.all (fun c => c.toNat < 0x80) then none
    if Normal.nfc decoded != decoded then none
    if !decoded.all (fun c => idnaStatus c == .valid) then none
    if decoded.any (fun c => c == '.' || isForbidden c) then none
    if decoded.take 4 == acePart then none
    if !labelOk decoded then none
    pure (decoded, label)
  else if !labelOk label then none
  else if label.all (fun c => c.toNat < 0x80) then some (label, label)
  else some (label, acePart ++ Punycode.encode label)

/-- A domain name in ASCII, or `none` when it is invalid. -/
def toAscii (name : List Char) : Option (List Char) := do
  let mapped ← mapChars name
  let composed := Normal.nfc mapped
  if composed.any isForbidden then none
  let labels ← (composed.splitOn '.').mapM convertLabel
  let unicode := labels.map (·.1)
  if isBidiName unicode.flatten && !unicode.all bidiOk then none
  pure (List.intercalate ['.'] (labels.map (·.2)))

end ImageStudio.Idna
