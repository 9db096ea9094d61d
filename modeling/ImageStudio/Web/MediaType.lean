/-!
# Web · MediaType: reading a content type

A content type is `type/subtype`, then parameters `;name=value`. The reading is strict:

* type and subtype are tokens, the type not empty; a `+` in the subtype (not as its first
  character) marks a suffix, and the last such `+` counts: `a+b+json` has the subtype
  `a+b` and the suffix `json`;
* a parameter list allows blanks only before a name and after a quoted value; a name ends
  at `=`; a value is a token, empty only at the end of the text, or a quoted text of
  visible characters (a quote right after the opening one is one of them);
* a name without `=` at the end of the text and an unclosed quote are refused.

The text `*/*` is read as it stands. Type and subtype are compared in any case.
-/

namespace ImageStudio

/-- A content type as far as a body reader looks at it. -/
structure MediaType where
  type : String
  /-- The subtype up to its suffix. -/
  subtype : String
  suffix : Option String
  deriving Repr, DecidableEq

namespace MediaType

/-- The characters of a token. -/
def isTokenChar (c : Char) : Bool :=
  c.isAlphanum || "!#$%&'*+-.^_`|~".contains c

/-- Where the reading of a parameter list stands. -/
inductive ParamState where
  /-- Before a name: blanks may come. -/
  | nameStart
  | name
  /-- Right after `=`. -/
  | valueStart
  | value
  /-- Inside a quoted value; `first` when no character of it is read yet. -/
  | quoted (first : Bool)
  /-- After a quoted value's closing quote. -/
  | afterQuote
  deriving DecidableEq, Repr

/-- Whether a character may stand inside a quoted value. -/
def isQuotedChar (c : Char) : Bool := 31 < c.toNat && c.toNat ≠ 127

/-- One character of a parameter list, or `none` when it is refused there. -/
def paramStep (s : ParamState) (c : Char) : Option ParamState :=
  match s with
  | .nameStart => if c = ' ' then some .nameStart else if isTokenChar c then some .name else none
  | .name => if c = '=' then some .valueStart else if isTokenChar c then some .name else none
  | .valueStart =>
    if c = '"' then some (.quoted true) else if isTokenChar c then some .value else none
  | .value => if c = ';' then some .nameStart else if isTokenChar c then some .value else none
  | .quoted first =>
    if c = '"' ∧ !first then some .afterQuote
    else if isQuotedChar c then some (.quoted false) else none
  | .afterQuote => if c = ';' then some .nameStart else if c = ' ' then some .afterQuote else none

/-- Whether a parameter list may end in a state. -/
def paramEnd : ParamState → Bool
  | .nameStart | .valueStart | .value | .afterQuote => true
  | .name | .quoted _ => false

/-- Whether a parameter list (after its first `;`) is well formed. -/
def paramsValid (cs : List Char) : Bool :=
  match cs.foldlM paramStep .nameStart with
  | some s => paramEnd s
  | none => false

/-- The lower-case text of characters. -/
def lower (cs : List Char) : String := String.ofList (cs.map Char.toLower)

/-- Reads the subtype from its first character on: answers the subtype, the suffix, and
the parameter text after the first `;`, or `none` when a character is refused. `plus` is
the last `+` so far (its offset in `done`). -/
def readSubtype : List Char → List Char → Option Nat →
    Option (List Char × Option Nat × Option (List Char))
  | [], done, plus => some (done, plus, none)
  | c :: rest, done, plus =>
    if c = ';' ∧ !done.isEmpty then some (done, plus, some rest)
    else if c = '+' ∧ !done.isEmpty then readSubtype rest (done ++ [c]) (some done.length)
    else if isTokenChar c then readSubtype rest (done ++ [c]) plus
    else none

/-- Reads a content type. -/
def parse (text : String) : Option MediaType :=
  if text = "*/*" then some ⟨"*", "*", none⟩ else
  let cs := text.toList
  let ty := cs.takeWhile isTokenChar
  match cs.drop ty.length with
  | '/' :: rest =>
    if ty.isEmpty then none else
    match readSubtype rest [] none with
    | none => none
    | some (sub, plus, params) =>
      if params.all paramsValid then
        match plus with
        | some i => some ⟨lower ty, lower (sub.take i), some (lower (sub.drop (i + 1)))⟩
        | none => some ⟨lower ty, lower sub, none⟩
      else none
  | _ => none

/-- Whether a body of this type is JSON: type `application` with subtype or suffix
`json`. -/
def isJson (m : MediaType) : Bool :=
  m.type == "application" && (m.subtype == "json" || m.suffix == some "json")

end MediaType

end ImageStudio
