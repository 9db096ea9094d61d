import ImageStudio.Session.Names

/-!
# Session · Transcript: answers written so that two runs compare equal

A session's answers hold random identifiers, times and seeds. The transcript writes each
answer with those replaced by what stays the same from run to run:

* every identifier, alone or inside a text, by its name (see `Names`); a file gets its
  label where it first shows, as a generation's file or as a file record;
* `createdAt` and `updatedAt` of a record by `touched`, whether they differ; a lone
  `createdAt` is left out;
* object keys `generations/images/<id>_<W>x<H>_<time>_…` by `generations/images/*_<W>x<H>_*_…`;
* a seed by `<random>`, unless the session chose it.

The generations of a batch are listed by label, and so are lists of file records: their
stored order follows random identifiers.
-/

namespace ImageStudio

namespace Transcript

/-- Scans a text, replacing each match of `piece?` at the front by its replacement; `fuel`
bounds the number of steps and is the text's length. -/
def scanWith (piece? : List Char → Option (String × List Char)) :
    Nat → List Char → List (Sum Char String)
  | 0, _ => []
  | _, [] => []
  | fuel + 1, c :: rest =>
    match piece? (c :: rest) with
    | some (r, after) => .inr r :: scanWith piece? fuel after
    | none => .inl c :: scanWith piece? fuel rest

/-- Whether a character is a lowercase hexadecimal digit. -/
def isHex (c : Char) : Bool := c.isDigit || ('a' ≤ c && c ≤ 'f')

/-- `n` characters satisfying `p` at the front, and the rest. -/
def takeExactly (p : Char → Bool) (n : Nat) (cs : List Char) : Option (List Char × List Char) :=
  if (cs.take n).length == n && (cs.take n).all p then some (cs.take n, cs.drop n) else none

/-- One or more digits at the front, and the rest. -/
def digits (cs : List Char) : Option (List Char × List Char) :=
  let ds := cs.takeWhile Char.isDigit
  if ds.isEmpty then none else some (ds, cs.drop ds.length)

/-- An expected text at the front. -/
def literal (lit : String) (cs : List Char) : Option (List Char) :=
  if cs.take lit.length == lit.toList then some (cs.drop lit.length) else none

/-- An object key at the front, masked. -/
def maskedKey? (cs : List Char) : Option (String × List Char) := do
  let cs ← literal "generations/images/" cs
  let (_, cs) ← takeExactly isHex 32 cs
  let cs ← literal "_" cs
  let (w, cs) ← digits cs
  let cs ← literal "x" cs
  let (h, cs) ← digits cs
  let cs ← literal "_" cs
  let (_, cs) ← takeExactly Char.isDigit 14 cs
  let cs ← literal "_" cs
  pure ("generations/images/*_" ++ String.ofList w ++ "x" ++ String.ofList h ++ "_*_", cs)

/-- Masks the object keys of a text. -/
def maskKeys (s : String) : String :=
  String.join ((scanWith maskedKey? s.length s.toList).map fun
    | .inl c => String.singleton c
    | .inr r => r)

/-- A hyphenated lowercase identifier at the front, as its text. -/
def uuidText? (cs : List Char) : Option (String × List Char) := do
  let (a, cs) ← takeExactly isHex 8 cs
  let cs ← literal "-" cs
  let (b, cs) ← takeExactly isHex 4 cs
  let cs ← literal "-" cs
  let (c, cs) ← takeExactly isHex 4 cs
  let cs ← literal "-" cs
  let (d, cs) ← takeExactly isHex 4 cs
  let cs ← literal "-" cs
  let (e, cs) ← takeExactly isHex 12 cs
  pure (String.ofList (a ++ ['-'] ++ b ++ ['-'] ++ c ++ ['-'] ++ d ++ ['-'] ++ e), cs)

/-- The name of an identifier text: its bound name, or a new label of `kind`. -/
def nameFor (kind : Char) (text : String) : StateM Names String :=
  match Uuid.parse text with
  | .ok u => Names.label kind u
  | .error _ => pure text

/-- A text with its identifiers named. A text that is one identifier in a file's place is
named as a file; any other new identifier gets an `X` label. -/
def nameText (fileSlot : Bool) (s : String) : StateM Names String := do
  let s := maskKeys s
  match uuidText? s.toList with
  | some (t, []) => nameFor (if fileSlot then 'F' else 'X') t
  | _ =>
    let parts := scanWith uuidText? s.length s.toList
    let named ← parts.mapM fun
      | .inl c => pure (String.singleton c)
      | .inr t => nameFor 'X' t
    pure (String.join named)

/-- The number of a label (`G12` is 12); a text that is no label counts as very large. -/
def labelNumber (j : Json) : Nat :=
  match (j.get? "id").bind Json.asStr? with
  | some s =>
    let ds := s.toList.drop 1
    if !ds.isEmpty && ds.all Char.isDigit then (String.ofList ds).toNat! else 1000000000
  | none => 1000000000

/-- Items ordered by the number of their label. -/
def byLabel (items : List Json) : List Json :=
  items.mergeSort fun a b => labelNumber a ≤ labelNumber b

/-- Items ordered by their compact text. -/
def byText (items : List Json) : List Json :=
  items.mergeSort fun a b => decide (a.render ≤ b.render)

/-- `createdAt` and `updatedAt` replaced by `touched`; a lone `createdAt` dropped. -/
def replaceTimes (fields : List (String × Json)) : List (String × Json) :=
  match Json.lookupField "createdAt" fields, Json.lookupField "updatedAt" fields with
  | some c, some u =>
    let rest := fields.filter fun (k, _) => k != "createdAt" && k != "updatedAt"
    (Json.mkObj (rest ++ [("touched", .bool !(c == u))])).members
  | some _, none => fields.filter (·.1 != "createdAt")
  | _, _ => fields

/-- Whether a list is a list of file records. -/
def isFileList (items : List Json) : Bool :=
  !items.isEmpty && items.all fun j => (j.get? "fileHash").isSome

mutual

/-- Writes a value for the transcript; `key` is the member it sits under and `inFile`
whether its object is a file record. -/
def write (key : String) (inFile : Bool) : Json → StateM Names Json
  | .str s => .str <$> nameText (key == "fileId" || key == "file" || (inFile && key == "id")) s
  | .num (.int i) => do
    if key == "seed" && !((← get).chosenSeeds.contains i) then pure (.str "<random>")
    else pure (.num (.int i))
  | .arr items => do
    let items ← writeItems key items
    pure (.arr (if key == "generations" || isFileList items then byLabel items
      else if key == "store" then byText items else items))
  | .obj fields => do
    let isFile := (Json.lookupField "fileHash" fields).isSome
    let fields ← writeFields isFile fields
    pure (.obj (replaceTimes fields))
  | j => pure j

/-- Writes the items of a list. -/
def writeItems (key : String) : List Json → StateM Names (List Json)
  | [] => pure []
  | j :: rest => do
    let j ← write key false j
    let rest ← writeItems key rest
    pure (j :: rest)

/-- Writes the members of an object, in key order. -/
def writeFields (isFile : Bool) : List (String × Json) → StateM Names (List (String × Json))
  | [] => pure []
  | (k, v) :: rest => do
    let v ← write k isFile v
    let rest ← writeFields isFile rest
    pure ((k, v) :: rest)

end

/-- The answer of a step of this kind as the transcript writes it. The stored objects
(`store`) and the provider requests (`calls`) are listed by their written text, since
their order follows random identifiers or the order jobs ran in. -/
def answer (kind : String) (j : Json) : StateM Names Json := do
  match ← write "" false j with
  | .arr items => pure (.arr (if kind == "store" || kind == "calls" then byText items else items))
  | other => pure other

end Transcript

end ImageStudio
