import ImageStudio.Session.Setup

/-!
# Session · Names: readable names for identifiers

Identifiers are random, so a session names them. A new record gets a label of its kind
(`T` topics, `B` batches, `G` generations, `K` tasks, `F` files) and the next number of
that kind; any other identifier that shows up gets an `X` label. A name the session is given
(a user, or a label of a record that does not exist) is bound to an identifier of its own
and always written as itself.

Names also keeps what a transcript needs besides: the users named so far, in order, and
the seeds the session chose itself, which a transcript shows (other seeds are random).
-/

namespace ImageStudio

/-- The names of a session. -/
structure Names where
  /-- Each named identifier with its name, newest first. -/
  bound : List (Uuid × String) := []
  /-- How many labels of each kind were given. -/
  counts : List (Char × Nat) := []
  /-- How many identifiers were made for given names. -/
  made : Nat := 0
  /-- The users named so far, in order. -/
  users : List String := []
  /-- The seeds chosen by the session. -/
  chosenSeeds : List Int := []
  deriving Repr, Inhabited

namespace Names

/-- The name of an identifier. -/
def nameOf? (n : Names) (u : Uuid) : Option String :=
  (n.bound.find? (·.1 == u)).map (·.2)

/-- The identifier of a name. -/
def idOf? (n : Names) (name : String) : Option Uuid :=
  (n.bound.find? (·.2 == name)).map (·.1)

/-- The identifier bound to a name, binding a new one when the name is new. -/
def resolve (name : String) : StateM Names Uuid :=
  modifyGet fun n =>
    match n.idOf? name with
    | some u => (u, n)
    | none =>
      let u := Uuid.ofWords 0 (n.made + 1)
      (u, { n with made := n.made + 1, bound := (u, name) :: n.bound })

/-- The identifier of a user, who is then one of the users named. -/
def user (name : String) : StateM Names Uuid := do
  let u ← resolve name
  modify fun n => if n.users.contains name then n else { n with users := n.users ++ [name] }
  pure u

/-- Gives an identifier the next label of a kind, unless it has a name already. -/
def label (kind : Char) (u : Uuid) : StateM Names String :=
  modifyGet fun n =>
    match n.nameOf? u with
    | some s => (s, n)
    | none =>
      let k := ((n.counts.find? (·.1 == kind)).map (·.2)).getD 0 + 1
      let s := String.singleton kind ++ toString k
      (s, { n with bound := (u, s) :: n.bound,
                   counts := (kind, k) :: n.counts.filter (·.1 != kind) })

end Names

end ImageStudio
