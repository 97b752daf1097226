import SolAudit.Text.Decimal

/-!
# Paths

A path is shown as it was written. It is compared by its components: repeated and trailing slashes and
inner dots do not count, a leading dot does.
-/

namespace SolAudit

structure Path where
  text : String
  deriving DecidableEq, Repr, Inhabited

namespace Path

inductive Component where
  | root
  | here
  | up
  | name (text : String)
  deriving DecidableEq, Repr

namespace Component

def rank : Component → Nat
  | .root => 0
  | .here => 1
  | .up => 2
  | .name _ => 3

def text : Component → String
  | .root => "/"
  | .here => "."
  | .up => ".."
  | .name s => s

/-- Names come last and stand in code point order among themselves. -/
def less (a b : Component) : Bool :=
  a.rank < b.rank || (a.rank == b.rank && a.text < b.text)

end Component

/-- The texts between slashes. -/
def parts (path : Path) : List String :=
  (Text.splitChars '/' path.text.toList).map String.ofList

def isAbsolute (path : Path) : Bool := path.text.startsWith "/"

def components (path : Path) : List Component :=
  let parts := path.parts
  let lead : List Component :=
    if path.isAbsolute then [.root]
    else if parts.head? == some "." then [.here] else []
  lead ++ parts.filterMap fun part ↦
    if part == "" || part == "." then none
    else if part == ".." then some .up
    else some (.name part)

/-- Equal as paths, however they are spelled. -/
def same (a b : Path) : Bool := a.components == b.components

def lessComponents : List Component → List Component → Bool
  | _, [] => false
  | [], _ :: _ => true
  | a :: as, b :: bs => a.less b || (a == b && lessComponents as bs)

def less (a b : Path) : Bool := lessComponents a.components b.components

/-- Not after, in the order of components. -/
def notAfter (a b : Path) : Bool := !b.less a

/-- The path of `inner` as seen from `outer`; an absolute path stays as it is. -/
def join (outer inner : Path) : Path :=
  if inner.isAbsolute || outer.text == "" then inner
  else if outer.text.endsWith "/" then ⟨outer.text ++ inner.text⟩
  else ⟨outer.text ++ "/" ++ inner.text⟩

/-- The last component, if it is a name. -/
def fileName? (path : Path) : Option String :=
  match path.components.getLast? with
  | some (.name s) => some s
  | _ => none

/-- What follows the last dot of the file name, unless that dot leads it. -/
def extension? (path : Path) : Option String := do
  let name ← path.fileName?
  let reversed := name.toList.reverse
  let ending := reversed.takeWhile (· != '.')
  match reversed.drop ending.length with
  | [] => none
  | [_] => none
  | _ => some (String.ofList ending.reverse)

/-- The last components are those of `tail`. -/
def endsWith (path tail : Path) : Bool := tail.components.isSuffixOf path.components

/-- The components below a directory, or the path itself if it is not below it. -/
def below (path dir : Path) : String :=
  let outer := dir.components
  let inner := path.components
  if outer.isPrefixOf inner then
    "/".intercalate ((inner.drop outer.length).map Component.text)
  else path.text

end Path

end SolAudit
