import GraphLint.Text.Split
/-! # Paths

A path is a text whose parts are separated by slashes.  Two paths name the same place in the same way
when their *components* agree: empty parts and single dots stand for nothing, except a dot at the
start of a relative path.  The order of paths is the order of their components. -/
namespace GraphLint.Files

/-- The parts of a path between its slashes. -/
def parts (path : Text) : List Text := Text.splitAt '/' path

/-- The path with these parts. -/
def joinParts (ps : List Text) : Text := Text.joinWith '/' ps

/-- Whether a path starts at the root. -/
def isAbsolute (path : Text) : Bool := path.head? == some '/'

/-- What a path leads through. -/
inductive Component where
  | root
  | here
  | up
  | name (n : Text)
  deriving DecidableEq, Repr

namespace Component

/-- The place of a kind of component in the order. -/
def rank : Component → Nat
  | root => 0
  | here => 1
  | up => 2
  | name _ => 3

/-- The order of names, by the numbers of their characters. -/
def nameCompare : Text → Text → Ordering
  | [], [] => .eq
  | [], _ :: _ => .lt
  | _ :: _, [] => .gt
  | c :: s, d :: t => (compare c.toNat d.toNat).then (nameCompare s t)

/-- The order of components. -/
def order : Component → Component → Ordering
  | name m, name n => nameCompare m n
  | x, y => compare x.rank y.rank

end Component

/-- The component that a part stands for, if any. -/
def component? (part : Text) : Option Component :=
  if part = [] ∨ part = ['.'] then none
  else if part = ['.', '.'] then some .up
  else some (.name part)

/-- The components of a path. -/
def components (path : Text) : List Component :=
  let first :=
    if isAbsolute path then [Component.root]
    else if (parts path).head? = some ['.'] then [.here]
    else []
  first ++ (parts path).filterMap component?

/-- The order of lists of components, the shorter one first. -/
def compareComponents : List Component → List Component → Ordering
  | [], [] => .eq
  | [], _ :: _ => .lt
  | _ :: _, [] => .gt
  | x :: xs, y :: ys => (x.order y).then (compareComponents xs ys)

/-- The order of paths. -/
def comparePaths (p q : Text) : Ordering := compareComponents (components p) (components q)

/-- Whether two paths have the same components. -/
def samePath (p q : Text) : Bool := components p == components q

/-- Whether a part stands for nothing. -/
def isIdle (part : Text) : Bool := part.isEmpty || part == ['.']

/-- Past the parts up to and with the first `n` that stand for something. -/
def dropNames : (n : Nat) → List Text → List Text
  | 0, ps => ps
  | _ + 1, [] => []
  | n + 1, p :: ps => if isIdle p then dropNames (n + 1) ps else dropNames n ps

/-- Parts without the idle ones at their end. -/
def trimEnd (ps : List Text) : List Text := (ps.reverse.dropWhile isIdle).reverse

/-- The rest of a path below `base`, as it is written, if its components start with those of
`base`.  Nothing idle is left at its ends; but an empty `base` leaves the start as it is, and also
the slash or the dot of a path that has nothing but idle parts. -/
def below? (base path : Text) : Option Text :=
  let cs := components base
  if cs.isPrefixOf (components path) then
    if cs.isEmpty then
      some (if (parts path).all isIdle then path.take 1 else joinParts (trimEnd (parts path)))
    else
      let named := cs.filter fun c => c != .root && c != .here
      some (joinParts (trimEnd ((dropNames named.length (parts path)).dropWhile isIdle)))
  else none

/-- The path of an entry of a directory. -/
def child (directory name : Text) : Text :=
  if directory.isEmpty || directory.getLast? == some '/' then directory ++ name
  else directory ++ '/' :: name

/-- The absolute path with these names. -/
def absolute (names : List Text) : Text :=
  if names.isEmpty then ['/'] else names.flatMap ('/' :: ·)

end GraphLint.Files
