import GraphLint.Uri.Host
import GraphLint.Uri.Path
/-! # URIs

A URI in its normal form: small letters in the scheme and in a domain name, no port that the scheme
implies, no dot segments, and everything else percent-encoded as its part asks for.  Reading accepts
whatever has a scheme and brings it into that form, so that two spellings of a URI name the same
document. -/
namespace GraphLint

/-- The part of a URI after `//`. -/
structure Uri.Authority where
  user : Text := []
  password : Text := []
  host : Text
  port : Option Nat := none
  deriving DecidableEq, Repr

/-- A URI in its normal form. -/
structure Uri where
  scheme : Text
  authority : Option Uri.Authority
  path : Uri.Path
  query : Option Text
  fragment : Option Text
  deriving DecidableEq, Repr

namespace Uri

/-! ## Printing -/

/-- The user name and the password of an authority. -/
def Authority.printUser (a : Authority) : Text :=
  let password := if a.password.isEmpty then [] else ':' :: a.password
  if a.user.isEmpty && a.password.isEmpty then [] else a.user ++ password ++ ['@']

/-- An authority as it is written. -/
def Authority.print (a : Authority) : Text :=
  let port := match a.port with
    | some n => ':' :: decimal n
    | none => []
  "//".toList ++ a.printUser ++ a.host ++ port

/-- A URI as it is written.  Without an authority, a path that starts with two slashes is set off by a
dot segment. -/
def print (u : Uri) : Text :=
  let lead := match u.authority, u.path with
    | some a, _ => a.print
    | none, .segments ([] :: _ :: _) => "/.".toList
    | none, _ => []
  let query := (u.query.map ('?' :: ·)).getD []
  let fragment := (u.fragment.map ('#' :: ·)).getD []
  u.scheme ++ ':' :: lead ++ u.path.print ++ query ++ fragment

/-! ## Schemes -/

/-- The port that a special scheme implies; `file` implies none. -/
def defaultPort? (scheme : Text) : Option Nat :=
  if scheme = "http".toList ∨ scheme = "ws".toList then some 80
  else if scheme = "https".toList ∨ scheme = "wss".toList then some 443
  else if scheme = "ftp".toList then some 21
  else none

/-- Whether a URI with a scheme has always an authority. -/
def isSpecial (scheme : Text) : Bool := (defaultPort? scheme).isSome || scheme == "file".toList

/-- Whether a character may stand in a scheme. -/
def isSchemeChar (c : Char) : Bool := c.isAlphanum || c == '+' || c == '-' || c == '.'

/-- The scheme of a text, and what follows the colon after it. -/
def readScheme? (t : Text) : Option (Text × Text) :=
  let scheme := t.takeWhile isSchemeChar
  match t.dropWhile isSchemeChar with
  | ':' :: rest =>
    if scheme.head?.any Char.isAlpha then some (scheme.map Char.toLower, rest) else none
  | _ => none

/-! ## Reading -/

/-- Whether a character is dropped wherever it stands. -/
def isIgnored (c : Char) : Bool := c == '\t' || c == '\n' || c == '\r'

/-- Whether a character is dropped at the ends of a URI. -/
def isMargin (c : Char) : Bool := c.toNat ≤ 0x20

/-- A text without what is dropped from it. -/
def strip (t : Text) : Text :=
  (((t.dropWhile isMargin).reverse.dropWhile isMargin).reverse).filter (!isIgnored ·)

/-- The query and the fragment at the end of a URI. -/
def readEnd (special : Bool) (t : Text) : Option Text × Option Text :=
  let fragmentOf (t : Text) : Option Text := t.tail?.map (encode fragmentSet)
  match t with
  | '?' :: t =>
    let set := if special then specialQuerySet else querySet
    (some (encode set (t.takeWhile (· != '#'))), fragmentOf (t.dropWhile (· != '#')))
  | t => (none, fragmentOf t)

/-- Whether a character ends an authority. -/
def endsAuthority (special : Bool) (c : Char) : Bool := isSlash special c || endsPath c

/-- What precedes and what follows the last at sign. -/
def splitUser? (t : Text) : Option (Text × Text) :=
  if t.contains '@' then
    let host := (t.reverse.takeWhile (· != '@')).reverse
    some (t.take (t.length - host.length - 1), host)
  else none

/-- The user name and the password in a text. -/
def readUser (t : Text) : Text × Text :=
  (encode userSet (t.takeWhile (· != ':')), encode userSet ((t.dropWhile (· != ':')).drop 1))

/-- A host, and what follows it; a colon inside brackets belongs to the host. -/
def splitHost : (inside : Bool) → Text → Text × Text
  | _, [] => ([], [])
  | inside, c :: t =>
    if c = ':' && !inside then ([], c :: t)
    else
      let inside := if c = '[' then true else if c = ']' then false else inside
      let (host, rest) := splitHost inside t
      (c :: host, rest)

/-- The port after a host, unless the scheme implies it. -/
def readPort (scheme : Text) : Text → Except UriFault (Option Nat)
  | ':' :: digits =>
    match Text.numberOf? 10 digits with
    | none => .error .invalidPort
    | some n =>
      if 65535 < n then .error .invalidPort
      else .ok (if digits.isEmpty || defaultPort? scheme = some n then none else some n)
  | _ => .ok none

/-- The authority in a text, `more` says whether anything follows it. -/
def readAuthority (scheme : Text) (more : Bool) (t : Text) : Except UriFault Authority := do
  let special := isSpecial scheme
  let (before, rest) := (splitUser? t).getD ([], t)
  if before.isEmpty && rest.isEmpty && t.contains '@' && more then .error .emptyHost
  else
    let (user, password) := readUser before
    let (host, port) := splitHost false rest
    if host.isEmpty && (special || !port.isEmpty) then .error .emptyHost
    else
      let host ← if special then readDomain host else readAnyHost host
      let port ← readPort scheme port
      if host.isEmpty && !(user.isEmpty && password.isEmpty) then .error .emptyHost
      else return ⟨user, password, host, port⟩

/-- The path after an authority, and what follows it.  Only a special scheme implies a path. -/
def readPathAfter (special isFile : Bool) (t : Text) : List Text × Text :=
  match t with
  | c :: rest =>
    if isSlash special c then readSegments special isFile [] [] rest
    else if !special && endsPath c then ([], t)
    else readSegments special isFile [] [] t
  | [] => (if special then [[]] else [], [])

/-- The rest of a URI after `//`. -/
def readHierarchy (scheme t : Text) : Except UriFault Uri := do
  let special := isSpecial scheme
  let lead := t.takeWhile (!endsAuthority special ·)
  let rest := t.drop lead.length
  let authority ← readAuthority scheme (!rest.isEmpty) lead
  let (path, rest) := readPathAfter special false rest
  let (query, fragment) := readEnd special rest
  return ⟨scheme, some authority, .segments path, query, fragment⟩

/-- The host of a `file` URI; the local one has no name. -/
def readFileHost (t : Text) : Except UriFault Text :=
  if t.isEmpty then .ok []
  else
    match readDomain t with
    | .error fault => .error fault
    | .ok host => .ok (if host = "localhost".toList then [] else host)

/-- A `file` URI from its host and the text of its path.  A path on a drive has no host. -/
def fileUri (host t : Text) : Uri :=
  let (path, rest) := readPathAfter true true t
  let (query, fragment) := readEnd true rest
  let host := if path.head?.any isDriveLetter then [] else host
  ⟨"file".toList, some ⟨[], [], host, none⟩, .segments (filePath path), query, fragment⟩

/-- The rest of a `file` URI. -/
def readFile (t : Text) : Except UriFault Uri :=
  match t with
  | a :: b :: rest =>
    if isSlash true a && isSlash true b then
      let host := rest.takeWhile (!endsAuthority true ·)
      if isDriveLetter host then .ok (fileUri [] rest)
      else
        match readFileHost host with
        | .error fault => .error fault
        | .ok name => .ok (fileUri name (rest.drop host.length))
    else .ok (fileUri [] t)
  | t => .ok (fileUri [] t)

/-- The rest of a URI without an authority. -/
def readPlain (scheme t : Text) : Uri :=
  match t with
  | '/' :: rest =>
    let (path, rest) := readSegments false false [] [] rest
    let (query, fragment) := readEnd false rest
    ⟨scheme, none, .segments path, query, fragment⟩
  | t =>
    let path := t.takeWhile (!endsPath ·)
    let (query, fragment) := readEnd false (t.drop path.length)
    ⟨scheme, none, .flat (encode controlSet path), query, fragment⟩

/-- Reads a URI. -/
def read (t : Text) : Except UriFault Uri :=
  match readScheme? (strip t) with
  | none => .error .relative
  | some (scheme, rest) =>
    if scheme = "file".toList then readFile rest
    else if isSpecial scheme then readHierarchy scheme (rest.dropWhile (isSlash true))
    else
      match rest with
      | '/' :: '/' :: rest => readHierarchy scheme rest
      | rest => .ok (readPlain scheme rest)

/-! ## Paths of files -/

/-- The path of the file that a URI names, if it names one on this host. -/
def filePath? (u : Uri) : Option Text :=
  let host := (u.authority.map (·.host)).getD []
  match u.path with
  | .flat _ => none
  | .segments [] => none
  | .segments ss =>
    if host = [] ∨ host = "localhost".toList then
      (Text.decode? (ss.flatMap fun s => Text.encodeChar '/' ++ decode s)).map fun path =>
        if isDriveLetter (path.drop (path.length - 2)) && 2 < path.length then path ++ ['/'] else path
    else none

end Uri
end GraphLint
