import VariableStore.Number
import VariableStore.Url.Host
/-!
Absolute URLs, in the form that a browser gives them: an address that is only nearly right is put right where it
is clear what it means, and refused where it is not.

Special URLs are those of a few well-known schemes. They have a host and a path that is never empty, a backslash
is as good as a slash in them, and the usual port of the scheme is left out.
-/
namespace VariableStore.Url

/-- Who serves a URL: an optional user with a password, a host, and a port. -/
structure Authority where
  user : List Char := []
  password : List Char := []
  host : List Char
  port : Option Nat := none
  deriving DecidableEq, Repr

/-- A path: segments, or a text without structure. -/
inductive Path where
  | segments (parts : List (List Char))
  | flat (text : List Char)
  deriving DecidableEq, Repr

end Url

structure Url where
  scheme : List Char
  authority : Option Url.Authority
  path : Url.Path
  query : Option (List Char)
  fragment : Option (List Char)
  deriving DecidableEq, Repr

namespace Url

def Authority.text (a : Authority) : List Char :=
  a.user ++ (if a.password.isEmpty then [] else ':' :: a.password) ++
    (if a.user.isEmpty && a.password.isEmpty then [] else ['@']) ++ a.host ++
    match a.port with
    | some port => ':' :: Nat.toDigits 10 port
    | none => []

def Path.text : Path → List Char
  | .segments parts => parts.flatMap ('/' :: ·)
  | .flat text => text

def marked (mark : Char) : Option (List Char) → List Char
  | some part => mark :: part
  | none => []

/-- The text of a URL. Where nobody serves the URL, a path that starts with two slashes is kept apart from the
scheme. -/
def chars (u : Url) : List Char :=
  u.scheme ++ ':' ::
    (match u.authority with
      | some a => '/' :: '/' :: a.text
      | none => if ['/', '/'].isPrefixOf u.path.text then ['/', '.'] else []) ++
    u.path.text ++ marked '?' u.query ++ marked '#' u.fragment

def text (u : Url) : String := String.ofList u.chars

/-- What is asked of the host: the path and the query. -/
def target (u : Url) : String := String.ofList (u.path.text ++ marked '?' u.query)

def usualPort? (scheme : String) : Option Nat :=
  match scheme with
  | "http" | "ws" => some 80
  | "https" | "wss" => some 443
  | "ftp" => some 21
  | _ => none

def isSpecial (scheme : String) : Bool := (usualPort? scheme).isSome || scheme = "file"

/-! ## Reading -/

def cut (mark : Char) : List Char → List Char × Option (List Char)
  | [] => ([], none)
  | c :: rest =>
    if c = mark then ([], some rest)
    else
      let (front, back) := cut mark rest
      (c :: front, back)

def isSlash (special : Bool) (c : Char) : Bool := c = '/' || (special && c = '\\')

/-- A scheme in small letters. It starts with a letter. -/
def scheme? (cs : List Char) : Option String :=
  match cs with
  | [] => none
  | first :: _ =>
    if first.isAlpha && cs.all fun c => c.isAlphanum || c = '+' || c = '-' || c = '.' then
      some (String.ofList (cs.map Char.toLower))
    else none

def cutLast (mark : Char) (cs : List Char) : Option (List Char) × List Char :=
  let (back, front) := cut mark cs.reverse
  (front.map List.reverse, back.reverse)

/-- The host, and what stands behind a colon outside brackets. -/
def hostAndPort (inside : Bool) : List Char → List Char × Option (List Char)
  | [] => ([], none)
  | c :: rest =>
    if c = ':' && !inside then ([], some rest)
    else
      let (host, port) := hostAndPort (c = '[' || (inside && c ≠ ']')) rest
      (c :: host, port)

/-- A port, unless it is missing or the usual one of the scheme. -/
def port? (scheme : String) : Option (List Char) → Option (Option Nat)
  | none | some [] => some none
  | some cs =>
    if cs.all Char.isDigit then
      match Unsigned.ofChars? 65536 cs with
      | .ok port => some (if usualPort? scheme = some port then none else some port)
      | .error _ => none
    else none

/-- Reads an authority, and gives back what of the text belongs to the path: a port ends at a backslash. There is no
port and no user without a host. `isLast` says that the URL ends with the authority; only there may a host be
missing behind the mark of a user that is not named. -/
def authority? (scheme : String) (isLast : Bool) (cs : List Char) : Option (Authority × List Char) := do
  let special := isSpecial scheme
  let (userinfo, rest) := cutLast '@' cs
  let (user, password) := cut ':' (userinfo.getD [])
  let password := password.getD []
  let (host, port) := hostAndPort false rest
  let isNamed := !user.isEmpty || !password.isEmpty || (userinfo = some [] && !isLast)
  if host.isEmpty && (special || port.isSome || isNamed) then none
  else
    let authority := {
      user := escape userSet user
      password := escape userSet password
      host := ← if special then Host.special? host else Host.plain? host
      port := ← port? scheme (port.map (·.takeWhile (· ≠ '\\'))) }
    return (authority, (port.getD []).dropWhile (· ≠ '\\'))

def splitSlashes (special : Bool) : List Char → List (List Char)
  | [] => [[]]
  | c :: rest =>
    if isSlash special c then [] :: splitSlashes special rest
    else
      match splitSlashes special rest with
      | [] => [[c]]
      | part :: parts => (c :: part) :: parts

/-- A segment with the escapes of points undone and all letters small. -/
def pointsOf : List Char → List Char
  | '%' :: '2' :: e :: rest => if e.toLower = 'e' then '.' :: pointsOf rest else '%' :: '2' :: e :: pointsOf rest
  | c :: rest => c :: pointsOf rest
  | [] => []

/-- Whether a segment stands for the directory that it is in. -/
def isHere (segment : List Char) : Bool := pointsOf segment = ['.']

/-- Whether a segment stands for the directory above. -/
def isAbove (segment : List Char) : Bool := pointsOf segment = ['.', '.']

def isDrive : List Char → Bool
  | [letter, mark] => letter.isAlpha && (mark = ':' || mark = '|')
  | _ => false

/-- Leaves the last directory. The letter of a drive stays, which a backslash ends as well as a slash does. -/
def leave (done : List (List Char)) : List (List Char) :=
  if done.getLast?.any fun segment => isDrive (segment.takeWhile (· ≠ '\\')) then done else done.dropLast

/-- Takes a segment into a path. The letter of a drive that a file path starts with gets a colon. -/
def enter (file : Bool) (done : List (List Char)) (segment : List Char) : List (List Char) :=
  match segment with
  | [letter, _] =>
    if file && done.isEmpty && isDrive segment then [[letter, ':']] else done ++ [escape pathSet segment]
  | _ => done ++ [escape pathSet segment]

/-- The segments of a path, with those that stand for directories carried out. A path that ends with one of
these ends with a slash. -/
def walk (file : Bool) (done : List (List Char)) : List (List Char) → List (List Char)
  | [] => done
  | [last] =>
    if isAbove last then leave done ++ [[]]
    else if isHere last then done ++ [[]]
    else enter file done last
  | segment :: rest =>
    if isAbove segment then walk file (leave done) rest
    else if isHere segment then walk file done rest
    else walk file (enter file done segment) rest

/-- A path behind a host. One slash in front of it is not part of a segment. -/
def pathOf (special : Bool) (cs : List Char) : Path :=
  match cs with
  | [] => .segments (if special then [[]] else [])
  | c :: rest => .segments (walk false [] (splitSlashes special (if isSlash special c then rest else c :: rest)))

def fileSegments (cs : List Char) : List (List Char) := walk true [] (splitSlashes true cs)

/-- The path of a file, without empty segments in front. -/
def filePath (segments : List (List Char)) : Path :=
  let parts := segments.dropWhile List.isEmpty
  .segments (if parts.isEmpty then [[]] else parts)

/-- The authority and path of a file URL. A host that is this machine is left out, and so is any host if the path
starts with a drive. The slash behind a host is not part of the path, but the one where a host is left out is. -/
def file? (cs : List Char) : Option (Authority × Path) :=
  let isLocal : List Char → Bool := fun host => host.isEmpty || host = "localhost".toList
  let served (host : List Char) (segments : List (List Char)) : Authority × Path :=
    (⟨[], [], host, none⟩, filePath segments)
  match cs with
  | a :: b :: rest =>
    if isSlash true a && isSlash true b then do
      let host := rest.takeWhile fun c => !isSlash true c
      let behind := rest.dropWhile fun c => !isSlash true c
      if isDrive host then return served [] (fileSegments rest)
      else
        let host ← if host.isEmpty then some [] else Host.special? host
        if isLocal host then return served [] (fileSegments behind)
        else
          let segments := fileSegments (behind.drop 1)
          return served (if segments.head?.any isDrive then [] else host) segments
    else some (served [] (fileSegments (if isSlash true a then b :: rest else cs)))
  | [a] => some (served [] (fileSegments (if isSlash true a then [] else cs)))
  | [] => some (served [] (fileSegments []))

/-- The authority and path of a URL of some scheme. `isLast` says that nothing follows these. -/
def body? (scheme : String) (isLast : Bool) (cs : List Char) : Option (Option Authority × Path) :=
  if scheme = "file" then (file? cs).map fun (a, path) => (some a, path)
  else
    let special := isSpecial scheme
    let served (cs : List Char) : Option (Option Authority × Path) := do
      let path := cs.dropWhile fun c => !isSlash special c
      let (a, rest) ← authority? scheme (isLast && path.isEmpty) (cs.takeWhile fun c => !isSlash special c)
      return (some a, pathOf special (rest ++ path))
    if special then served (cs.dropWhile (isSlash true))
    else
      match cs with
      | '/' :: '/' :: rest => served rest
      | '/' :: rest => some (none, pathOf false ('/' :: rest))
      | _ => some (none, .flat (escape [] cs))

/-- The characters of a text that count: none of the controls and spaces at its ends, nor any tab or line end. -/
def relevant (cs : List Char) : List Char :=
  let isEdge : Char → Bool := fun c => c.toNat ≤ 32
  ((cs.dropWhile isEdge).reverse.dropWhile isEdge).reverse.filter fun c => !(c = '\t' || c = '\n' || c = '\r')

def ofChars? (cs : List Char) : Option Url := do
  let (cs, fragment) := cut '#' (relevant cs)
  let (cs, query) := cut '?' cs
  let (front, back) := cut ':' cs
  let scheme ← scheme? front
  let (authority, path) ← body? scheme (query.isNone && fragment.isNone) (← back)
  return {
    scheme := scheme.toList
    authority := authority
    path := path
    query := query.map (escape (if isSpecial scheme then specialQuerySet else querySet))
    fragment := fragment.map (escape fragmentSet) }

def ofText? (s : String) : Option Url := ofChars? s.toList

end Url

end VariableStore
