import BookExport.Mirror.Host
import BookExport.Mirror.Path
import BookExport.Text.Blank
import BookExport.Text.Form
import BookExport.Text.Number

/-! Addresses of a store: a host with a port and the number of a database, or the path of a socket. -/

namespace BookExport.Mirror

inductive Address where
  | network (host : String) (port : Nat) (database : Int)
  | socket (path : String) (database : Int)
  deriving DecidableEq, Repr

namespace Address

/-- The text of an address without the blanks around it, and without tabs and line ends. -/
def clean (cs : List Char) : List Char :=
  let isEdge (c : Char) : Bool := c.toNat ≤ 0x20
  let trimmed := ((cs.dropWhile isEdge).reverse.dropWhile isEdge).reverse
  trimmed.filter fun c => c != '\t' && c != '\n' && c != '\r'

/-- The scheme, in lower case, and what follows its colon. -/
def splitScheme (cs : List Char) : Option (String × List Char) :=
  let scheme := cs.takeWhile fun c => c.isAlphanum || c == '+' || c == '-' || c == '.'
  match scheme, cs.drop scheme.length with
  | first :: _, ':' :: rest => if first.isAlpha then some (Text.foldCase (String.ofList scheme), rest) else none
  | _, _ => none

/-- A number with a sign before it if one likes, within 64 bits. -/
def readDatabase (cs : List Char) : Option Int :=
  match cs with
  | '-' :: digits =>
    if digits.head?.any Char.isDigit then
      (Text.readBounded 9223372036854775808 (String.ofList digits)).toOption.map fun n => -(n : Int)
    else none
  | _ => (Text.readBounded 9223372036854775807 (String.ofList cs)).toOption.map fun n => (n : Int)

/-- Zero, unless the path between its slashes names a database. -/
def databaseOfPath (path : List Char) : Option Int :=
  match Path.trimSlashes (Path.join (Path.parts path)) with
  | [] => some 0
  | number => readDatabase number

/-- Zero, unless the query names a database, the last one it names. -/
def databaseOfQuery (query : List Char) : Option Int :=
  match (Text.Form.decode (String.ofList query)).reverse.lookup "db" with
  | some number => readDatabase number.toList
  | none => some 0

/-- What stands between the two slashes and the path. -/
structure Authority where
  /-- What stands before the last at sign. -/
  login : Option (List Char)
  host : List Char
  port : Option Nat
  deriving Repr

namespace Authority

def isEnd (c : Char) : Bool := c == '/' || c == '?' || c == '#'

/-- What stands before the last at sign, if there is one, and what follows it. -/
def splitLogin (cs : List Char) : Option (List Char) × List Char :=
  let authority := cs.takeWhile fun c => !isEnd c
  if '@' ∉ authority then (none, cs)
  else
    let behind := (authority.reverse.takeWhile (· != '@')).length
    let login := authority.take (authority.length - behind - 1)
    (some login, cs.drop (login.length + 1))

/-- The number of a port, if one is given, and what follows it. A backslash ends it too. -/
def splitPort? (cs : List Char) : Option (Option Nat × List Char) :=
  let digits := cs.takeWhile Char.isDigit
  let rest := cs.drop digits.length
  if !(rest.head?.all fun c => isEnd c || c == '\\') then none
  else if digits.isEmpty then some (none, rest)
  else (Text.readDigits 65535 0 digits).toOption.map fun port => (some port, rest)

/-- The authority, and what follows it. Without a host there is no port, and no login but a lone colon. -/
def split? (cs : List Char) : Option (Authority × List Char) := do
  let (login, rest) := splitLogin cs
  let (host, rest) ← Host.split? rest
  match rest with
  | ':' :: rest =>
    let (port, rest) ← splitPort? rest
    if host.isEmpty then none else some (⟨login, host, port⟩, rest)
  | rest =>
    if !(rest.head?.all isEnd) ∨ (host.isEmpty ∧ login.any (· != [':'])) then none
    else some (⟨login, host, none⟩, rest)

/-- Whether the parts of the login are text. -/
def hasSoundLogin (a : Authority) : Bool :=
  ((a.login.getD []).splitOn ':').all fun part =>
    (Text.Utf8.decode (Text.Form.unescape (Text.Utf8.encode part))).isOk

end Authority

/-- No number is the standard port. -/
def standardPort : Nat := 6379

def readNetwork (cs : List Char) : Option Address := do
  let (authority, path) ← Authority.split? cs
  let database ← databaseOfPath path
  if authority.host.isEmpty ∨ !authority.hasSoundLogin then none
  else some (.network (String.ofList authority.host) (authority.port.getD standardPort) database)

/-- The socket at a path that is not empty. Its database is named in the query. -/
def readSocket (path : List Char) : Option Address := do
  let query := ((path.takeWhile (· != '#')).dropWhile (· != '?')).drop 1
  let database ← databaseOfQuery query
  if path.head?.all fun c => c == '?' || c == '#' then none
  else some (.socket (String.ofList ('/' :: Path.join (Path.parts path))) database)

/-- A socket is on this host, if a host is named at all. -/
def readLocal (cs : List Char) : Option Address := do
  let (authority, path) ← Authority.split? cs
  if authority.host.isEmpty ∨ authority.host = "localhost".toList then readSocket path else none

def read? (s : String) : Option Address := do
  let (scheme, rest) ← splitScheme (clean s.toList)
  match scheme, rest with
  | "redis", '/' :: '/' :: rest => readNetwork rest
  | "unix", '/' :: '/' :: rest | "redis+unix", '/' :: '/' :: rest => readLocal rest
  | "unix", '/' :: rest | "redis+unix", '/' :: rest => readSocket ('/' :: rest)
  | _, _ => none

end Address
end BookExport.Mirror
