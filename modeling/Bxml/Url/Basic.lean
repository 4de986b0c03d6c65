import Bxml.Url.Host

/-!
# URLs

A URL is a scheme, perhaps an authority, a path, and perhaps a query and a fragment, each in its
serialised form. Two URLs are the same when their serialisations are.
-/

namespace Bxml

namespace Url

/-- Who is addressed: user, password, host and port. An empty password counts as none. -/
structure Authority where
  username : List Char
  password : List Char
  host : List Char
  port : Option Nat
deriving DecidableEq, Repr, Inhabited

end Url

/-- A URL. -/
structure Url where
  scheme : List Char
  authority : Option Url.Authority
  path : List Char
  query : Option (List Char)
  fragment : Option (List Char)
deriving DecidableEq, Repr, Inhabited

namespace Url

/-- The text of an authority, after the two slashes. -/
def Authority.text (a : Authority) : List Char :=
  let user :=
    if a.username.isEmpty && a.password.isEmpty then []
    else if a.password.isEmpty then a.username ++ ['@']
    else a.username ++ ':' :: a.password ++ ['@']
  let port :=
    match a.port with
    | some p => ':' :: Nat.toDigits 10 p
    | none => []
  user ++ a.host ++ port

/-- The characters of a URL. -/
def chars (u : Url) : List Char :=
  let authority :=
    match u.authority with
    | some a => '/' :: '/' :: a.text
    | none =>
      match u.path with
      | '/' :: '/' :: _ => ['/', '.']
      | _ => []
  let query :=
    match u.query with
    | some q => '?' :: q
    | none => []
  let fragment :=
    match u.fragment with
    | some f => '#' :: f
    | none => []
  u.scheme ++ ':' :: authority ++ u.path ++ query ++ fragment

/-- The text of a URL. -/
def text (u : Url) : String := String.ofList u.chars

instance : BEq Url := ⟨fun u v => u.chars == v.chars⟩

/-- Whether the path of `u` is no list of segments, so that nothing is relative to it. -/
def isOpaque (u : Url) : Bool :=
  u.authority.isNone && u.path.head? != some '/'

/-- The schemes whose URLs always have an authority and a path. -/
def isSpecial (scheme : List Char) : Bool :=
  ["http", "https", "ws", "wss", "ftp", "file"].any (·.toList == scheme)

/-- The port a scheme uses when none is given. -/
def defaultPort (scheme : List Char) : Option Nat :=
  (["http", "https", "ws", "wss", "ftp"].zip [80, 443, 80, 443, 21]).findSome? fun p =>
    if p.1.toList == scheme then some p.2 else none

def fileScheme : List Char := ['f', 'i', 'l', 'e']

def isFile (scheme : List Char) : Bool := scheme == fileScheme

end Url

end Bxml
