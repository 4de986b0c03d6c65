import Bxml.Url.Basic

/-!
# Reading URLs

A URL is read by itself or relative to a base. Tabs and line ends are ignored everywhere, blanks
around the text are dropped, and the result is normalised: scheme and host in lowercase, default
ports left out, dot segments resolved.
-/

namespace Bxml.Url

/-- The text that is read: without the controls and spaces around it and without tabs and line
ends. -/
def cleaned (l : List Char) : List Char :=
  let outer (c : Char) := c.toNat ≤ 0x20
  let inner := ((l.dropWhile outer).reverse.dropWhile outer).reverse
  inner.filter fun c => c != '\t' && c != '\n' && c != '\r'

/-- Splits off a scheme and its colon. -/
def scheme? (l : List Char) : Option (List Char × List Char) :=
  match l with
  | [] => none
  | c :: _ =>
    if c.isAlpha then
      let name := l.takeWhile fun c => c.isAlphanum || c == '+' || c == '-' || c == '.'
      match l.drop name.length with
      | ':' :: r => some (name.map Char.toLower, r)
      | _ => none
    else none

/-- Whether `c` separates segments. -/
def isSlash (special : Bool) (c : Char) : Bool := c == '/' || (special && c == '\\')

/-- A letter with a colon or a bar. -/
def isDriveLetter : List Char → Bool
  | [a, b] => a.isAlpha && (b == ':' || b == '|')
  | _ => false

/-- A letter with a colon. -/
def isNormalDriveLetter : List Char → Bool
  | [a, b] => a.isAlpha && b == ':'
  | _ => false

/-- Whether `l` starts with a drive letter that ends its segment. -/
def startsWithDriveLetter : List Char → Bool
  | [a, b] => isDriveLetter [a, b]
  | a :: b :: c :: _ => isDriveLetter [a, b] && (c == '/' || c == '\\' || c == '?' || c == '#')
  | _ => false

/-- Whether a segment means the directory itself. -/
def isSingleDot (s : List Char) : Bool :=
  s == ['.'] || s.map Char.toLower == ['%', '2', 'e']

/-- Whether a segment means the directory above. -/
def isDoubleDot (s : List Char) : Bool :=
  let t := s.map Char.toLower
  t == ['.', '.'] || t == ['%', '2', 'e', '%', '2', 'e'] || t == ['.', '%', '2', 'e'] ||
    t == ['%', '2', 'e', '.']

/-- Drops the last of some segments, listed last first; a drive letter stays. -/
def shorten (file : Bool) : List (List Char) → List (List Char)
  | [] => []
  | [s] => if file && isNormalDriveLetter s then [s] else []
  | _ :: r => r

/-- Adds a finished segment to those before it, listed last first. `more` says that a slash ended
it. -/
def addSegment (file more : Bool) (done : List (List Char)) (s : List Char) : List (List Char) :=
  if isDoubleDot s then
    let done := shorten file done
    if more then done else [] :: done
  else if isSingleDot s then
    if more then done else [] :: done
  else if file && done.isEmpty && isDriveLetter s then
    [s.take 1 ++ [':']]
  else s :: done

/-- Reads the segments of a path up to a query or fragment. `done` holds those before, last first,
and `current` the one being read, backwards. -/
def segments (special file : Bool) (done : List (List Char)) (current : List Char) :
    List Char → List (List Char) × List Char
  | [] => (addSegment file false done current.reverse, [])
  | c :: r =>
    if c == '?' || c == '#' then (addSegment file false done current.reverse, c :: r)
    else if isSlash special c then
      segments special file (addSegment file true done current.reverse) [] r
    else
      segments special file done ((percentEncode pathSet [c]).reverse ++ current) r

/-- The path made of some segments, listed last first. A file path starts with one slash only. -/
def joinSegments (file : Bool) (done : List (List Char)) : List Char :=
  let path := (done.reverse.map fun s => '/' :: s).flatten
  if file then '/' :: path.dropWhile (· == '/') else path

/-- The segments of a path, last first. -/
def splitSegments (path : List Char) : List (List Char) :=
  match path with
  | [] => []
  | _ :: r => (Host.splitOn '/' r).reverse

/-- Reads the path of a URL with the given segments before it. -/
def readPath (scheme : List Char) (before : List (List Char)) (l : List Char) :
    List Char × List Char :=
  let (done, rest) := segments (isSpecial scheme) (isFile scheme) before [] l
  (joinSegments (isFile scheme) done, rest)

/-- Reads a query and a fragment. -/
def readEnd (scheme : List Char) (l : List Char) : Option (List Char) × Option (List Char) :=
  let fragment (t : List Char) : Option (List Char) :=
    match t with
    | '#' :: r => some (percentEncode fragmentSet r)
    | _ => none
  match l with
  | '?' :: r =>
    let q := r.takeWhile (· != '#')
    (some (percentEncode (querySet (isSpecial scheme)) q), fragment (r.drop q.length))
  | l => (none, fragment l)

/-- A URL from its parts and the text after its path. -/
def finish (scheme : List Char) (authority : Option Authority) (path rest : List Char) : Url :=
  let (query, fragment) := readEnd scheme rest
  { scheme, authority, path, query, fragment }

/-- Where an authority ends. -/
def endsAuthority (special : Bool) (c : Char) : Bool :=
  isSlash special c || c == '?' || c == '#'

/-- Splits an authority at its last `@`. -/
def splitUserInfo (l : List Char) : Option (List Char) × List Char :=
  match Host.splitOn '@' l with
  | [] => (none, l)
  | [_] => (none, l)
  | parts => (some ((parts.dropLast.intersperse ['@']).flatten), parts.getLast?.getD [])

/-- The host part before a port: a colon counts outside square brackets only. -/
def hostPart (inside : Bool) : List Char → List Char
  | [] => []
  | c :: r =>
    if c == ':' && !inside then []
    else c :: hostPart (if c == '[' then true else if c == ']' then false else inside) r

/-- Reads a port after its colon. -/
def readPort (scheme : List Char) (l : List Char) : Except ParseError (Option Nat) :=
  if !l.all Char.isDigit then .error .invalidPort
  else if l.isEmpty then .ok none
  else
    let n := Nat.ofDigitChars 10 l 0
    if 65535 < n then .error .invalidPort
    else .ok (if defaultPort scheme == some n then none else some n)

/-- Reads the text between the two slashes and the path. -/
def readAuthority (scheme : List Char) (l : List Char) : Except ParseError Authority := do
  let special := isSpecial scheme
  let (user, rest) := splitUserInfo l
  if user.isSome && rest.isEmpty then throw .emptyHost
  let user := user.getD []
  let name := user.takeWhile (· != ':')
  let password := (user.drop name.length).drop 1
  let h := hostPart false rest
  let afterHost := rest.drop h.length
  if special && h.isEmpty then throw .emptyHost
  let host ← if special then Host.parse h else Host.parseOpaque h
  if host.isEmpty && !afterHost.isEmpty then throw .emptyHost
  let port ← readPort scheme (afterHost.drop 1)
  if host.isEmpty && (!name.isEmpty || !password.isEmpty) then throw .emptyHost
  return { username := percentEncode userInfoSet name
           password := percentEncode userInfoSet password
           host, port }

/-- Reads a URL after its scheme and two slashes. -/
def afterSlashes (scheme : List Char) (l : List Char) : Except ParseError Url := do
  let special := isSpecial scheme
  let a := l.takeWhile fun c => !endsAuthority special c
  let rest := l.drop a.length
  let authority ← readAuthority scheme a
  if special then
    let rest := match rest with
      | c :: r => if isSlash special c then r else c :: r
      | [] => []
    let (path, rest) := readPath scheme [] rest
    return finish scheme (some authority) path rest
  else
    match rest with
    | '/' :: r =>
      let (path, rest) := readPath scheme [] r
      return finish scheme (some authority) path rest
    | rest => return finish scheme (some authority) [] rest

/-- The authority of a file URL: a host alone. -/
def fileAuthority (host : List Char) : Option Authority := some ⟨[], [], host, none⟩

/-- Whether a path, given by its segments, starts with a drive letter, which leaves no host. -/
def startsAtDrive (path : List Char) : Bool :=
  match path with
  | '/' :: a :: b :: [] => isNormalDriveLetter [a, b]
  | '/' :: a :: b :: '/' :: _ => isNormalDriveLetter [a, b]
  | _ => false

/-- The drive letter at the start of a path. -/
def drive? (u : Url) : Option (List Char) :=
  (splitSegments u.path).getLast?.filter isNormalDriveLetter

/-- Reads a file URL after its scheme, perhaps relative to another one. -/
def readFile (base : Option Url) (l : List Char) : Except ParseError Url := do
  let slash (c : Char) := c == '/' || c == '\\'
  match l with
  | c :: d :: r =>
    if slash c && slash d then
      let h := r.takeWhile fun c => !endsAuthority true c
      let (host, rest) ←
        if isDriveLetter h then pure ([], r)
        else if h.isEmpty then pure ([], r)
        else do
          let host ← Host.parse h
          pure (if host == ['l', 'o', 'c', 'a', 'l', 'h', 'o', 's', 't'] then [] else host,
            r.drop h.length)
      let rest := match rest with
        | c :: r => if slash c then r else c :: r
        | [] => []
      let (path, rest) := readPath fileScheme [] rest
      return finish fileScheme (fileAuthority (if startsAtDrive path then [] else host)) path rest
    else if slash c then rooted (d :: r)
    else relative (c :: d :: r)
  | [c] => if slash c then rooted [] else relative [c]
  | [] => relative []
where
  rooted (r : List Char) : Except ParseError Url := do
    let base := if startsWithDriveLetter r then none else base
    let drive := (base.bind drive?).toList
    let host := if drive.isEmpty then (base.bind (·.authority)).elim [] (·.host) else []
    let (path, rest) := readPath fileScheme drive r
    return finish fileScheme (fileAuthority host) path rest
  relative (l : List Char) : Except ParseError Url := do
    match base with
    | none =>
      let (path, rest) := readPath fileScheme [] l
      return finish fileScheme (fileAuthority []) path rest
    | some b =>
      match l with
      | [] => return { b with fragment := none }
      | '?' :: _ => return finish fileScheme b.authority b.path l
      | '#' :: _ => return { b with fragment := (readEnd fileScheme l).2 }
      | l =>
        if startsWithDriveLetter l then
          let (path, rest) := readPath fileScheme [] l
          return finish fileScheme (fileAuthority []) path rest
        else
          let (path, rest) := readPath fileScheme (shorten true (splitSegments b.path)) l
          return finish fileScheme b.authority path rest

/-- Reads a reference relative to a base of the same scheme, not a file. -/
def readRelative (base : Url) (l : List Char) : Except ParseError Url := do
  let scheme := base.scheme
  let slash (c : Char) := c == '/' || c == '\\'
  match l with
  | [] => return { base with fragment := none }
  | '?' :: _ => return finish scheme base.authority base.path l
  | '#' :: _ => return { base with fragment := (readEnd scheme l).2 }
  | c :: r =>
    if slash c then
      match r with
      | d :: r' =>
        if slash d then
          if c == '/' && d == '/' then afterSlashes scheme r'
          else afterSlashes scheme (r'.dropWhile slash)
        else
          let (path, rest) := readPath scheme [] (d :: r')
          return finish scheme base.authority path rest
      | [] =>
        let (path, rest) := readPath scheme [] []
        return finish scheme base.authority path rest
    else
      let (path, rest) := readPath scheme (splitSegments base.path).tail (c :: r)
      return finish scheme base.authority path rest

/-- Reads a URL that starts with a scheme. -/
def readAbsolute (base : Option Url) (scheme : List Char) (l : List Char) :
    Except ParseError Url := do
  if isFile scheme then
    readFile (base.filter fun b => isFile b.scheme) l
  else if isSpecial scheme then
    let slashes := l.takeWhile fun c => c == '/' || c == '\\'
    match base with
    | some b =>
      if slashes.length < 2 && b.scheme == scheme then readRelative b l
      else afterSlashes scheme (l.drop slashes.length)
    | none => afterSlashes scheme (l.drop slashes.length)
  else
    match l with
    | '/' :: '/' :: r => afterSlashes scheme r
    | '/' :: r =>
      let (path, rest) := readPath scheme [] r
      return finish scheme none path rest
    | l =>
      let path := l.takeWhile fun c => c != '?' && c != '#'
      return finish scheme none (percentEncode controlSet path) (l.drop path.length)

/-- Reads a URL, relative to `base` if one is given. -/
def readFrom (base : Option Url) (s : String) : Except ParseError Url :=
  let l := cleaned s.toList
  match scheme? l with
  | some (scheme, rest) => readAbsolute base scheme rest
  | none =>
    match base with
    | none => .error .relativeWithoutBase
    | some b =>
      if l.head? == some '#' then .ok { b with fragment := (readEnd b.scheme l).2 }
      else if b.isOpaque then .error .relativeToOpaque
      else if isFile b.scheme then readFile (some b) l
      else readRelative b l

/-- Reads an absolute URL. -/
def parse (s : String) : Except ParseError Url := readFrom none s

/-- Reads `s` relative to `base`. -/
def join (base : Url) (s : String) : Except ParseError Url := readFrom (some base) s

/-- The root of all file URLs. -/
def fileRoot : Url := ⟨fileScheme, fileAuthority [], ['/'], none, none⟩

end Bxml.Url
