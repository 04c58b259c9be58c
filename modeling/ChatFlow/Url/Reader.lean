import ChatFlow.Url.Basic

namespace ChatFlow.Url

def endsAuthority (special : Bool) (c : Char) : Bool :=
  c == '/' || c == '?' || c == '#' || (special && c == '\\')

def isSlash (special : Bool) (c : Char) : Bool := c == '/' || (special && c == '\\')

/-- The text as it is read: controls and blanks at the ends count for nothing, nor do tabs and line
ends anywhere. -/
def cleaned (cs : List Char) : List Char :=
  let isEdge (c : Char) : Bool := c.toNat ≤ 0x20
  let cs := ((cs.dropWhile isEdge).reverse.dropWhile isEdge).reverse
  cs.filter fun c => c != '\t' && c != '\n' && c != '\r'

def cutScheme (cs : List Char) : Option (String × List Char) :=
  match cs with
  | c :: _ =>
    let scheme := cs.takeWhile fun c => c.isAlphanum || c == '+' || c == '-' || c == '.'
    match cs.drop scheme.length with
    | ':' :: rest => if c.isAlpha then some (.ofList (scheme.map Char.toLower), rest) else none
    | _ => none
  | [] => none

def userOf (cs : List Char) : String × String :=
  let encode (cs : List Char) : String := .ofList (Percent.encode Percent.inUser cs)
  match Text.cutAt (· == ':') cs with
  | some (user, password) => (encode user, encode password)
  | none => (encode cs, "")

def cutAtLastSign (cs : List Char) : Option (List Char × List Char) :=
  (Text.cutAt (· == '@') cs.reverse).map fun (back, front) => (front.reverse, back.reverse)

/-- The host and what follows it; a colon between brackets does not end it. -/
def cutHost (inBrackets : Bool) : List Char → List Char × List Char
  | [] => ([], [])
  | c :: rest =>
    if c == ':' && !inBrackets then ([], c :: rest)
    else
      let (host, more) :=
        cutHost (if c == '[' then true else if c == ']' then false else inBrackets) rest
      (c :: host, more)

/-- The port after a colon: none where there are no digits or the port is the usual one. -/
def portOf (scheme : String) (digits : List Char) : Except UrlDefect (Option Nat) :=
  let port := Decimal.valueOf digits
  if !digits.all Decimal.isDigit || 0xFFFF < port then .error .port
  else if digits.isEmpty || usualPort? scheme = some port then .ok none
  else .ok (some port)

/-- An authority: user, host and port. `after` says whether anything follows it. -/
def readAuthority (scheme : String) (cs : List Char) : Except UrlDefect Url := do
  let special := isSpecial scheme
  let (user, password, hostAndPort, signed) := match cutAtLastSign cs with
    | some (front, back) => ((userOf front).1, (userOf front).2, back, true)
    | none => ("", "", cs, false)
  let (host, port) := cutHost false hostAndPort
  let host' ← if special then
      if host.isEmpty then .error .emptyHost else Host.ofText host
    else Host.ofOpaqueText host
  if host' = .name "" && (signed || !port.isEmpty) then throw .emptyHost
  let port? ← match port with
    | ':' :: digits => portOf scheme digits
    | _ => .ok none
  return ⟨scheme, user, password, some host', port?, "", none, none⟩

def isDot (segment : List Char) : Bool :=
  ["." , "%2e"].contains (String.ofList (segment.map Char.toLower))

def isDoubleDot (segment : List Char) : Bool :=
  ["..", ".%2e", "%2e.", "%2e%2e"].contains (String.ofList (segment.map Char.toLower))

/-- The segments of a path with the dots resolved; `done` holds those so far, last first. -/
def resolve : (done : List (List Char)) → List (List Char) → List (List Char)
  | done, [] => done.reverse
  | done, [last] =>
    if isDoubleDot last then ([] :: done.drop 1).reverse
    else if isDot last then ([] :: done).reverse
    else (last :: done).reverse
  | done, segment :: rest =>
    if isDoubleDot segment then resolve (done.drop 1) rest
    else if isDot segment then resolve done rest
    else resolve (segment :: done) rest

def segments (special : Bool) (cs : List Char) : List (List Char) :=
  Text.pieces '/' (if special then cs.map fun c => if c == '\\' then '/' else c else cs)

def rootedPath (special : Bool) (cs : List Char) : String :=
  .ofList <| (resolve [] (segments special cs)).flatMap fun segment =>
    '/' :: Percent.encode Percent.inPath segment

def pathOf (special : Bool) (cs : List Char) : String :=
  match cs with
  | [] => if special then "/" else ""
  | c :: rest =>
    if isSlash special c then rootedPath special rest else rootedPath special (c :: rest)

/-- What stands before and after a mark; without the mark there is nothing after. -/
def cutOff (mark : Char) (cs : List Char) : List Char × Option (List Char) :=
  match Text.cutAt (· == mark) cs with
  | some (front, back) => (front, some back)
  | none => (cs, none)

def withTail (url : Url) (query fragment : Option (List Char)) : Url :=
  let inQuery := if isSpecial url.scheme then Percent.inSpecialQuery else Percent.inQuery
  { url with
    query? := query.map fun cs => .ofList (Percent.encode inQuery cs)
    fragment? := fragment.map fun cs => .ofList (Percent.encode Percent.inFragment cs) }

/-- The address of a file: the host may be empty, and `localhost` is as good as that. -/
def readFile (cs : List Char) : Except UrlDefect Url := do
  let blank : Url := ⟨"file", "", "", some (.name ""), none, "", none, none⟩
  match cs with
  | a :: b :: rest =>
    if isSlash true a && isSlash true b then
      let host := rest.takeWhile (!endsAuthority true ·)
      let isDrive := match host with
        | [letter, mark] => letter.isAlpha && (mark == ':' || mark == '|')
        | _ => false
      if host.isEmpty || isDrive then return { blank with path := pathOf true rest }
      else do
        let host' ← Host.ofText host
        return { blank with
          host? := some (if host' = .name "localhost" then .name "" else host')
          path := pathOf true (rest.drop host.length) }
    else return { blank with path := pathOf true cs }
  | cs => return { blank with path := pathOf true cs }

/-- The address of what follows the scheme, without query and fragment. -/
def readHierarchy (scheme : String) (cs : List Char) : Except UrlDefect Url := do
  let special := isSpecial scheme
  if scheme = "file" then readFile cs
  else
    let behindSlashes := if special then some (cs.dropWhile (isSlash true)) else match cs with
      | '/' :: '/' :: rest => some rest
      | _ => none
    match behindSlashes with
    | some rest =>
      let authority := rest.takeWhile (!endsAuthority special ·)
      let url ← readAuthority scheme authority
      return { url with path := pathOf special (rest.drop authority.length) }
    | none =>
      let path := match cs with
        | '/' :: rest => rootedPath false rest
        | cs => .ofList (Percent.encode Percent.inOpaque cs)
      return ⟨scheme, "", "", none, none, path, none, none⟩

def ofText (s : String) : Except UrlDefect Url := do
  match cutScheme (cleaned s.toList) with
  | none => throw .relative
  | some (scheme, cs) =>
    let (cs, fragment) := cutOff '#' cs
    let (cs, query) := cutOff '?' cs
    let url ← readHierarchy scheme cs
    return url.withTail query fragment

end ChatFlow.Url
