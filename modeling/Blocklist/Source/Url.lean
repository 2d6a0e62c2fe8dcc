import Blocklist.Hostname.Address
import Blocklist.Source.Scheme
import Blocklist.Text.Normal

/-!
# URLs

A URL is cut into scheme, authority, path, parameters, query and fragment, and a reference is resolved
against a base URL: the dot segments of the merged path are removed, and so are its empty segments.
An authority with a bracket out of place, or with a character that stands for a delimiter, is
malformed.
-/

namespace Blocklist

/-- The parts of a URL. -/
structure Url where
  scheme : Text
  authority : Text
  path : Text
  parameters : Text
  query : Text
  fragment : Text
deriving Repr, DecidableEq

namespace Url

/-- The scheme in lower case and what follows its colon. -/
def takeScheme? (s : Text) : Option (Text × Text) :=
  match Text.cut? [':'] s with
  | some (c :: name, rest) =>
    if c.isAlpha && name.all isSchemeChar then some ((c :: name).map Char.toLower, rest) else none
  | _ => none

/-- What comes before the first `c`, and what comes after it; nothing comes after if there is no
`c`. -/
def cutAt (c : Char) (s : Text) : Text × Text := (Text.cut? [c] s).getD (s, [])

/-- The path without its parameters, which follow the first semicolon of its last segment, and the
parameters. -/
def takeParameters (path : Text) : Text × Text :=
  match Text.cutAfterLast? (· = '/') path with
  | some (front, last) => let (a, b) := cutAt ';' last; (front ++ a, b)
  | none => cutAt ';' path

/-- An address of a future version: `v`, hexadecimal digits, a dot, and something more. -/
def isFutureAddress (s : Text) : Bool :=
  match s with
  | 'v' :: s =>
    let rest := s.dropWhile Address.isHexDigit
    s.takeWhile Address.isHexDigit ≠ [] && rest.head? = some '.' && 1 < rest.length
  | _ => false

/-- An IPv6 address, with a zone or without one. -/
def isV6WithZone (s : Text) : Bool :=
  let zoneOk :=
    match Text.cut? ['%'] s with
    | some (_, zone) => zone ≠ [] && !zone.elem '%'
    | none => true
  zoneOk && (Address.v6Groups? (s.takeWhile (· ≠ '%'))).isSome

/-- Whether what stands in the brackets of an authority may stand there. -/
def isBracketed (s : Text) : Bool :=
  if s.head? = some 'v' then isFutureAddress s else isV6WithZone s

/-- A character that normalization turns into a delimiter of a URL. -/
def hidesDelimiter (c : Char) : Bool :=
  0x80 ≤ c.toNat &&
    (c = '\uFE13' || c = '\uFE16' || (Normal.decompose c).any ['/', '?', '#', '@', ':'].elem)

/-- Whether an authority is well-formed. -/
def authorityOk (s : Text) : Bool :=
  (s.elem '[' == s.elem ']') &&
    (!s.elem '[' || isBracketed (cutAt ']' (cutAt '[' s).2).1) && !s.any hidesDelimiter

/-- The parts of `s`, where `scheme` is the scheme if `s` names none; none if the authority is
malformed. Leading blanks and control characters, and all tabs and line ends, are passed over. -/
def read? (scheme s : Text) : Option Url :=
  let s := (s.dropWhile (·.toNat ≤ 0x20)).filter fun c => c ≠ '\t' && c ≠ '\r' && c ≠ '\n'
  let (scheme, s) := (takeScheme? s).getD (scheme, s)
  let (authority, s) :=
    match Text.dropPrefix? ['/', '/'] s with
    | some rest =>
      let inside (c : Char) : Bool := c ≠ '/' && c ≠ '?' && c ≠ '#'
      (rest.takeWhile inside, rest.dropWhile inside)
    | none => ([], s)
  let (s, fragment) := cutAt '#' s
  let (path, query) := cutAt '?' s
  let (path, parameters) := takeParameters path
  if authorityOk authority then some ⟨scheme, authority, path, parameters, query, fragment⟩ else none

/-- The written form. -/
def text (u : Url) : Text :=
  let path := if u.parameters = [] then u.path else u.path ++ ';' :: u.parameters
  let hierarchy :=
    if u.authority ≠ [] || u.scheme ≠ [] || Text.startsWith ['/', '/'] path then
      ['/', '/'] ++ u.authority ++
        (if path = [] || path.head? = some '/' then path else '/' :: path)
    else path
  (if u.scheme = [] then [] else u.scheme ++ [':']) ++ hierarchy ++
    (if u.query = [] then [] else '?' :: u.query) ++
    if u.fragment = [] then [] else '#' :: u.fragment

/-! ### Resolution -/

/-- The segments so far, the last one first, after one more segment. -/
def stepSegment (done : List Text) (s : Text) : List Text :=
  if s = ['.', '.'] then done.tail else if s = ['.'] then done else s :: done

/-- The path of some segments without dot segments. -/
def removeDots (segments : List Text) : Text :=
  let done := segments.foldl stepSegment []
  let done :=
    match segments.getLast? with
    | some last => if last = ['.'] || last = ['.', '.'] then [] :: done else done
    | none => done
  match Text.join ['/'] done.reverse with
  | [] => ['/']
  | path => path

/-- The list without its empty members, the first and the last place excepted. -/
def dropInnerEmpty : List Text → List Text
  | [] => []
  | [s] => [s]
  | first :: rest =>
    first :: (rest.dropLast.filter (· ≠ []) ++ (rest.getLast?).toList)

/-- The path of a reference, seen from the path of its base. -/
def mergePath (base path : Text) : Text :=
  if path.head? = some '/' then removeDots (path.splitOn '/')
  else
    let parts := base.splitOn '/'
    let parts := if parts.getLast? = some [] then parts else parts.dropLast
    removeDots (dropInnerEmpty (parts ++ path.splitOn '/'))

/-- The URL that a reference with the scheme of its base stands for. -/
def resolve (base reference : Url) : Url :=
  if reference.authority ≠ [] then reference
  else if reference.path = [] && reference.parameters = [] then
    { base with
      query := if reference.query = [] then base.query else reference.query
      fragment := reference.fragment }
  else
    { reference with
      authority := base.authority
      path := mergePath base.path reference.path }

/-- The text of a reference seen from a base; one with another scheme is taken as it is. None if
either has a malformed authority. -/
def join? (base reference : Text) : Option Text :=
  if base = [] then some reference
  else if reference = [] then some base
  else do
    let b ← read? [] base
    let r ← read? b.scheme reference
    some (if r.scheme = b.scheme then (resolve b r).text else reference)

end Url
end Blocklist
