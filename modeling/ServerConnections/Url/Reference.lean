import ServerConnections.Url.Basic

/-!
# References

A server that sends a client elsewhere names the new place by a reference, which
may leave out what is the same as in the place asked for. A reference is resolved
by the generic syntax of identifiers: nothing is encoded or decoded, and a text
with other characters than those of that syntax is no reference.
-/

namespace ServerConnections.Url

/-- A reference: its parts, without a fragment. -/
structure Reference where
  scheme : Option (List Char)
  authority : Option (List Char)
  path : List Char
  query : Option (List Char)
deriving DecidableEq, Repr

namespace Reference

/-! ### Characters -/

/-- The characters with no special meaning, and those that delimit parts of a
part. -/
def isPlainChar (c : Char) : Bool :=
  c.isAlphanum || ['-', '.', '_', '~', '!', '$', '&', '\'', '(', ')', '*', '+', ',', ';',
    '='].contains c

/-- The characters of authorities. -/
def isAuthorityChar (c : Char) : Bool :=
  isPlainChar c || c == '%' || c == ':' || c == '@' || c == '[' || c == ']'

/-- The characters of paths. -/
def isPathChar (c : Char) : Bool :=
  isPlainChar c || c == '%' || c == ':' || c == '@' || c == '/'

/-- The characters of queries and fragments. -/
def isQueryChar (c : Char) : Bool := isPathChar c || c == '?'

/-- Whether every percent sign stands before two hexadecimal digits. -/
def hasWholePercents : List Char → Bool
  | [] => true
  | '%' :: a :: b :: rest => (byte? a b).isSome && hasWholePercents rest
  | c :: rest => c != '%' && hasWholePercents rest

/-- Whether the parts of a reference have characters of their own only. -/
def isValid (r : Reference) : Bool :=
  (r.authority.getD []).all isAuthorityChar && r.path.all isPathChar &&
    (r.query.getD []).all isQueryChar &&
    hasWholePercents (r.authority.getD []) && hasWholePercents r.path &&
    hasWholePercents (r.query.getD [])

/-! ### Reading -/

/-- A text cut at the first character of a kind, which is in neither part. -/
def cut (p : Char → Bool) (s : List Char) : List Char × Option (List Char) :=
  match s.span (!p ·) with
  | (before, []) => (before, none)
  | (before, _ :: behind) => (before, some behind)

/-- The authority and the path of a text. -/
def splitAuthority (s : List Char) : Option (List Char) × List Char :=
  match s with
  | '/' :: '/' :: rest =>
    (some (rest.takeWhile (· != '/')), rest.dropWhile (· != '/'))
  | _ => (none, s)

/-- The scheme of a text and what is behind it. No other colon may stand before
the first slash. -/
def splitScheme? (s : List Char) : Option (Option (List Char) × List Char) :=
  match cut (fun c => c == ':' || c == '/') s with
  | (name, some rest) =>
    if s.drop name.length |>.head?.any (· == '/') then some (none, s)
    else if (name.head?.map Char.isAlpha).getD false && name.all isSchemeChar then
      some (some name, rest)
    else none
  | (_, none) => some (none, s)

/-- The reference that a text is. -/
def ofText? (s : List Char) : Option Reference :=
  let (s, fragment) := cut (· == '#') s
  let (s, query) := cut (· == '?') s
  if (fragment.getD []).all isQueryChar && hasWholePercents (fragment.getD []) then
    (splitScheme? s).bind fun (scheme, s) =>
      let (authority, path) := splitAuthority s
      some (⟨scheme, authority, path, query⟩ : Reference) |>.filter isValid
  else none

/-! ### Resolving -/

/-- A path without segments of dots. -/
def plainPath (path : List Char) : List Char :=
  match path with
  | '/' :: rest =>
    pathText (withoutDots (fun segment => segment) [] (Text.fields (· == '/') rest))
  | _ => path

/-- The path of a reference that starts in the directory of another. -/
def merged (base r : Reference) : List Char :=
  if base.authority.isSome && base.path.isEmpty then '/' :: r.path
  else (base.path.reverse.dropWhile (· != '/')).reverse ++ r.path

/-- **The place that a reference names, seen from another.** -/
def resolved (base r : Reference) : Reference :=
  if r.scheme.isSome then { r with path := plainPath r.path }
  else if r.authority.isSome then
    { r with scheme := base.scheme, path := plainPath r.path }
  else if r.path.isEmpty then { base with query := r.query.or base.query }
  else if r.path.head? = some '/' then { base with path := plainPath r.path, query := r.query }
  else { base with path := plainPath (merged base r), query := r.query }

/-- The text of a reference. -/
def text (r : Reference) : List Char :=
  (r.scheme.map (· ++ [':'])).getD [] ++ (r.authority.map (['/', '/'] ++ ·)).getD [] ++
    r.path ++ (r.query.map ('?' :: ·)).getD []

/-- What is asked for at the place: its path, or the root, and its query. -/
def target (r : Reference) : List Char :=
  (if r.path.isEmpty then ['/'] else r.path) ++ (r.query.map ('?' :: ·)).getD []

/-- The reference to a web address. -/
def ofUrl (u : Url) : Reference where
  scheme := some u.scheme.toList
  authority := some ((u.host.map Host.text).getD [] ++
    (u.socket.map fun p => ':' :: Nat.toDigits 10 p).getD [])
  path := pathText (segments (u.tail.takeWhile (!endsPath ·)))
  query := u.query?

end Reference

end ServerConnections.Url
