import ConfigCheck.Uri.Reader

/-!
# Normal form and resolution

Two identifiers that differ in the case of scheme and host, in the way octets are encoded, or in
dot segments mean the same; `Uri.normalize` brings them into one form.  A reference is resolved
against the base of the place where it stands (`Uri.resolve`).
-/

namespace ConfigCheck.Uri

/-- Decodes octets that stand for unreserved characters and writes the others in capitals. -/
def normalizeOctets : List Char → List Char
  | '%' :: a :: b :: rest =>
    let c := Char.ofNat (hexDigit a * 16 + hexDigit b)
    if c.toNat < 128 && isUnreserved c then c :: normalizeOctets rest
    else '%' :: a.toUpper :: b.toUpper :: normalizeOctets rest
  | c :: rest => c :: normalizeOctets rest
  | [] => []

/-- Writes the letters of a host small; octets keep their capitals. -/
def lowerHost : List Char → List Char
  | '%' :: a :: b :: rest => '%' :: a :: b :: lowerHost rest
  | c :: rest => c.toLower :: lowerHost rest
  | [] => []

/-- The parts of a path between its slashes. -/
def segments (path : List Char) : List (List Char) := path.splitOn '/'

/-- Puts segments together again. -/
def joinSegments (parts : List (List Char)) : List Char := ['/'].intercalate parts

/-- Takes out dot segments: one dot is dropped, two dots drop the segment before them.  A path
that ends in dots ends in a slash instead. -/
def removeDots (path : List Char) : List Char :=
  match segments path with
  | [] => []
  | first :: parts =>
    let kept := parts.foldl (fun kept part =>
      if part = ['.'] then kept
      else if part = ['.', '.'] then kept.drop 1
      else part :: kept) []
    let open_ := match parts.getLast? with
      | some last => last = ['.'] || last = ['.', '.']
      | none => false
    joinSegments (first :: (if open_ then [] :: kept else kept).reverse)

/-- The normal form of a host, perhaps with a port: small letters, and in brackets the normal form
of the address. -/
def normalizeHost (host : List Char) : List Char :=
  match host with
  | '[' :: s =>
    match readAddress s with
    | (some groups, rest) => '[' :: (writeAddress groups).toList ++ rest
    | (none, _) => lowerHost host
  | _ => lowerHost host

/-- The normal form of an authority: that of its host, and no colon without a port. -/
def normalizeAuthority (authority : String) : String :=
  let s := normalizeOctets authority.toList
  let user := s.takeWhile (· != '@')
  let (front, host) :=
    if s.contains '@' then (user ++ ['@'], s.drop (user.length + 1)) else ([], s)
  let host := if host.getLast? = some ':' then host.dropLast else host
  String.ofList (front ++ normalizeHost host)

/-- Applies the decoding of octets to a component. -/
def normalizeText (s : String) : String := String.ofList (normalizeOctets s.toList)

/-- The normal form of an identifier. -/
def normalize (u : Uri) : Uri where
  scheme := u.scheme.map String.toLower
  authority := u.authority.map normalizeAuthority
  path :=
    let path := normalizeOctets u.path.toList
    let path :=
      if u.scheme.isSome && path.head? = some '/' then removeDots path else path
    String.ofList <|
      if u.authority.isNone && path.take 2 = ['/', '/'] then '/' :: '.' :: path else path
  query := u.query.map normalizeText
  fragment := u.fragment.map normalizeText

/-- Why a reference cannot be resolved. -/
inductive ResolveFault where
  /-- The base has a fragment. -/
  | baseWithFragment
  /-- The base has no authority, and its path does not begin with a slash. -/
  | opaqueBase
deriving DecidableEq, Repr, Inhabited

/-- The fault in words. -/
def ResolveFault.message : ResolveFault → String
  | baseWithFragment => "base URI/IRI with fragment"
  | opaqueBase =>
    "relative reference must be empty or start with '#' when resolved against authority-less " ++
      "base URI/IRI with rootless path"

/-- The path of a relative reference behind the path of its base, up to its last slash. -/
def mergePaths (base : Uri) (path : String) : List Char :=
  if base.authority.isSome && base.path = "" then '/' :: path.toList
  else
    let front := (base.path.toList.reverse.dropWhile (· != '/')).reverse
    front ++ path.toList

/-- Resolves a reference against a base. -/
def resolve (base r : Uri) : Except ResolveFault Uri :=
  if base.fragment.isSome then .error .baseWithFragment
  else if r.scheme.isSome then
    .ok { r with path := String.ofList (removeDotsIfRooted r.path.toList) }
  else if base.authority.isNone && base.path.toList.head? != some '/' &&
      (r.authority.isSome || r.path != "" || r.query.isSome) then .error .opaqueBase
  else if r.authority.isSome then
    .ok { r with scheme := base.scheme, path := String.ofList (removeDotsIfRooted r.path.toList) }
  else if r.path = "" then
    .ok { base with query := r.query.or base.query, fragment := r.fragment }
  else
    let path := if r.path.toList.head? = some '/' then r.path.toList else mergePaths base r.path
    .ok { base with path := String.ofList (removeDots path), query := r.query,
                    fragment := r.fragment }
where
  /-- Takes out dot segments of a path that begins with a slash. -/
  removeDotsIfRooted (path : List Char) : List Char :=
    if path.head? = some '/' then removeDots path else path

end ConfigCheck.Uri
