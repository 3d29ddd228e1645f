import ReleaseLag.Connection.Address
import ReleaseLag.Connection.Percent

/-!
# `ReleaseLag.Connection.Url`: what a URL says of a connection

`Url.parse` takes a URL apart as far as a connection needs it: the host, the
user and the password, and the query. The schemes of the web and of files
have rules of their own on slashes and hosts. Every other scheme has a host
only after two slashes, and nearly any text can be one.

Letters of a host beyond ASCII are taken as they are.
-/

set_option autoImplicit false

namespace ReleaseLag.Connection

/-- The parts of a URL that a connection is made from. Its query is still in
the form it was written in. -/
structure Url where
  host : Option Text
  user : Text
  password : Text
  query : Text
  deriving DecidableEq, Repr

namespace Url

/-- Why a text is no URL. -/
inductive Fault
  | noScheme
  | emptyHost
  | port
  | shortAddress
  | longAddress
  | hostCharacter
  | internationalName
  deriving DecidableEq, Repr

def Fault.message : Fault → String
  | noScheme => "relative URL without a base"
  | emptyHost => "empty host"
  | port => "invalid port number"
  | shortAddress => "invalid IPv4 address"
  | longAddress => "invalid IPv6 address"
  | hostCharacter => "invalid domain character"
  | internationalName => "invalid international domain name"

/-! ### Schemes -/

/-- The kinds of scheme whose rules differ. -/
inductive Kind
  | web
  | file
  | other
  deriving DecidableEq, Repr

/-- The schemes with the rules of the web. -/
def webSchemes : List Text :=
  ["http", "https", "ws", "wss", "ftp"].map String.toList

/-- The kind of a scheme, in either case. -/
def Kind.ofScheme (scheme : Text) : Kind :=
  let name := scheme.map Char.toLower
  if name = "file".toList then file
  else if webSchemes.contains name then web
  else other

/-- The characters of a scheme after its first letter. -/
def isSchemeChar (c : Char) : Bool :=
  c.isAlphanum || c = '+' || c = '-' || c = '.'

/-- The characters that are passed over at both ends of a URL. -/
def isEdge (c : Char) : Bool :=
  c.toNat ≤ 0x20

/-- A URL without controls and spaces at its ends, and without tabs and line
breaks anywhere. -/
def clean (s : Text) : Text :=
  ((s.dropWhile isEdge).reverse.dropWhile isEdge).reverse.filter fun c =>
    c != '\t' && c != '\n' && c != '\r'

/-- The scheme before the first colon, and what follows the colon. -/
def scheme? : Text → Option (Text × Text)
  | [] => none
  | c :: rest =>
    match rest.dropWhile isSchemeChar with
    | ':' :: after => if c.isAlpha then some (c :: rest.takeWhile isSchemeChar, after) else none
    | _ => none

/-! ### Hosts -/

/-- What stands between brackets is an address of 128 bits. -/
def bracketed (s : Text) : Except Fault Text :=
  if s.getLast? = some ']' && Address.isGrouped (s.drop 1).dropLast then .ok s
  else .error .longAddress

/-- What no host may have. -/
def isBarred (c : Char) : Bool :=
  "\x00\t\n\r #/:<>?@[\\]^|".toList.contains c

/-- The host of a scheme without rules of its own. -/
def plainHost (s : Text) : Except Fault Text :=
  if s.head? = some '[' then bracketed s
  else if s.any isBarred then .error .hostCharacter
  else .ok s

/-- What no name on the web may have. -/
def isBarredOnWeb (c : Char) : Bool :=
  isBarred c || c.toNat < 0x20 || c = '\x7f' || c = '%'

/-- The host of the web: a name in lower case or an address. -/
def webHost (s : Text) : Except Fault Text :=
  if s.head? = some '[' then bracketed s
  else
    match Percent.text s with
    | .error _ => .error .internationalName
    | .ok decoded =>
      let name := decoded.map Char.toLower
      if name.any isBarredOnWeb then .error .internationalName
      else if !Address.endsInNumber name then .ok name
      else
        match Address.lenient? name with
        | some n => .ok (Address.dotted n)
        | none => .error .shortAddress

/-- The host of a file. A drive letter in its place is none. -/
def fileHost (s : Text) : Except Fault (Option Text) :=
  match s with
  | [] => .ok none
  | [c, mark] =>
    if c.isAlpha && (mark = ':' || mark = '|') then .ok none else (webHost s).map some
  | _ => (webHost s).map some

/-! ### The part with the host -/

/-- What ends the part with the host. -/
def endsAuthority (kind : Kind) (c : Char) : Bool :=
  c = '/' || c = '?' || c = '#' || (c = '\\' && kind != .other)

def isSlash (c : Char) : Bool :=
  c = '/' || c = '\\'

/-- What begins with the host, if there can be one. Any number of slashes may
stand before a host of the web. -/
def authority? : Kind → Text → Option Text
  | .web, s => some (s.dropWhile isSlash)
  | .file, a :: b :: s => if isSlash a && isSlash b then some s else none
  | .file, _ => none
  | .other, '/' :: '/' :: s => some s
  | .other, _ => none

/-- A part with an at sign in two: what stands before the last one and what
follows it. -/
def userInfo? (s : Text) : Option (Text × Text) :=
  let place := (s.reverse.takeWhile (· != '@')).reverse
  if place.length = s.length then none
  else some (s.take (s.length - place.length - 1), place)

/-- The host up to the first colon that is not in brackets, and what follows
from there. -/
def cutHost (inBrackets : Bool) : Text → Text × Text
  | [] => ([], [])
  | c :: rest =>
    if c = ':' && !inBrackets then ([], c :: rest)
    else
      let (host, after) := cutHost (c = '[' || (inBrackets && c != ']')) rest
      (c :: host, after)

/-- A port has 16 bits at most. -/
def checkPort (s : Text) : Except Fault Unit :=
  let follows :=
    match s.dropWhile Char.isDigit with
    | [] => true
    | c :: _ => c = '\\'
  if Decimal.value (s.takeWhile Char.isDigit) ≤ 65535 && follows then .ok () else .error .port

/-- The host of a host and a port. It may be empty only where nothing else is
said and the scheme has no rules of its own. -/
def hostOf (kind : Kind) (hasUser : Bool) (s : Text) : Except Fault (Option Text) := do
  match cutHost false s with
  | ([], after) =>
    if kind = .web || hasUser || !after.isEmpty then throw .emptyHost
    return none
  | (written, after) =>
    let host ← if kind = .web then webHost written else plainHost written
    checkPort (after.drop 1)
    return some host

/-- The URL whose part with the host begins a text. An at sign with nothing on
either side stands for nobody only at the end. -/
def ofAuthority (kind : Kind) (query s : Text) : Except Fault Url := do
  let authority := s.takeWhile (!endsAuthority kind ·)
  if kind = .file then
    return { host := ← fileHost authority, user := [], password := [], query }
  let (info, place) := (userInfo? authority).getD ([], authority)
  if authority = ['@'] ∧ authority.length < s.length then throw .emptyHost
  let user := Text.upTo ':' info
  let password := Text.behind ':' info
  let host ← hostOf kind (!user.isEmpty || !password.isEmpty) place
  return { host, user, password, query }

/-- The URL that a text is. -/
def parse (s : Text) : Except Fault Url :=
  match scheme? (clean s) with
  | none => .error .noScheme
  | some (scheme, rest) =>
    let kind := Kind.ofScheme scheme
    let query := Text.behind '?' (Text.upTo '#' rest)
    match authority? kind rest with
    | some s => ofAuthority kind query s
    | none => .ok { host := none, user := [], password := [], query }

end Url

end ReleaseLag.Connection
