import ReleaseLag.Connection.Url
import ReleaseLag.Numeral
import ReleaseLag.Text.Quoted

/-!
# `ReleaseLag.Connection.Options`: what a database URL asks for

The host, the user and the password of the URL are looked at first, then the
parameters of its query in order. A parameter may stand in for the host, and
one that is not known is passed over. Only what decides where the connection
leads is kept.
-/

set_option autoImplicit false

namespace ReleaseLag.Connection

/-- The host that is asked for, and whether a socket in the file system is
asked for instead. -/
structure Options where
  host : Text
  hasSocket : Bool
  deriving DecidableEq, Repr

namespace Options

/-- Why a text asks for no connection. -/
inductive Fault
  | url (fault : Url.Fault)
  | encoding (fault : Text.Utf8.Fault)
  | numeral (fault : Numeral.Fault)
  | address
  | sslMode (value : Text)
  deriving DecidableEq, Repr

/-- What is written before the reason of every fault. -/
def faultStem : Text :=
  "error with configuration: ".toList

/-- The text of a fault. The reason of an unknown mode is a fault of its own,
so that it is told twice that there is one. -/
def Fault.message : Fault → Text
  | url fault => faultStem ++ fault.message.toList
  | encoding fault => faultStem ++ fault.message.toList
  | numeral fault => faultStem ++ fault.message.toList
  | address => faultStem ++ "invalid IP address syntax".toList
  | sslMode value =>
    faultStem ++ faultStem ++ "unknown value ".toList ++ Text.quoted value
      ++ " for `ssl_mode`".toList

/-- The options where nothing is asked for. -/
def default : Options where
  host := "localhost".toList
  hasSocket := false

/-- The options with a host of the URL. One that begins with a slash behind
its percent signs is a socket. -/
def withHost (o : Options) (host : Text) : Except Fault Options := do
  if (Percent.bytes host).head? = some 0x2F then
    let _ ← (Percent.text host).mapError .encoding
    return { o with hasSocket := true }
  else
    return { o with host }

/-- The modes of encryption. -/
def sslModes : List Text :=
  ["disable", "allow", "prefer", "require", "verify-ca", "verify-full"].map String.toList

/-- The options with a parameter of the query. -/
def withParameter (o : Options) (key value : Text) : Except Fault Options :=
  if key = "sslmode".toList ∨ key = "ssl-mode".toList then
    if sslModes.contains (value.map Char.toLower) then .ok o else .error (.sslMode value)
  else if key = "statement-cache-capacity".toList then
    ((Numeral.unsigned 18446744073709551615 value).mapError .numeral).map fun _ => o
  else if key = "port".toList then
    ((Numeral.unsigned 65535 value).mapError .numeral).map fun _ => o
  else if key = "hostaddr".toList then
    if Address.isAddress value then .ok { o with host := value } else .error .address
  else if key = "host".toList then
    .ok (if value.head? = some '/' then { o with hasSocket := true } else { o with host := value })
  else .ok o

/-- The parameters of a query in order. -/
def parameters (query : Text) : List (Text × Text) :=
  ((Text.pieces '&' query).filter fun piece => !piece.isEmpty).map fun piece =>
    (Percent.formText (Text.upTo '=' piece), Percent.formText (Text.behind '=' piece))

/-- What a URL asks for. -/
def ofUrl (url : Url) : Except Fault Options := do
  let o ←
    match url.host with
    | some host => default.withHost host
    | none => pure default
  let _ ← (Percent.text url.user).mapError .encoding
  let _ ← (Percent.text url.password).mapError .encoding
  (parameters url.query).foldlM (fun o (key, value) => o.withParameter key value) o

/-- What a text asks for. -/
def read (s : Text) : Except Fault Options := do
  ofUrl (← (Url.parse s).mapError .url)

/-- Where a connection leads. -/
inductive Target
  | socket
  | address
  | name
  deriving DecidableEq, Repr

def isBracket (c : Char) : Bool :=
  c = '[' || c = ']'

/-- Where a connection with the options leads. Brackets around an address are
passed over, and the machine itself needs no name to be looked up. -/
def target (o : Options) : Target :=
  let host := ((o.host.dropWhile isBracket).reverse.dropWhile isBracket).reverse
  if o.hasSocket then .socket
  else if Address.isAddress host || host = "localhost".toList then .address
  else .name

end Options

end ReleaseLag.Connection
