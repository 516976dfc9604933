import ApiBridge.Text.Integer
import ApiBridge.Text.Lowercase
import ApiBridge.Url.Address
import ApiBridge.Url.HostName

/-!
# Addresses of servers

The address of a server holds a host and may hold a user in front of it and a port behind it. An
address that cannot be taken apart in this way is no address.
-/

namespace ApiBridge

/-- Why a text is no address of a server. -/
inductive UrlError
  | malformed
  /-- The host stands for no name. -/
  | badHost (e : Url.LabelError)
  deriving DecidableEq, Repr

/-- The report of a text that is no address. -/
def UrlError.message : UrlError → String
  | .malformed => "Invalid URL"
  | .badHost _ => "Invalid host name"

namespace Url

/-- The most characters of an address. -/
def longest : Nat := 65536

/-- Is the character an ASCII one that is not printed? -/
def isAsciiControl (c : Char) : Bool :=
  c.toNat < 0x20 || c.toNat = 0x7f

/-- The authority of an address: what stands between two slashes and the next slash or mark. -/
def authorityOf (url : List Char) : List Char :=
  (((url.dropWhile (· ≠ ':')).drop 3)).takeWhile fun c => c ≠ '/' && c ≠ '?' && c ≠ '#'

/-- The authority without the user. -/
def withoutUser (authority : List Char) : List Char :=
  (authority.reverse.takeWhile (· ≠ '@')).reverse

/-- The host and what follows it. A host in brackets ends at the last bracket. -/
def splitHost (authority : List Char) : List Char × List Char :=
  let behind := (authority.reverse.takeWhile (· ≠ ']')).reverse
  if authority.head? = some '[' && authority.contains ']' then
    (authority.take (authority.length - behind.length), behind)
  else (authority.takeWhile (· ≠ ':'), authority.dropWhile (· ≠ ':'))

/-- Is what follows a host nothing, or a colon and a port? -/
def isPort (cs : List Char) : Bool :=
  let port := if cs.head? = some ':' then cs.tail else cs
  port.isEmpty || (Text.readInteger? 10 port).isSome

/-- Is the text a host: an address in numbers or a name? In a name in ASCII anything may stand. -/
def isHost (host : List Char) : Bool :=
  if host.isEmpty then true
  else if looksNumeric host then isShortAddress host
  else if host.head? = some '[' && host.getLast? = some ']' then isLongAddress host.tail.dropLast
  else host.all (·.toNat < 0x80) || isHostName (Text.lower (String.ofList host)).toList

/-- Check that a host in ASCII which starts like a foreign name stands for one. -/
def checkForeign (host : List Char) : Except UrlError Unit :=
  let host := host.map Char.toLower
  if foreignStart.isPrefixOf host && host.all (·.toNat < 0x80) then
    (checkAsciiName host).mapError .badHost
  else .ok ()

/-- Check the address of a server. -/
def check (url : String) : Except UrlError Unit :=
  let cs := url.toList
  let (host, behind) := splitHost (withoutUser (authorityOf cs))
  if longest < cs.length || cs.any isAsciiControl || !isHost host || !isPort behind then
    .error .malformed
  else checkForeign host

end Url

end ApiBridge
