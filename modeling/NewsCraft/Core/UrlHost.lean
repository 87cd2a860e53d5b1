import Mathlib.Data.List.DropRight
import NewsCraft.Core.IpAddress
import NewsCraft.Core.UrlSplit

/-!
# The host and the port of a URL

What `urlsplit` reads out of a network location, and what it refuses: brackets around
anything but an IPv6 address, and characters that normalization turns into delimiters.
-/

namespace NewsCraft.Urls

open Ip

/-- What stands after the last separator; `str.rpartition`. -/
def afterLast (separator : Char) (text : Text) : Text := text.rtakeWhile (· ≠ separator)

/-- `_hostinfo`: the host and the text of the port. -/
def hostInfo (netloc : Text) : Text × Option Text :=
  let hostinfo := afterLast '@' netloc
  let (hostname, port) :=
    if '[' ∈ hostinfo then
      let bracketed := after '[' hostinfo
      (before ']' bracketed, after ':' (after ']' bracketed))
    else
      (before ':' hostinfo, after ':' hostinfo)
  (hostname, if port = [] then none else some port)

/-- `username` or `password` is given. -/
def hasUserinfo (netloc : Text) : Bool := netloc.contains '@'

/-- `port`; an error where it raises `ValueError`. -/
def port (netloc : Text) : Except Unit (Option Nat) :=
  match (hostInfo netloc).2 with
  | none => .ok none
  | some text =>
    match (decimal text).filter (· ≤ 65535) with
    | some port => .ok (some port)
    | none => .error ()

structure TextEnv where
  /-- `str.lower`. -/
  lower : Text → Text
  /-- `unicodedata.normalize("NFKC", text)`. -/
  nfkc : Text → Text

def TextEnv.ascii : TextEnv where
  lower text := text.map Char.toLower
  nfkc text := text

variable (E : TextEnv)

/-- `hostname`, empty where there is none: a zone is not put in lower case. -/
def hostname (netloc : Text) : Text :=
  let host := (hostInfo netloc).1
  if '%' ∈ host then E.lower (before '%' host) ++ '%' :: after '%' host else E.lower host

/-! ## What is refused -/

/-- `_check_bracketed_host`. -/
def bracketedHostOk (hostname : Text) : Bool :=
  match hostname with
  | 'v' :: rest =>
    let version := rest.takeWhile fun c => (hexDigitValue c).isSome
    match rest.drop version.length with
    | '.' :: _ :: _ => version ≠ []
    | _ => false
  | _ =>
    match ipAddress hostname with
    | some (.v6 _ _) => true
    | _ => false

/-- `_check_bracketed_netloc`. -/
def bracketedNetlocOk (netloc : Text) : Bool :=
  let hostinfo := afterLast '@' netloc
  if '[' ∈ hostinfo then
    let bracketed := after '[' hostinfo
    let port := after ']' bracketed
    before '[' hostinfo = [] && (port = [] || port.head? = some ':')
      && bracketedHostOk (before ']' bracketed)
  else
    bracketedHostOk (before ':' hostinfo)

/-- `_checknetloc`: what is compared is the text without the delimiters it has. -/
def checkNetloc (netloc : Text) : Bool :=
  let plain := netloc.filter fun c => !(['@', ':', '#', '?'].contains c)
  netloc.all (fun c => c.toNat < 128) || E.nfkc plain = plain
    || (E.nfkc plain).all fun c => !(['/', '?', '#', '@', ':'].contains c)

/-- The checks of `urlsplit`. -/
def netlocOk (netloc : Text) : Bool :=
  netloc.contains '[' == netloc.contains ']' && (!netloc.contains '[' || bracketedNetlocOk netloc)
    && checkNetloc E netloc

end NewsCraft.Urls
