import PromptStudio.Http.Host
import PromptStudio.Json.Printer

/-!
# Addresses

An address has a scheme, an authority, a path, a query and a fragment, most of which may be missing. `Url.ofText`
brings an address into its normal form, in which all of it is ASCII: scheme and host are in lower case, the port of
the scheme is left out, steps of the path that lead nowhere are gone, and what may not stand in a part is
percent-encoded.
-/

namespace PromptStudio

/-- An address in its normal form. -/
structure Url where
  scheme : List Char
  userinfo : List Char
  host : List Char
  port : Option Int
  path : List Char
  query : Option (List Char)
  fragment : Option (List Char)
  deriving DecidableEq, Repr

/-- The parts of an address as they were written. -/
structure UrlParts where
  scheme : List Char
  authority : Text
  path : Text
  query : Option Text
  fragment : Option Text

structure AuthorityParts where
  userinfo : Text
  host : Text
  port : Text

namespace UrlParts

/-- Cuts a text at the first code point of a kind: what stands before it, and the rest with it. -/
def cutAt (stop : CodePoint → Bool) (t : Text) : Text × Text :=
  (t.takeWhile (!stop ·), t.dropWhile (!stop ·))

def isOneOf (chars : String) (p : CodePoint) : Bool :=
  p.toChar?.any chars.toList.contains

/-- Whether a text is a scheme; it may be empty. -/
def isScheme (cs : List Char) : Bool :=
  match cs with
  | [] => true
  | c :: rest => c.isAlpha && rest.all fun c => c.isAlphanum || c == '+' || c == '.' || c == '-'

def cutScheme (t : Text) : List Char × Text :=
  match cutAt (isOneOf ":") t with
  | (before, _ :: rest) =>
    match before.toChars? with
    | some cs => if isScheme cs then (cs, rest) else ([], t)
    | none => ([], t)
  | _ => ([], t)

/-- The authority of an address, behind two slashes, and what follows it. -/
def cutAuthority (t : Text) : Text × Text :=
  match t with
  | .char '/' :: .char '/' :: rest => cutAt (isOneOf "/?#") rest
  | _ => ([], t)

def behind? (mark : Char) (t : Text) : Option Text :=
  match t with
  | p :: rest => if p = .char mark then some rest else none
  | [] => none

def ofText (t : Text) : UrlParts :=
  let (scheme, rest) := cutScheme t
  let (authority, rest) := cutAuthority rest
  let (path, rest) := cutAt (isOneOf "?#") rest
  let (query, rest) := cutAt (isOneOf "#") rest
  { scheme, authority, path, query := behind? '?' query, fragment := behind? '#' rest }

end UrlParts

namespace AuthorityParts

/-- The part of a text up to the last code point that is a character, and what follows. -/
def cutAtLast (c : Char) (t : Text) : Option (Text × Text) :=
  let tail := t.reverse.takeWhile (· != .char c)
  if tail.length < t.length then some (t.take (t.length - tail.length - 1), tail.reverse) else none

/-- A host and what follows it: a host between brackets goes to the last bracket. -/
def cutHost (t : Text) : Text × Text :=
  match UrlParts.behind? '[' t, cutAtLast ']' t with
  | some _, some (before, rest) => (before ++ [.char ']'], rest)
  | _, _ => UrlParts.cutAt (UrlParts.isOneOf ":@") t

def ofText (t : Text) : AuthorityParts :=
  let (userinfo, rest) := (cutAtLast '@' t).getD ([], t)
  let (host, rest) := cutHost rest
  { userinfo, host, port := (UrlParts.behind? ':' rest).getD rest }

end AuthorityParts

namespace Url

def maxLength : Nat := 65536

def isControl (p : CodePoint) : Bool :=
  p.toNat < 0x20 || p.toNat == 0x7F

def isPrintingBut (chars : String) (c : Char) : Bool :=
  0x20 ≤ c.toNat && c.toNat < 0x7F && !chars.toList.contains c

/-- What stays as it is in a user's name and password. -/
def isUserinfoChar : Char → Bool :=
  isPrintingBut " \"#<>?`\x7b\x7d/;=@[\\]^|"

def isPathChar : Char → Bool :=
  isPrintingBut " \"#<>?`\x7b\x7d"

def isQueryChar : Char → Bool :=
  isPrintingBut " \"#<>"

def isFragmentChar : Char → Bool :=
  isPrintingBut " \"<>`"

def quote (keep : Char → Bool) (t : Text) : Except Fault (List Char) :=
  match Utf8.encode? t with
  | some bytes => .ok (Percent.encode keep bytes)
  | none => .error .unencodableText

def schemePort? (scheme : List Char) : Option Int :=
  [("ftp", 21), ("http", 80), ("https", 443), ("ws", 80), ("wss", 443)].lookup (String.ofList scheme)

/-- The port of an address, unless it is the one of the scheme. -/
def portOf (scheme : List Char) (t : Text) : Except Fault (Option Int) :=
  if t.isEmpty then .ok none
  else
    match t.toChars?.bind Integer.ofChars? with
    | some n => .ok (if schemePort? scheme = some n then none else some n)
    | none => .error .malformedAddress

/-- One step of a path behind those that stay; a step up takes the last of them away. -/
def walk (steps : List (List Char)) (next : List Char) : List (List Char) :=
  if next = ['.'] then steps
  else if next = ['.', '.'] then (if steps = [[]] then steps else steps.dropLast)
  else steps ++ [next]

/-- A path without the steps that lead nowhere. -/
def plainPath (path : List Char) : List Char :=
  let steps := path.splitOn '/'
  if steps.contains ['.'] ∨ steps.contains ['.', '.'] then ['/'].intercalate (steps.foldl walk []) else path

/-- Whether a path can stand where it is: behind an authority, behind nothing at all, or behind a scheme. -/
def fitsPath (scheme : List Char) (isLocated : Bool) (path : List Char) : Bool :=
  if isLocated then path.isEmpty || path.head? == some '/'
  else !scheme.isEmpty || !(path.take 2 == ['/', '/'] || path.head? == some ':')

def ofText (t : Text) : Except Fault Url := do
  if maxLength < t.length ∨ t.any isControl then throw .malformedAddress
  let parts := UrlParts.ofText t
  let authority := AuthorityParts.ofText parts.authority
  let userinfo ← quote isUserinfoChar authority.userinfo
  let host ← Host.ofText authority.host
  let port ← portOf parts.scheme authority.port
  let isLocated := !userinfo.isEmpty || !host.isEmpty || port.isSome
  -- the places of slashes, points and colons are the same in the path as it was written
  let path ← quote isPathChar parts.path
  if !fitsPath parts.scheme isLocated path then throw .malformedAddress
  return {
    scheme := parts.scheme.map Char.toLower
    userinfo, host, port
    path := if !parts.scheme.isEmpty || isLocated then plainPath path else path
    query := ← parts.query.mapM (quote isQueryChar)
    fragment := ← parts.fragment.mapM (quote isFragmentChar) }

/-- The authority of an address; an address of sixteen bytes stands between brackets. -/
def authority (u : Url) : List Char :=
  let user := if u.userinfo.isEmpty then [] else u.userinfo ++ ['@']
  let host := if u.host.contains ':' then '[' :: (u.host ++ [']']) else u.host
  user ++ host ++ ((u.port.map fun n => ':' :: Json.intText n).getD [])

def marked (mark : Char) (part : Option (List Char)) : List Char :=
  (part.map (mark :: ·)).getD []

def toChars (u : Url) : List Char :=
  let scheme := if u.scheme.isEmpty then [] else u.scheme ++ [':']
  let authority := if u.authority.isEmpty then [] else '/' :: '/' :: u.authority
  scheme ++ authority ++ u.path ++ marked '?' u.query ++ marked '#' u.fragment

/-- Whether an address tells by itself where it leads. -/
def isAbsolute (u : Url) : Bool :=
  !u.scheme.isEmpty && !u.host.isEmpty

def rootPath (u : Url) : List Char :=
  if u.isAbsolute then (if u.path.isEmpty then ['/'] else u.path) else '/' :: u.path.dropWhile (· == '/')

/-- The address under which a request is sent: one that is not absolute keeps its path and its query. -/
def sent (u : Url) : Url :=
  if u.isAbsolute then u
  else
    { scheme := [], userinfo := [], host := [], port := none, path := u.rootPath, query := u.query, fragment := none }

end Url

end PromptStudio
