import SchemaForge.Network.Host

/-!
# URLs

An absolute URL is split into its scheme, host, port and path as browsers do it: blanks at the
ends and line controls are dropped, web schemes take backslashes for slashes, dot segments are
resolved, and a port equal to the default of the scheme is left out.
-/

namespace SchemaForge

/-- The parts of a URL that filters look at. -/
structure Url where
  scheme : String
  /-- Canonical text; empty where there is no host. -/
  host : String
  /-- Explicit port other than the default. -/
  port : Option UInt16
  path : String
  deriving DecidableEq

namespace Url

/-- The default ports of the web schemes. Local files have a web scheme and no port. -/
def webSchemes : List (String × Option UInt16) :=
  [("http", some 80), ("https", some 443), ("ws", some 80), ("wss", some 443), ("ftp", some 21),
    ("file", none)]

def isWeb (scheme : String) : Bool := (webSchemes.lookup scheme).isSome

def defaultPort (scheme : String) : Option UInt16 := (webSchemes.lookup scheme).join

/-- The explicit port, or else the default of the scheme. -/
def effectivePort (u : Url) : Option UInt16 :=
  match u.port with
  | some p => some p
  | none => defaultPort u.scheme

/-- Drop controls and spaces at the ends, and tabs and line breaks everywhere. -/
def clean (cs : List Char) : List Char :=
  let outer (c : Char) : Bool := c.toNat ≤ 0x20
  (Text.dropEndWhile outer (cs.dropWhile outer)).filter fun c =>
    !(c = '\t' || c = '\n' || c = '\r')

def isAlpha (c : Char) : Bool := ('a' ≤ c && c ≤ 'z') || ('A' ≤ c && c ≤ 'Z')

/-- The lower-case scheme and what follows its colon. -/
def splitScheme? (cs : List Char) : Option (String × List Char) :=
  match Text.splitFirst ':' cs with
  | some (first :: more, rest) =>
    let inScheme (c : Char) : Bool :=
      isAlpha c || Ipv4.isDigit c || c = '+' || c = '-' || c = '.'
    if isAlpha first && more.all inScheme then
      some (String.ofList ((first :: more).map Char.toLower), rest)
    else none
  | _ => none

/-- Whether a character separates path segments. -/
def isSlash (web : Bool) (c : Char) : Bool := c = '/' || (web && c = '\\')

/-- What comes before the query and the fragment. -/
def beforeQuery (cs : List Char) : List Char := cs.takeWhile fun c => !(c = '?' || c = '#')

/-! ## Paths -/

/-- The characters that are encoded in a path segment. -/
def isEncodedInPath (c : Char) : Bool :=
  Host.isControl c || " \"#<>?`\x7b\x7d".toList.contains c

/-- The segments of a path. -/
def segments (web : Bool) : List Char → List (List Char)
  | [] => [[]]
  | c :: rest =>
    if isSlash web c then [] :: segments web rest
    else
      match segments web rest with
      | [] => [[c]]
      | s :: ss => (c :: s) :: ss

/-- A segment in which an encoded dot is a dot. -/
def plainDots : List Char → List Char
  | '%' :: '2' :: 'e' :: rest => '.' :: plainDots rest
  | '%' :: '2' :: 'E' :: rest => '.' :: plainDots rest
  | c :: rest => c :: plainDots rest
  | [] => []

def isSingleDot (s : List Char) : Bool := plainDots s == ['.']

def isDoubleDot (s : List Char) : Bool := plainDots s == ['.', '.']

/-- A letter and a colon or a bar. -/
def isDriveLetter (s : List Char) : Bool :=
  match s with
  | [c, m] => isAlpha c && (m = ':' || m = '|')
  | _ => false

/-- Remove the last segment, but not the drive of a local file. Segments are kept last first. -/
def shorten (file : Bool) (done : List (List Char)) : List (List Char) :=
  match done with
  | [] => []
  | [s] => if file && isDriveLetter s && s.getLast? == some ':' then [s] else []
  | _ :: rest => rest

/-- Resolve dot segments. Segments are kept last first; one that ends the path and is dotted
leaves an empty segment. -/
def resolve (file : Bool) (done : List (List Char)) : List (List Char) → List (List Char)
  | [] => done.reverse
  | s :: rest =>
    let dotted := isSingleDot s || isDoubleDot s
    let kept :=
      if isDoubleDot s then shorten file done
      else if isSingleDot s then done
      else
        let plain :=
          match s, file && done.isEmpty && isDriveLetter s with
          | c :: _, true => [c, ':']
          | s, _ => s
        Host.percentEncode isEncodedInPath plain :: done
    let closed := if dotted && rest.isEmpty then [] :: kept else kept
    resolve file closed rest

/-- The text of a path given after its first slash. -/
def pathText (web file : Bool) (cs : List Char) : List Char :=
  (resolve file [] (segments web cs)).flatMap ('/' :: ·)

/-- The path that starts where a host ended. -/
def pathAfterHost (web file : Bool) (cs : List Char) : List Char :=
  match cs with
  | [] => if web then ['/'] else []
  | c :: rest => if isSlash web c then pathText web file rest else pathText web file (c :: rest)

/-! ## Authorities -/

/-- What follows the last `@`, and whether there is one. -/
def dropUserinfo (cs : List Char) : Bool × List Char :=
  let host := (cs.reverse.takeWhile (· ≠ '@')).reverse
  (cs.contains '@', host)

/-- The two sides of the colon before the port, which is not inside brackets. -/
def splitPort (bracketed : Bool) : List Char → List Char × Option (List Char)
  | [] => ([], none)
  | c :: rest =>
    if c = ':' && !bracketed then ([], some rest)
    else
      let inside := if c = '[' then true else if c = ']' then false else bracketed
      let (host, port) := splitPort inside rest
      (c :: host, port)

/-- A port number; the default of the scheme and the empty text are no explicit port. -/
def port? (scheme : String) (ds : List Char) : Option (Option UInt16) :=
  if ds.isEmpty then some none
  else if ds.all Ipv4.isDigit ∧ Ipv4.decimalValue ds ≤ 65535 then
    let n := UInt16.ofNat (Ipv4.decimalValue ds)
    some (if defaultPort scheme = some n then none else some n)
  else none

/-- A URL whose authority and path follow. -/
def ofAuthority? (scheme : String) (cs : List Char) : Option Url := do
  let web := isWeb scheme
  let ends (c : Char) : Bool := isSlash web c || c = '?' || c = '#'
  let authority := cs.takeWhile fun c => !ends c
  let rest := cs.dropWhile fun c => !ends c
  let (hasUser, hostPort) := dropUserinfo authority
  let (host, port) := splitPort false hostPort
  if host.isEmpty && (web || hasUser || port.isSome) then none
  else
    let host ← Host.canonical? web host
    let port ← port? scheme (port.getD [])
    let path := pathAfterHost web false (beforeQuery rest)
    return ⟨scheme, String.ofList host, port, String.ofList path⟩

/-- A local file: the host may be left out, `localhost` is no host, and a drive letter in its
place belongs to the path. -/
def ofFile? (cs : List Char) : Option Url := do
  let make (host path : List Char) : Url :=
    ⟨"file", String.ofList host, none, String.ofList path⟩
  let plain := beforeQuery cs
  match plain with
  | a :: b :: rest =>
    if isSlash true a && isSlash true b then
      let host := rest.takeWhile fun c => !isSlash true c
      let after := rest.dropWhile fun c => !isSlash true c
      if isDriveLetter host then return make [] (pathText true true rest)
      else if host.isEmpty then return make [] (pathAfterHost true true after)
      else
        let name ← Host.canonical? true host
        let shown := if name = "localhost".toList then [] else name
        return make shown (pathAfterHost true true after)
    else if isSlash true a then return make [] (pathText true true (b :: rest))
    else return make [] (pathText true true plain)
  | [a] => return make [] (pathText true true (if isSlash true a then [] else [a]))
  | [] => return make [] ['/']

/-- Split an absolute URL into its parts. -/
def parse? (text : String) : Option Url := do
  let (scheme, rest) ← splitScheme? (clean text.toList)
  if scheme = "file" then ofFile? rest
  else if isWeb scheme then ofAuthority? scheme (rest.dropWhile (isSlash true))
  else
    match rest with
    | '/' :: '/' :: after => ofAuthority? scheme after
    | '/' :: after =>
      return ⟨scheme, "", none, String.ofList (pathText false false (beforeQuery after))⟩
    | _ =>
      let opaquePath := Host.percentEncode Host.isControl (beforeQuery rest)
      return ⟨scheme, "", none, String.ofList opaquePath⟩

end Url

end SchemaForge
