import MediaOverQuic.Endpoint.Host
import MediaOverQuic.Endpoint.Path
import MediaOverQuic.Error

/-!
# Endpoints

Where to connect to, given by a URI. The scheme says how: `moqt` for a direct connection, `https`
for one on top of WebTransport, where the outer protocol carries path and authority already. The
rest is read by the rules for URIs on the web, which are lenient about slashes, case and dots.
-/
namespace MediaOverQuic

/-- How the connection is made. -/
inductive TransportKind
  | quic
  | webTransport
  deriving DecidableEq, Repr

namespace TransportKind

/-- Whether the connection is layered on top of another protocol. -/
def isOverlay : TransportKind → Bool
  | quic => false
  | webTransport => true

def name : TransportKind → String
  | quic => "Quic"
  | webTransport => "WebTransport"

end TransportKind

/-- Why a text names no endpoint. -/
inductive EndpointFault
  | relative
  | authority (fault : AuthorityFault)
  | unsupportedScheme (scheme uri : String)
  | noHost (uri : String)
  deriving DecidableEq, Repr

namespace EndpointFault

def text : EndpointFault → String
  | relative => "relative URL without a base"
  | authority fault => fault.text
  | unsupportedScheme scheme uri => "unsupported scheme \"" ++ scheme ++ "\" in " ++ uri
  | noHost uri => "no host in " ++ uri

end EndpointFault

/-- How the part of a URI behind its scheme is read. -/
inductive UriSyntax
  /-- A host always follows, however many slashes there are, and backslashes are slashes. -/
  | web
  /-- As `web`, but a host only stands between two slashes and the path. -/
  | file
  /-- Two slashes announce a host; without them there is none. -/
  | generic
  deriving DecidableEq, Repr

namespace UriSyntax

def ofScheme (scheme : String) : UriSyntax :=
  if scheme ∈ ["http", "https", "ws", "wss", "ftp"] then web
  else if scheme = "file" then file
  else generic

/-- Whether a character separates segments of a path. -/
def isSlash (x : UriSyntax) (c : Char) : Bool := c = '/' || (c = '\\' && x ≠ generic)

/-- Whether a character ends the authority. -/
def endsAuthority (x : UriSyntax) (c : Char) : Bool := x.isSlash c || c = '?' || c = '#'

end UriSyntax

/-- The part of a URI that names whom to connect to, and what stands behind it. -/
structure Authority where
  host : Option String
  portNumber : Option Nat
  rest : List Char
  deriving DecidableEq, Repr

namespace Authority

def none (rest : List Char) : Authority := ⟨.none, .none, rest⟩

/-- Takes off everything up to the last `@` of the authority, and tells whether it named a user or
a password. -/
def dropUser (x : UriSyntax) (cs : List Char) : Except AuthorityFault (Bool × List Char) :=
  let inside := cs.takeWhile (!x.endsAuthority ·)
  let behind := cs.dropWhile (!x.endsAuthority ·)
  match inside.splitOn '@' with
  | [_] => .ok (false, cs)
  | parts =>
    let host := parts.getLast?.getD []
    let user := parts.dropLast
    if user = [[]] ∧ host = [] ∧ behind ≠ [] then .error .emptyHost
    else .ok (user ≠ [[]] ∧ user ≠ [[':']], host ++ behind)

/-- The characters of the host in front, and the rest. A colon in brackets does not end it. -/
def splitHost (x : UriSyntax) : Bool → List Char → List Char × List Char
  | _, [] => ([], [])
  | bracketed, c :: rest =>
    if x.endsAuthority c ∨ (c = ':' ∧ !bracketed) then ([], c :: rest)
    else
      let (host, behind) := splitHost x ((bracketed || c = '[') && c ≠ ']') rest
      (c :: host, behind)

/-- Reads the number behind the colon of a host, which may be missing. -/
def portNumber? (cs : List Char) : Except AuthorityFault (Option Nat × List Char) :=
  let digits := cs.takeWhile Char.isDigit
  let rest := cs.dropWhile Char.isDigit
  match numberIn 10 digits, rest.head?.all (· ∈ ['/', '\\', '?', '#']) with
  | some n, true =>
    if 65535 < n then .error .portNumber
    else .ok (if digits = [] then .none else some n, rest)
  | _, _ => .error .portNumber

/-- Reads the host in front and the number behind it. -/
def hostAndNumber (x : UriSyntax) (named : Bool) (cs : List Char) :
    Except AuthorityFault Authority := do
  let (host, rest) := splitHost x false cs
  let name ← if x = .generic then Host.opaqueName host
    else if host = [] then .error .emptyHost
    else Host.domainName host
  match rest with
  | ':' :: behind =>
    if name = "" then .error .emptyHost
    else
      let (number, rest) ← portNumber? behind
      return ⟨some name, number, rest⟩
  | _ =>
    if name ≠ "" then return ⟨some name, .none, rest⟩
    else if named then .error .emptyHost
    else return .none rest

/-- Reads the authority behind the slashes that announce it. -/
def behindSlashes (x : UriSyntax) (cs : List Char) : Except AuthorityFault Authority := do
  let (named, rest) ← dropUser x cs
  hostAndNumber x named rest

/-- Reads the host of a file, which has neither a user nor a number. -/
def ofFile (cs : List Char) : Except AuthorityFault Authority :=
  let host := cs.takeWhile (!UriSyntax.file.endsAuthority ·)
  let rest := cs.dropWhile (!UriSyntax.file.endsAuthority ·)
  if host = [] ∨ Path.isDrive host then .ok (.none cs)
  else (Host.domainName host).map fun name => ⟨some name, .none, rest⟩

/-- Reads the authority of a URI, if it has one, from what stands behind the scheme. -/
def parse (x : UriSyntax) (cs : List Char) : Except AuthorityFault Authority :=
  match x with
  | .web => behindSlashes .web (cs.dropWhile UriSyntax.web.isSlash)
  | .file =>
    match cs with
    | a :: b :: rest =>
      if UriSyntax.file.isSlash a && UriSyntax.file.isSlash b then ofFile rest else .ok (.none cs)
    | _ => .ok (.none cs)
  | .generic =>
    match cs with
    | '/' :: '/' :: rest => behindSlashes .generic rest
    | _ => .ok (.none cs)

end Authority

structure Endpoint where
  kind : TransportKind
  host : String
  portNumber : Nat
  path : String
  deriving DecidableEq, Repr

namespace Endpoint

def defaultPortNumber : Nat := 443

/-- The host and the number, as the authority parameter has them. -/
def authority (e : Endpoint) : String := e.host ++ ":" ++ toString e.portNumber

/-- The characters of a URI that count: none of the spaces and controls around it, no tabs and line
ends in it. -/
def significant (uri : String) : List Char :=
  let cs := uri.toList.dropWhile (· ≤ ' ')
  (cs.reverse.dropWhile (· ≤ ' ')).reverse.filter (· ∉ ['\t', '\n', '\r'])

def isSchemeCharacter (c : Char) : Bool := c.isAlphanum || c ∈ ['+', '-', '.']

/-- The scheme in lower case, and what stands behind its colon. -/
def splitScheme? (cs : List Char) : Option (String × List Char) :=
  let scheme := cs.takeWhile isSchemeCharacter
  match scheme, cs.dropWhile isSchemeCharacter with
  | first :: _, ':' :: rest =>
    if first.isAlpha then some (String.ofList (scheme.map Char.toLower), rest) else none
  | _, _ => none

/-- The characters up to a query or a fragment. -/
def beforeQuery (cs : List Char) : List Char := cs.takeWhile fun c => c ≠ '?' && c ≠ '#'

/-- The path that `cs` starts with, in which one slash may be missing in front. On the web a path is
never empty. -/
def pathOf (x : UriSyntax) (cs : List Char) : String :=
  match beforeQuery cs with
  | [] => if x = .generic then "" else "/"
  | c :: rest =>
    Path.text ((if x.isSlash c then rest else c :: rest).splitOnP x.isSlash)

/-- The transport that a scheme stands for. -/
def kindOf? (scheme : String) : Option TransportKind :=
  if scheme = "moqt" then some .quic else if scheme = "https" then some .webTransport else none

/-- The endpoint that a URI names. -/
def parse (uri : String) : Except EndpointFault Endpoint :=
  match splitScheme? (significant uri) with
  | none => .error .relative
  | some (scheme, cs) =>
    let x := UriSyntax.ofScheme scheme
    match Authority.parse x cs, kindOf? scheme with
    | .error fault, _ => .error (.authority fault)
    | .ok _, none => .error (.unsupportedScheme scheme uri)
    | .ok ⟨none, _, _⟩, some _ => .error (.noHost uri)
    | .ok ⟨some host, number, rest⟩, some kind =>
      .ok ⟨kind, host, number.getD defaultPortNumber, pathOf x rest⟩

end Endpoint

end MediaOverQuic
