import Wallboard.Keyed
import Wallboard.Number.Reading
import Wallboard.Text.Quoted
import Wallboard.Web.Host

/-!
URLs in normal form: scheme and host in lower case, no socket number that is the default of the
scheme, no dot segments in the path, and every character that is out of place percent-encoded.
-/
namespace Wallboard

structure Url where
  scheme : Text
  userinfo : Text
  host : Text
  socket : Option Int
  path : Text
  query : Option Text
  fragment : Option Text
  deriving DecidableEq

namespace Url

inductive Fault
  | tooLong
  | longPart (name : Text)
  | control (char : Char) (index : Nat)
  | socket (written : Text)
  | host (fault : Host.Fault) (written : Text)
  | pathWithoutSlash
  | pathWithTwoSlashes
  | pathWithColon
  deriving DecidableEq

def hostFaultMessage : Host.Fault → Text
  | .narrowAddress => "Invalid IPv4 address: ".toList
  | .wideAddress => "Invalid IPv6 address: ".toList
  | .name => "Invalid IDNA hostname: ".toList

def Fault.message : Fault → Text
  | tooLong => "URL too long".toList
  | longPart name => "URL component ".toList ++ Text.quoted name ++ " too long".toList
  | control char index =>
      "Invalid non-printable ASCII character in URL, ".toList ++ Text.quoted [char] ++
        " at position ".toList ++ Integer.digits index ++ ['.']
  | socket written => "Invalid port: ".toList ++ Text.quoted written
  | host fault written => hostFaultMessage fault ++ Text.quoted written
  | pathWithoutSlash => "For absolute URLs, path must be empty or begin with '/'".toList
  | pathWithTwoSlashes => "Relative URLs cannot have a path starting with '//'".toList
  | pathWithColon => "Relative URLs cannot have a path starting with ':'".toList

structure Parts where
  scheme : Text := []
  authority : Text := []
  path : Text := []
  query : Option Text := none
  fragment : Option Text := none
  deriving DecidableEq

def lengthLimit : Nat := 65536

def isControl (char : Char) : Bool := char.toNat < 0x20 || char.toNat = 0x7f

def checked (text : Text) : Except Fault Unit :=
  if lengthLimit < text.length then .error .tooLong
  else
    match text.find? isControl with
    | some char => .error (.control char (text.idxOf char))
    | none => .ok ()

def isSchemeChar (char : Char) : Bool := char.isAlphanum || ['+', '-', '.'].contains char

def splitScheme (text : Text) : Text × Text :=
  let scheme := text.takeWhile isSchemeChar
  let starts := scheme.head?.all Char.isAlpha
  match text.dropWhile isSchemeChar with
  | ':' :: rest => if starts then (scheme, rest) else ([], text)
  | _ => ([], text)

def splitAuthority : Text → Text × Text
  | '/' :: '/' :: rest =>
      let ends (char : Char) : Bool := ['/', '?', '#'].contains char
      (rest.takeWhile fun char => !ends char, rest.dropWhile fun char => !ends char)
  | rest => ([], rest)

def Parts.ofText (text : Text) : Parts :=
  let (scheme, rest) := splitScheme text
  let (authority, rest) := splitAuthority rest
  let (rest, fragment) := Text.cut '#' rest
  let (path, query) := Text.cut '?' rest
  { scheme, authority, path, query, fragment }

structure Authority where
  userinfo : Text
  host : Text
  socket : Text
  deriving DecidableEq

def cutLast (mark : Char) (text : Text) : Option Text × Text :=
  match Text.cut mark text.reverse with
  | (after, some before) => (some before.reverse, after.reverse)
  | (_, none) => (none, text)

def splitHost (text : Text) : Text × Text :=
  let plain := text.takeWhile (· != ':')
  let (host, rest) :=
    if text.head? = some '[' then
      match cutLast ']' text with
      | (some before, after) => (before ++ [']'], after)
      | (none, _) => (plain, text.drop plain.length)
    else (plain, text.drop plain.length)
  match rest with
  | ':' :: socket => (host, socket)
  | socket => (host, socket)

def Authority.ofText (text : Text) : Authority :=
  let (userinfo, rest) := cutLast '@' text
  let (host, socket) := splitHost rest
  { userinfo := userinfo.getD [], host, socket }

def defaultSocket? (scheme : Text) : Option Int :=
  Keyed.find? scheme
    [("ftp".toList, (21 : Int)), ("http".toList, 80), ("https".toList, 443), ("ws".toList, 80),
     ("wss".toList, 443)]

def looseInteger? (text : Text) : Option Int := do
  let joined ← Binary64.joinDigits? none (Text.strip (text.map Binary64.asciiDigit))
  let numeral ← Integer.Numeral.ofText? joined
  (Integer.read numeral).toOption

def normalSocket (scheme socket : Text) : Except Fault (Option Int) :=
  if socket.isEmpty then .ok none
  else
    match looseInteger? socket with
    | none => .error (.socket socket)
    | some number => .ok (if defaultSocket? scheme = some number then none else some number)

def keepsAllBut (others : List Char) (char : Char) : Bool :=
  0x20 < char.toNat && char.toNat < 0x7f && !others.contains char

def outsideQuery : List Char := ['"', '#', '<', '>']

def outsidePath : List Char := outsideQuery ++ ['?', '`', '\x7b', '\x7d']

def outsideUserinfo : List Char :=
  outsidePath ++ ['/', ':', ';', '=', '@', '[', '\\', ']', '^', '|']

def outsideFragment : List Char := ['"', '<', '>', '`']

/-- Keeps the colon between user name and password, which is the only one that may stand there. -/
def keepsUserinfo (char : Char) : Bool := char == ':' || keepsAllBut outsideUserinfo char

/-- Takes single dots out and, for double dots, the segment before them. `taken` holds the
segments so far in reverse order; the empty segment before the first slash stays. -/
def dropDots (taken : List Text) : List Text → List Text
  | [] => taken.reverse
  | segment :: rest =>
      if segment = ['.'] then dropDots taken rest
      else if segment = ['.', '.'] then
        dropDots (if taken = [[]] then taken else taken.drop 1) rest
      else dropDots (segment :: taken) rest

def normalPath (path : Text) : Text :=
  Text.join ['/'] (dropDots [] (Text.splitAt '/' path))

/-- Which paths may follow an authority, or the lack of one. -/
def checkPath (hasScheme hasAuthority : Bool) (path : Text) : Except Fault Unit :=
  if hasAuthority then
    if path.isEmpty || path.head? = some '/' then .ok () else .error .pathWithoutSlash
  else if hasScheme then .ok ()
  else if Text.startsWith path ['/', '/'] then .error .pathWithTwoSlashes
  else if path.head? = some ':' then .error .pathWithColon
  else .ok ()

def ofParts (parts : Parts) : Except Fault Url := do
  let authority := Authority.ofText parts.authority
  let userinfo := Percent.encode keepsUserinfo authority.userinfo
  let host ← (Host.normal authority.host).mapError (Fault.host · authority.host)
  let socket ← normalSocket parts.scheme authority.socket
  let hasScheme := !parts.scheme.isEmpty
  let hasAuthority := !userinfo.isEmpty || !host.isEmpty || socket.isSome
  checkPath hasScheme hasAuthority parts.path
  let path := if hasScheme || hasAuthority then normalPath parts.path else parts.path
  .ok
    { scheme := parts.scheme.map Char.toLower
      userinfo
      host
      socket
      path := Percent.encode (keepsAllBut outsidePath) path
      query := parts.query.map (Percent.encode (keepsAllBut outsideQuery))
      fragment := parts.fragment.map (Percent.encode (keepsAllBut outsideFragment)) }

def ofText (text : Text) : Except Fault Url := do
  checked text
  ofParts (Parts.ofText text)

def location (url : Url) : Text :=
  (if url.host.contains ':' then '[' :: url.host ++ [']'] else url.host) ++
    ((url.socket.map fun socket => ':' :: Integer.text socket).getD [])

def authority (url : Url) : Text :=
  (if url.userinfo.isEmpty then [] else url.userinfo ++ ['@']) ++ url.location

def text (url : Url) : Text :=
  (if url.scheme.isEmpty then [] else url.scheme ++ [':']) ++
    (if url.authority.isEmpty then [] else '/' :: '/' :: url.authority) ++ url.path ++
    ((url.query.map ('?' :: ·)).getD []) ++ ((url.fragment.map ('#' :: ·)).getD [])

def target (url : Url) : Text :=
  (if url.path.isEmpty then ['/'] else url.path) ++ ((url.query.map ('?' :: ·)).getD [])

def checkLength (name part : Text) : Except Fault Unit :=
  if lengthLimit < part.length then .error (.longPart name) else .ok ()

def withTarget (url : Url) (target : Text) : Except Fault Url := do
  let (path, query) := Text.cut '?' target
  checkLength "scheme".toList url.scheme
  checkLength "authority".toList url.authority
  checkLength "path".toList path
  checkLength "query".toList (query.getD [])
  checkLength "fragment".toList (url.fragment.getD [])
  ofParts { scheme := url.scheme, authority := url.authority, path, query, fragment := url.fragment }

def isAbsolute (url : Url) : Bool := !url.scheme.isEmpty && !url.host.isEmpty

def ofBase (text : Text) : Except Fault Url := do
  let url ← ofText text
  if Text.endsWith url.target ['/'] then .ok url else url.withTarget (url.target ++ ['/'])

def resolve (base : Url) (text : Text) : Except Fault Url := do
  let url ← ofText text
  if url.isAbsolute then .ok url
  else base.withTarget (base.target ++ url.target.dropWhile (· == '/'))

end Url
end Wallboard
