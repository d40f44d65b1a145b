import Ansible.Lib.Text

/-!
# URIs

The parts of a URI as a lenient parser has them: it accepts every text, and what it does not find
is absent.

## Main definitions

* `Uri.parse` — scheme, host and port of a text.
* `Uri.origin` — scheme, host and port, the host without regard to case.
-/

namespace Ansible

/-- The parts of a URI that say where it leads. -/
structure Uri where
  scheme : Option Text
  host : Option Text
  port : Option ℕ
  deriving DecidableEq, Repr

namespace Uri

def isLetter (c : Char) : Bool := decide ('a' ≤ c ∧ c ≤ 'z') || decide ('A' ≤ c ∧ c ≤ 'Z')

def isDigit (c : Char) : Bool := decide ('0' ≤ c ∧ c ≤ '9')

/-- `(([a-z][a-z0-9\+\-\.]*):)?`, without regard to case -/
def splitScheme (text : Text) : Option Text × Text :=
  match text.span fun c => isLetter c || isDigit c || c ∈ ['+', '-', '.'] with
  | (c :: scheme, ':' :: rest) =>
    if isLetter c then (some ((c :: scheme).map Char.toLower), rest) else (none, text)
  | _ => (none, text)

/-- `(//([^/?#]*))?` -/
def authority : Text → Option Text
  | '/' :: '/' :: rest => some (rest.takeWhile fun c => c ∉ ['/', '?', '#'])
  | _ => none

/-- `(^(.*)@)?`: what follows the last `@` of the first line. -/
def dropUserinfo (text : Text) : Text :=
  let line := text.takeWhile (· ≠ '\n')
  if '@' ∈ line then (line.reverse.takeWhile (· ≠ '@')).reverse ++ text.drop line.length else text

/-- `(\[[a-zA-Z0-9:.]*\]|[^:]*)`: a host and what follows it. -/
def splitHost (text : Text) : Text × Text :=
  match text with
  | '[' :: inner =>
    match inner.span fun c => isLetter c || isDigit c || c ∈ [':', '.'] with
    | (address, ']' :: rest) => ('[' :: (address ++ [']']), rest)
    | _ => text.span (· ≠ ':')
  | _ => text.span (· ≠ ':')

def trimBrackets (host : Text) : Text :=
  ((host.dropWhile (· = '[')).reverse.dropWhile (· = ']')).reverse

/-- `(:(\d*))?` -/
def portOf : Text → Option ℕ
  | ':' :: rest =>
    match rest.takeWhile isDigit with
    | [] => none
    | digits => some (digits.foldl (fun n c => n * 10 + (c.toNat - 48)) 0)
  | _ => none

/-- The host and the port of an authority; an empty host is absent unless all is empty. -/
def hostAndPort (authority : Text) : Option Text × Option ℕ :=
  if authority = [] then (some [], none)
  else
    let (host, rest) := splitHost (dropUserinfo authority)
    (if host = [] then none else some (trimBrackets host), portOf rest)

def defaultPort (scheme : Text) : Option ℕ :=
  if scheme = "https".toList ∨ scheme = "wss".toList then some 443
  else if scheme = "http".toList ∨ scheme = "ws".toList then some 80
  else if scheme = "ftp".toList then some 21
  else if scheme = "sftp".toList then some 22
  else if scheme = "tftp".toList then some 69
  else if scheme = "ldap".toList then some 389
  else none

/-- `URI.parse` -/
def parse (value : String) : Uri :=
  let (scheme, rest) := splitScheme (chars value)
  match authority rest with
  | none => ⟨scheme, none, scheme.bind defaultPort⟩
  | some a => ⟨scheme, (hostAndPort a).1, (hostAndPort a).2.or (scheme.bind defaultPort)⟩

/-- The host, when the text is an `https` URI that has one. -/
def httpsHost (value : String) : Option Text :=
  if (parse value).scheme = some "https".toList then (parse value).host else none

/-- Hosts are compared without regard to case. -/
def origin (value : String) : Uri :=
  let uri := parse value
  { uri with host := uri.host.map (·.map Char.toLower) }

example : parse "HTTPS://bob@Remote.example:8443/users/bob#main-key" =
    ⟨some "https".toList, some "Remote.example".toList, some 8443⟩ := by decide +kernel

example : httpsHost "acct:bob@remote.example" = none := by decide +kernel

end Uri

end Ansible
