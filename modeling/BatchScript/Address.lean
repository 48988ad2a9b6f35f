import BatchScript.Address.Host
import BatchScript.Text.Percent
import BatchScript.Text.Quoted

/-!
# Addresses of documents

An editor names a document by an address: a scheme with a colon, an authority behind two slashes,
and a path; the first two may be missing. Percent escapes stay in the parts until one of them is
used.
-/
namespace BatchScript

/-- The parts of an address. -/
structure Address where
  /-- The scheme in lower case, or nothing. -/
  scheme : Text
  /-- The user, host and port, or nothing. -/
  authority : Text
  /-- The path, without a query and a fragment. -/
  path : Text
  deriving DecidableEq, Repr

/-- Why an address cannot be used. -/
inductive AddressProblem where
  /-- The square brackets are not around the host. -/
  | brackets
  /-- The version of a host is not followed by an address. -/
  | version
  /-- A host in square brackets is not numeric. -/
  | notNumeric (host : Text)
  /-- A host in square brackets consists of decimal numbers. -/
  | decimal
  /-- A character of the authority stands for one that separates the parts of an address. -/
  | disguised (authority : Text)
  deriving DecidableEq, Repr

/-- The problem in words. -/
def AddressProblem.message : AddressProblem → Text
  | .brackets => "Invalid IPv6 URL".toList
  | .version => "IPvFuture address is invalid".toList
  | .notNumeric host => host.quoted ++ " does not appear to be an IPv4 or IPv6 address".toList
  | .decimal => "An IPv4 address cannot be in brackets".toList
  | .disguised authority =>
    "netloc '".toList ++ authority ++
      "' contains invalid characters under NFKC normalization".toList

namespace Address

/-- A character of a scheme. -/
def isSchemeChar (c : Char) : Bool := c.isAlphanum || c == '+' || c == '-' || c == '.'

/-- The text without control characters and blanks in front, and without tabs and line ends. -/
def clean (text : Text) : Text :=
  (text.dropWhile fun c => c.toNat ≤ 0x20).filter fun c => c ≠ '\t' ∧ c ≠ '\r' ∧ c ≠ '\n'

/-- The scheme in lower case and the text behind its colon. A scheme starts with a letter. -/
def splitScheme (text : Text) : Text × Text :=
  match text.takeWhile isSchemeChar, text.dropWhile isSchemeChar with
  | c :: cs, ':' :: rest => if c.isAlpha then ((c :: cs).map Char.toLower, rest) else ([], text)
  | _, _ => ([], text)

/-- A character that ends an authority. -/
def endsAuthority (c : Char) : Bool := c == '/' || c == '?' || c == '#'

/-- The authority behind two slashes and the text behind it. -/
def splitAuthority : Text → Text × Text
  | '/' :: '/' :: rest =>
    (rest.takeWhile fun c => !endsAuthority c, rest.dropWhile fun c => !endsAuthority c)
  | text => ([], text)

/-- The parts of a text as an address. -/
def ofText (text : Text) : Address :=
  let (scheme, rest) := splitScheme (clean text)
  let (authority, rest) := splitAuthority rest
  ⟨scheme, authority, ((rest.cut '#').1.cut '?').1⟩

/-- Whether a character is equivalent to text with a slash, a question mark, a number sign, an at
sign or a colon in it. -/
def isDisguise (c : Char) : Bool :=
  c ∈ ['⁇', '⁈', '⁉', '℀', '℁', '℅', '℆', '⩴', '︓', '︖', '﹕', '﹖', '﹟', '﹫', '＃', '／', '：', '？',
    '＠']

/-- Refuses a host in square brackets that is not numeric in one of the two long forms. -/
def checkHost (host : Text) : Except AddressProblem Unit :=
  if host.head? = some 'v' then
    if Host.isVersioned host then .ok () else .error .version
  else if Host.isIPv4 host then .error .decimal
  else if Host.isIPv6 host then .ok ()
  else .error (.notNumeric host)

/-- The host and the port: what stands behind the last at sign. -/
def hostAndPort (authority : Text) : Text :=
  (authority.reverse.takeWhile (· ≠ '@')).reverse

/-- Refuses square brackets that are not around a numeric host. Only a port may stand behind them.
If they are not part of the host, the host has to be numeric all the same. -/
def checkBrackets (authority : Text) : Except AddressProblem Unit :=
  if '[' ∉ authority ∧ ']' ∉ authority then .ok ()
  else if '[' ∉ authority ∨ ']' ∉ authority then .error .brackets
  else
    match (hostAndPort authority).cut '[' with
    | (before, none) => checkHost (before.cut ':').1
    | (before, some bracketed) =>
      let (host, behind) := bracketed.cut ']'
      if before ≠ [] ∨ (behind.getD []).head?.any (· ≠ ':') then .error .brackets
      else checkHost host

/-- Refuses an address with an authority that cannot be used. -/
def check (address : Address) : Except AddressProblem Unit := do
  checkBrackets address.authority
  if address.authority.any isDisguise then throw (.disguised address.authority)

/-- The path of the file at an address. The authority of a file is the name of the computer that has
it, and a drive is written with a small letter and without a slash in front. -/
def filePath (address : Address) : Text :=
  let authority := Percent.decode address.authority
  let path := Percent.decode address.path
  if authority ≠ [] ∧ path ≠ [] ∧ address.scheme = "file".toList then
    '/' :: '/' :: authority ++ path
  else
    match path with
    | '/' :: letter :: ':' :: rest =>
      if letter.isAlpha then letter.toLower :: ':' :: rest else path
    | _ => path

end Address

end BatchScript
