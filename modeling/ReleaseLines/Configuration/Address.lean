import ReleaseLines.Configuration.HostLiteral

namespace ReleaseLines

/-- The parts of an address that a configuration looks at. -/
structure Address where
  /-- In lower case; empty where there is none. -/
  scheme : String
  /-- The host with what may stand beside it; empty where there is none. -/
  host : String
  deriving DecidableEq, Repr

namespace Address

/-- A character of a scheme. -/
def isSchemeChar (c : Char) : Bool := c.isAlphanum || ['+', '-', '.'].contains c

/-- The scheme in lower case, and what follows its colon. A scheme begins with a letter. -/
def splitScheme (cs : List Char) : List Char × List Char :=
  match Text.cut ':' cs with
  | (name, some rest) =>
    if name.head?.any Char.isAlpha && name.all isSchemeChar then (name.map Char.toLower, rest)
    else ([], cs)
  | (_, none) => ([], cs)

/-- A character that ends a host. -/
def endsHost (c : Char) : Bool := c == '/' || c == '?' || c == '#'

/-- The host after two slashes. -/
def hostOf : List Char → List Char
  | '/' :: '/' :: rest => rest.takeWhile fun c => !endsHost c
  | _ => []

/-- What is wrong with the brackets of a host, if anything. Nothing stands between them and the name
of a user, and only a colon may follow them. -/
def bracketProblem? (host : List Char) : Option BadValue :=
  if host.contains '[' != host.contains ']' then some .misplacedBracket
  else if !host.contains '[' then none
  else
    let machine := Text.afterLast '@' host
    match Text.cut '[' machine with
    | (before, some bracketed) =>
      let (literal, after) := Text.cut ']' bracketed
      if before.isEmpty && ((after.getD []).head?.all (· == ':')) then
        HostLiteral.problem? literal
      else some .misplacedBracket
    | (_, none) => HostLiteral.problem? (Text.cut ':' machine).1

/-- The characters that stand for one of the separators of an address, alone or with others, when
compatibility forms are replaced. -/
def lookalikes : List Nat := [
  0x2047, 0x2048, 0x2049, 0x2100, 0x2101, 0x2105, 0x2106, 0x2A74, 0xFE13, 0xFE16, 0xFE55, 0xFE56,
  0xFE5F, 0xFE6B, 0xFF03, 0xFF0F, 0xFF1A, 0xFF1F, 0xFF20]

/-- The characters of a text that make up an address: blanks and control characters before it do
not count, nor do tabs and line breaks in it. -/
def significant (cs : List Char) : List Char :=
  (cs.dropWhile (·.toNat ≤ 0x20)).filter fun c => !(c == '\t' || c == '\r' || c == '\n')

/-- Reads an address. -/
def read (s : String) : Except BadValue Address :=
  let (scheme, rest) := splitScheme (significant s.toList)
  let host := hostOf rest
  match bracketProblem? host with
  | some problem => .error problem
  | none =>
    if host.any (lookalikes.contains ·.toNat) then .error (.ambiguousHost (String.ofList host))
    else .ok ⟨String.ofList scheme, String.ofList host⟩

/-- Texts that mark a host as this machine, wherever they stand in it. -/
def localHosts : List String := ["127.0.0.1", "localhost", "0.0.0.0"]

/-- Whether the host holds the name of this machine. -/
def isLocal (a : Address) : Bool :=
  localHosts.any fun name => Text.contains name.toList a.host.toList

end Address

end ReleaseLines
