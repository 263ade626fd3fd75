import ReleaseLines.BadValue
import ReleaseLines.Numeral
import ReleaseLines.Text.Hexadecimal
import ReleaseLines.Text.Split

namespace ReleaseLines.HostLiteral

/-- A number up to 255 without needless zeros. -/
def isOctet (cs : List Char) : Bool :=
  !cs.isEmpty && cs.length ≤ 3 && cs.all Char.isDigit &&
    (cs == ['0'] || cs.head? != some '0') && Numeral.valueOf (cs.map fun c => c.toNat - 48) ≤ 255

/-- Four octets between dots. -/
def isDottedQuad (cs : List Char) : Bool :=
  let octets := Text.pieces (· == '.') cs
  octets.length == 4 && octets.all isOctet

def isHexDigit (c : Char) : Bool := (Text.hexValue? c).isSome

/-- Sixteen bits in hexadecimal. -/
def isGroup (cs : List Char) : Bool := !cs.isEmpty && cs.length ≤ 4 && cs.all isHexDigit

/-- How many groups stand between colons. -/
def groupCount? (cs : List Char) : Option Nat :=
  if cs.isEmpty then some 0
  else
    let groups := Text.pieces (· == ':') cs
    if groups.all isGroup then some groups.length else none

/-- How many groups stand between colons at the end of an address, where a dotted quad may take the
place of the last two. -/
def closingCount? (cs : List Char) : Option Nat :=
  let groups := Text.pieces (· == ':') cs
  if groups.getLast?.any isDottedQuad && groups.dropLast.all isGroup then some (groups.length + 1)
  else groupCount? cs

/-- The parts of a text before and after its first two colons in a row. -/
def cutAtGap : List Char → List Char × Option (List Char)
  | ':' :: ':' :: rest => ([], some rest)
  | c :: rest => let (before, after) := cutAtGap rest; (c :: before, after)
  | [] => ([], none)

/-- Eight groups, or fewer around one gap that stands for the others. -/
def isGrouped (cs : List Char) : Bool :=
  match cutAtGap cs with
  | (_, none) => closingCount? cs == some 8
  | (before, some after) =>
    match groupCount? before, closingCount? after with
    | some m, some n => m + n < 8
    | _, _ => false

/-- Groups with the zone in which they are meant after a percent sign, if there is one. -/
def isZoned (cs : List Char) : Bool :=
  match Text.cut '%' cs with
  | (groups, none) => isGrouped groups
  | (groups, some zone) => !zone.isEmpty && !zone.contains '%' && isGrouped groups

/-- A version in hexadecimal after a `v`, a dot, and the address that the version gives a meaning
to. -/
def isVersioned : List Char → Bool
  | 'v' :: rest =>
    match Text.cut '.' rest with
    | (version, some address) =>
      !version.isEmpty && version.all isHexDigit && !address.isEmpty
    | (_, none) => false
  | _ => false

/-- What is wrong with an address in brackets, if anything. -/
def problem? (cs : List Char) : Option BadValue :=
  if cs.head? == some 'v' then
    if isVersioned cs then none else some .malformedVersionedHost
  else if isDottedQuad cs then some .bracketedQuad
  else if isZoned cs then none
  else some (.notNetworkAddress (String.ofList cs))

end ReleaseLines.HostLiteral
