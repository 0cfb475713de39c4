import CriticalCss.Text.Blank
import CriticalCss.Text.Printable

/-!
# Authorities of addresses

The authority of an address names its host. An address is not taken apart if square brackets in
its authority have no partner, if what they enclose is no IP address that is written in brackets,
or if normalization (NFKC) turns a character of the authority into a mark that would end it or
divide it.
-/

namespace CriticalCss

/-- Why an address cannot be taken apart. -/
inductive AddressFault where
  /-- The authority has only one of the two square brackets. -/
  | unbalanced
  /-- The host in brackets begins like the address of a version to come, and does not go on so. -/
  | misversioned
  /-- The host in brackets is an IPv4 address. -/
  | bracketedIpv4
  /-- The host in brackets is no IP address. -/
  | noAddress (host : String)
  /-- A character of the authority is taken apart by normalization. -/
  | unstable (authority : String)
deriving DecidableEq, Repr

def AddressFault.message : AddressFault → String
  | unbalanced => "Invalid IPv6 URL"
  | misversioned => "IPvFuture address is invalid"
  | bracketedIpv4 => "An IPv4 address cannot be in brackets"
  | noAddress host => Text.quoted host ++ " does not appear to be an IPv4 or IPv6 address"
  | unstable authority =>
    "netloc '" ++ authority ++ "' contains invalid characters under NFKC normalization"

namespace Url

/-! ## Hosts -/

/-- A number of an IPv4 address. -/
def isOctet (digits : List Char) : Bool :=
  !digits.isEmpty && digits.all Char.isDigit && digits.length ≤ 3 &&
    (digits == ['0'] || digits.head? != some '0') &&
    digits.foldl (fun n c => n * 10 + (c.toNat - '0'.toNat)) 0 ≤ 255

/-- Four numbers with full stops between them. -/
def isIpv4 (host : List Char) : Bool :=
  let parts := Text.pieces (· == '.') host
  parts.length == 4 && parts.all isOctet

/-- A group of an IPv6 address. -/
def isGroup (digits : List Char) : Bool :=
  !digits.isEmpty && digits.all Text.isHexDigit && digits.length ≤ 4

/-- The parts of an IPv6 address between its colons. An IPv4 address as the last one stands for two
groups. -/
def groups (address : List Char) : List (List Char) :=
  let parts := Text.pieces (· == ':') address
  if isIpv4 (parts.getLastD []) then parts.dropLast ++ [['0'], ['0']] else parts

/-- Eight groups, or fewer of them around two colons, which stand for the others. The two colons
leave an empty part between other parts, and one more if they stand at an end. -/
def areEight : List (List Char) → Bool
  | [] => false
  | first :: others =>
    let last := others.getLastD []
    match Text.pieces List.isEmpty others.dropLast with
    | [_] => others.length == 7 && (first :: others).all isGroup
    | [before, after] =>
      let given := (first :: before ++ after ++ [last]).filter (!·.isEmpty)
      (!first.isEmpty || before.isEmpty) && (!last.isEmpty || after.isEmpty) &&
        given.length < 8 && given.all isGroup
    | _ => false

/-- What names the zone of an IPv6 address, behind a percent sign if there is one. -/
def isZone : List Char → Bool
  | [] => true
  | _ :: name => !name.isEmpty && name.all fun c => c != '%' && c != '/'

def isIpv6 (host : List Char) : Bool :=
  let address := host.takeWhile (· != '%')
  areEight (groups address) && isZone (host.drop address.length)

/-- What follows the letter of an address of a version to come: the version, a full stop, and the
address. -/
def isVersioned (cs : List Char) : Bool :=
  let version := cs.takeWhile Text.isHexDigit
  match version, cs.drop version.length with
  | _ :: _, '.' :: address => !address.isEmpty && address.all (· != '\n')
  | _, _ => false

/-- Checks a host that stands in brackets. -/
def checkBracketed (host : List Char) : Except AddressFault Unit :=
  match host with
  | 'v' :: rest => if isVersioned rest then .ok () else .error .misversioned
  | _ =>
    if isIpv4 host then .error .bracketedIpv4
    else if isIpv6 host then .ok ()
    else .error (.noAddress (String.ofList host))

/-! ## Normalization -/

/-- The code points beyond ASCII whose compatibility decomposition has a slash, a question mark, a
number sign, an at sign or a colon in it. No such mark is part of what composes again. -/
def unstablePoints : List Nat :=
  [0x2047, 0x2048, 0x2049, 0x2100, 0x2101, 0x2105, 0x2106, 0x2A74, 0xFE13, 0xFE16, 0xFE55, 0xFE56,
   0xFE5F, 0xFE6B, 0xFF03, 0xFF0F, 0xFF1A, 0xFF1F, 0xFF20]

def isUnstable (c : Char) : Bool :=
  unstablePoints.contains c.toNat

/-! ## Authorities -/

/-- What stands between the first opening bracket and the closing one behind it. -/
def bracketed (authority : List Char) : List Char :=
  ((authority.dropWhile (· != '[')).drop 1).takeWhile (· != ']')

def checkAuthority (authority : List Char) : Except AddressFault Unit := do
  if authority.contains '[' != authority.contains ']' then throw .unbalanced
  if authority.contains '[' then checkBracketed (bracketed authority)
  if authority.any isUnstable then throw (.unstable (String.ofList authority))

end Url

end CriticalCss
