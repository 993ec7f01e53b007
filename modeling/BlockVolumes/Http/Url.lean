import BlockVolumes.Http.Uri
import BlockVolumes.Json.Value
import BlockVolumes.Network.Address

/-!
Web addresses as clients are given them: where a request goes, and its target in normal form.
-/

namespace BlockVolumes.Http

inductive UrlFault
  | emptyHost
  | badHost
  | badIpv4
  | badIpv6
  | badPort
deriving DecidableEq

def UrlFault.message : UrlFault → String
  | emptyHost => "empty host"
  | badHost => "invalid international domain name"
  | badIpv4 => "invalid IPv4 address"
  | badIpv6 => "invalid IPv6 address"
  | badPort => "invalid port number"

def escaped (b : UInt8) : List UInt8 :=
  let digit (n : Nat) : UInt8 := (Json.hexDigit n).toUpper.toUInt8
  [percentSign, digit (b.toNat / 16), digit (b.toNat % 16)]

/-- Blanks, marks and bytes beyond ASCII do not stand for themselves in a path. -/
def isPlainInPath (b : UInt8) : Bool :=
  let n := b.toNat
  0x21 ≤ n && n ≤ 0x7E && !("\"#<>?^\x60\x7b\x7d".toUTF8.toList.contains b)

def isPlainInQuery (b : UInt8) : Bool :=
  let n := b.toNat
  0x21 ≤ n && n ≤ 0x7E && !("\"#<>'".toUTF8.toList.contains b)

def isPlainInForm (b : UInt8) : Bool :=
  let n := b.toNat
  (48 ≤ n && n ≤ 57) || (65 ≤ n && n ≤ 90) || (97 ≤ n && n ≤ 122) || "*-._".toUTF8.toList.contains b

def escapeUnless (plain : UInt8 → Bool) (bytes : List UInt8) : List UInt8 :=
  bytes.flatMap fun b => if plain b then [b] else escaped b

def formText (s : String) : List UInt8 :=
  s.toUTF8.toList.flatMap fun b =>
    if b = 32 then [43] else if isPlainInForm b then [b] else escaped b

def formQuery (pairs : List (String × String)) : List UInt8 :=
  [38].intercalate (pairs.map fun (name, value) => formText name ++ 61 :: formText value)

namespace Uri

def lowerText (bytes : List UInt8) : String :=
  String.ofList (bytes.map fun b => (Char.ofNat b.toNat).toLower)

def isDot (segment : List UInt8) : Bool := [".", "%2e"].contains (lowerText segment)

def isDoubleDot (segment : List UInt8) : Bool :=
  ["..", ".%2e", "%2e.", "%2e%2e"].contains (lowerText segment)

/-- Dots lead nowhere and double dots lead back; as the last segment they leave an empty one. -/
def settle (passed : List (List UInt8)) : List (List UInt8) → List (List UInt8)
  | [] => passed
  | segment :: rest =>
    if isDoubleDot segment then settle (passed.dropLast ++ (if rest = [] then [[]] else [])) rest
    else if isDot segment then settle (passed ++ (if rest = [] then [[]] else [])) rest
    else settle (passed ++ [escapeUnless isPlainInPath segment]) rest

/-- The path, the query and the fragment have marks between them; a backslash counts as a slash. -/
def normal (bytes : List UInt8) : Uri :=
  let bytes := bytes.takeWhile (· ≠ hash)
  let path := (bytes.takeWhile (· ≠ question)).map fun b => if b = 92 then slash else b
  let query := (bytes.dropWhile (· ≠ question)).drop 1
  let path := if path.head? = some slash then path.drop 1 else path
  let segments := settle [] (splitBytes slash path)
  ⟨slash :: [slash].intercalate segments, escapeUnless isPlainInQuery query⟩

def withQuery (u : Uri) (pairs : List (String × String)) : Uri :=
  if pairs = [] then u
  else { u with query := u.query ++ (if u.query = [] then [] else [38]) ++ formQuery pairs }

end Uri

structure Url where
  host : String
  port : Option Nat
  uri : Uri
deriving DecidableEq

namespace Url

def isControl (c : Char) : Bool := c.toNat ≤ 0x20

/-- Tabs and breaks never count, and neither do blanks around an address. -/
def cleaned (s : List Char) : List Char :=
  let trimmed := ((s.dropWhile isControl).reverse.dropWhile isControl).reverse
  trimmed.filter fun c => c != '\t' && c != '\n' && c != '\r'

def isSlash (c : Char) : Bool := c == '/' || c == '\\'

def endsAuthority (c : Char) : Bool := isSlash c || c == '?' || c == '#'

def afterScheme (s : List Char) : List Char := ((s.dropWhile (· ≠ ':')).drop 1).dropWhile isSlash

def hostNumber? (s : List Char) : Option Nat :=
  match s with
  | [] => none
  | '0' :: x :: digits =>
    if x = 'x' ∨ x = 'X' then (if digits = [] then some 0 else Network.numberIn? 16 digits)
    else Network.numberIn? 8 (x :: digits)
  | digits => Network.numberIn? 10 digits

def labels (host : List Char) : List (List Char) :=
  let labels := Text.splitOn '.' host
  if 1 < labels.length ∧ labels.getLast? = some [] then labels.dropLast else labels

def endsInNumber (host : List Char) : Bool :=
  match (labels host).getLast? with
  | some label => (label ≠ [] && label.all Char.isDigit) ||
      (['0', 'x'].isPrefixOf (label.map Char.toLower) && (hostNumber? label).isSome)
  | none => false

/-- Up to four numbers of a byte each, the last of which stands for all bytes left. -/
def isIpv4 (host : List Char) : Bool :=
  match ((labels host).mapM hostNumber?).map List.reverse with
  | some (last :: others) =>
    others.length ≤ 3 && others.all (· < 256) && last < Nat.pow 256 (4 - others.length)
  | _ => false

def isForbidden (c : Char) : Bool :=
  c.toNat ≤ 0x20 || c.toNat = 0x7F || "#/:<>?@[\\]^|%".toList.contains c

def checkHost (host : List Char) : Except UrlFault Unit :=
  if host = [] then .error .emptyHost
  else if host.head? = some '[' then
    if host.getLast? = some ']' ∧ Network.ipv6? (host.drop 1).dropLast = some [] then .ok ()
    else .error .badIpv6
  else if host.any isForbidden then .error .badHost
  else if endsInNumber host ∧ !isIpv4 host then .error .badIpv4
  else .ok ()

/-- The host and the port; a colon in brackets belongs to the host. -/
def splitPort (authority : List Char) : List Char × List Char :=
  let bracketed := if authority.head? = some '[' then authority.takeWhile (· ≠ ']') else []
  let rest := authority.drop bracketed.length
  let host := rest.takeWhile (· ≠ ':')
  (bracketed ++ host, (rest.drop host.length).drop 1)

def readPort (port : List Char) : Except UrlFault (Option Nat) :=
  if port = [] then .ok none
  else match Network.numberIn? 10 port with
    | some n => if n < Network.portLimit then .ok (some n) else .error .badPort
    | none => .error .badPort

def read (s : String) : Except UrlFault Url := do
  let text := afterScheme (cleaned s.toList)
  let authority := text.takeWhile (!endsAuthority ·)
  let (host, port) := splitPort ((Text.splitOn '@' authority).getLastD [])
  checkHost host
  let port ← readPort port
  let target := (String.ofList (text.drop authority.length)).toUTF8.toList
  return ⟨String.ofList (host.map Char.toLower), port, .normal target⟩

end Url

end BlockVolumes.Http
