/-
**Network addresses in host names.**

When a host is written as four numbers between points it has to be an IPv4 address, and between
square brackets it has to be an IPv6 address: eight groups of up to four hexadecimal digits, where
one run of groups may be left out and the last two may be an IPv4 address, with a zone after a
percent sign.
-/
import Courier.Text.Basic
namespace Courier.Address

/-- One of the four numbers: at most 255, without leading zeros. -/
def isOctet (t : Text) : Bool :=
  !t.isEmpty && t.all CodePoint.isAsciiDigit && t.length ≤ 3 &&
    (t.length = 1 || t.head? != some (CodePoint.ofChar '0')) &&
    Text.numeral 10 (t.map fun c => c.val - 0x30) ≤ 255

/-- Four numbers between points. -/
def isIpv4 (t : Text) : Bool :=
  let octets := Text.splitOn '.' t
  octets.length = 4 && octets.all isOctet

/-- One group of an IPv6 address. -/
def isGroup (t : Text) : Bool :=
  1 ≤ t.length && t.length ≤ 4 && t.all (·.hexDigit?.isSome)

/-- The groups of an IPv6 address; a last one with points stands for two. -/
def groups? (t : Text) : Option (List Text) :=
  let parts := Text.splitOn ':' t
  match parts.getLast? with
  | none => none
  | some last =>
    if parts.length < 3 then none
    else if last.contains (CodePoint.ofChar '.') then
      if isIpv4 last then some (parts.dropLast ++ [Text.ofString "0", Text.ofString "0"]) else none
    else some parts

/-- The groups make an address: eight of them, or fewer around one gap. -/
def areGroups (parts : List Text) : Bool :=
  let inner := (parts.drop 1).dropLast
  match inner.countP List.isEmpty with
  | 0 => parts.length = 8 && parts.all isGroup
  | 1 =>
    let before := parts.takeWhile (fun part => !part.isEmpty)
    let gapAtStart := before.isEmpty
    let above := if gapAtStart then [] else before
    let rest := if gapAtStart then parts.drop 1 else parts.drop before.length
    let below := rest.drop 1
    let below := if below = [[]] then [] else below
    (!gapAtStart || (parts.drop 1).head? = some []) && parts.length ≤ 9 &&
      above.length + below.length < 8 && above.all isGroup && below.all isGroup
  | _ => false

/-- An IPv6 address without brackets, possibly with a zone. -/
def isIpv6 (t : Text) : Bool :=
  let (address, zone) := t.cut '%'
  let zoned :=
    match zone with
    | none => true
    | some zone => !zone.isEmpty && !zone.contains (CodePoint.ofChar '%')
  zoned && !t.contains (CodePoint.ofChar '/') &&
    match groups? address with
    | none => false
    | some parts => areGroups parts

end Courier.Address
