import Librcom.Bytes.Decimal
import Librcom.Bytes.Strings

/-! Addresses, how they are printed, and how they are parsed. -/

namespace Rcom

open Decimal (decimal stoi)

/-- An address, where both parts are zero when it is not set. -/
structure Address where
  ip : UInt32
  port : UInt16
  deriving DecidableEq, Repr

/-- The text of an address on the network, in the order of its octets in memory. -/
def inetNtoa (ip : UInt32) : List UInt8 :=
  decimal (ip.toNat % 256) ++ 46 :: decimal (ip.toNat / 256 % 256) ++
    46 :: decimal (ip.toNat / 65536 % 256) ++ 46 :: decimal (ip.toNat / 16777216)

/-- What the host says about addresses. -/
structure Host where
  /-- The address that a text stands for. -/
  inetAton : List UInt8 → Option UInt32
  /-- A printed address is read as what it was. -/
  inetAton_inetNtoa : ∀ ip, inetAton (inetNtoa ip) = some ip
  /-- The address of the host itself, or the text of an exception. -/
  localIp : Except (List UInt8) UInt32

namespace Address

def isSet (address : Address) : Bool := address.port != 0 && address.ip != 0

/-- The address that a variable holds before it is assigned. -/
def fresh (host : Host) : Except (List UInt8) Address := do
  let ip ← host.localIp
  return { ip := ip, port := 0 }

def tostring (address : Address) : List UInt8 :=
  inetNtoa address.ip ++ 58 :: decimal address.port.toNat

/-- The address that a text stands for, which is split at its last colon. -/
def parse (host : Host) (text : List UInt8) : Except String Address :=
  match splitLast 58 text with
  | none => .error "Address::parse: invalid address"
  | some (ip, portstr) =>
    match stoi portstr with
    | none => .error "Address::parse: invalid port"
    | some port =>
      match host.inetAton (cString ip) with
      -- The IP goes through a C string, and so it ends at the first null character.
      | none => .error "Address::set_ip: inet_aton failed"
      -- The port is cut to sixteen bits.
      | some ip => .ok { ip := ip, port := UInt16.ofNat (port % 65536).toNat }

end Address

/-- The bytes that an address is printed with: digits, dots, and a colon. -/
def isAddressByte (byte : UInt8) : Bool := Decimal.isDigit byte || byte == 46 || byte == 58

/-- A number is written with bytes of an address. -/
theorem isAddressByte_decimal (n : Nat) : ∀ byte ∈ decimal n, isAddressByte byte = true := by
  intro byte member
  rw [isAddressByte, Decimal.isDigit_decimal n byte member]
  rfl

/-- An address is written with digits, dots and a colon. -/
theorem isAddressByte_tostring (address : Address) :
    ∀ byte ∈ address.tostring, isAddressByte byte = true := by
  intro byte member
  simp only [Address.tostring, inetNtoa, List.mem_append, List.mem_cons, List.append_assoc,
    List.cons_append] at member
  -- Each part of the text is a number, and the parts are joined by dots and a colon.
  rcases member with digit | rfl | digit | rfl | digit | rfl | digit | rfl | digit
  · exact isAddressByte_decimal _ byte digit
  · rfl
  · exact isAddressByte_decimal _ byte digit
  · rfl
  · exact isAddressByte_decimal _ byte digit
  · rfl
  · exact isAddressByte_decimal _ byte digit
  · rfl
  · exact isAddressByte_decimal _ byte digit

/-- Nothing but digits is in the text of a number. -/
theorem not_mem_decimal {byte : UInt8} (other : Decimal.isDigit byte = false) (n : Nat) :
    byte ∉ decimal n := by
  intro member
  rw [Decimal.isDigit_decimal n byte member] at other
  cases other

/-- Nothing but digits and dots is in the text of an IP address. -/
theorem not_mem_inetNtoa {byte : UInt8} (other : Decimal.isDigit byte = false) (dot : byte ≠ 46)
    (ip : UInt32) : byte ∉ inetNtoa ip := by
  simp [inetNtoa, not_mem_decimal other, dot]

/-- An address is read back from its text. -/
theorem Address.parse_tostring (host : Host) (address : Address) :
    Address.parse host address.tostring = .ok address := by
  -- The port has no colon in it, so that the last colon is the one in between.
  have split : splitLast 58 address.tostring =
      some (inetNtoa address.ip, decimal address.port.toNat) :=
    splitLast_append (not_mem_decimal rfl _) _
  have small : address.port.toNat < 65536 := address.port.toNat_lt
  have port := Decimal.stoi_decimal (show address.port.toNat < 2 ^ 31 by omega)
  have whole : cString (inetNtoa address.ip) = inetNtoa address.ip :=
    cString_eq (not_mem_inetNtoa rfl (by decide) _)
  unfold Address.parse
  simp only [split, port, whole, host.inetAton_inetNtoa]
  -- The port has sixteen bits already, and is not changed by the cut.
  have kept : UInt16.ofNat ((address.port.toNat : Int) % 65536).toNat = address.port := by
    rw [show ((address.port.toNat : Int) % 65536).toNat = address.port.toNat by omega]
    exact UInt16.ofNat_toNat
  rw [kept]

section Dotted

/-- The numbers at the beginning of a text, with one byte between them. -/
def octets : Nat → List UInt8 → List Nat
  | 0, _ => []
  | count + 1, text =>
    -- The byte behind a number is dropped unseen; the text is compared as a whole later.
    Decimal.ofDigits (text.takeWhile Decimal.isDigit) ::
      octets count ((text.dropWhile Decimal.isDigit).drop 1)

/-- The address that is printed as a text. -/
def dottedAton (text : List UInt8) : Option UInt32 :=
  match octets 4 text with
  | [a, b, c, d] =>
    let ip := UInt32.ofNat (a + 256 * b + 65536 * c + 16777216 * d)
    -- Only the text that would be printed is accepted.
    if inetNtoa ip = text then some ip else none
  | _ => none

/-- A number is taken off the beginning of a text where no digit follows. -/
theorem octets_decimal (count n : Nat) {rest : List UInt8}
    (stops : rest.takeWhile Decimal.isDigit = []) :
    octets (count + 1) (decimal n ++ rest) = n :: octets count (rest.drop 1) := by
  have digits := Decimal.isDigit_decimal n
  -- Nothing of the rest belongs to the number.
  have kept : rest.dropWhile Decimal.isDigit = rest := by
    have whole := List.takeWhile_append_dropWhile (p := Decimal.isDigit) (l := rest)
    rwa [stops, List.nil_append] at whole
  rw [octets, List.takeWhile_append_of_pos digits, List.dropWhile_append_of_pos digits, stops, kept,
    List.append_nil, Decimal.ofDigits_decimal]

/-- The text of an IP address is read back as the IP address. -/
theorem dottedAton_inetNtoa (ip : UInt32) : dottedAton (inetNtoa ip) = some ip := by
  have parts : octets 4 (inetNtoa ip) = [ip.toNat % 256, ip.toNat / 256 % 256,
      ip.toNat / 65536 % 256, ip.toNat / 16777216] := by
    have dot (rest : List UInt8) : (46 :: rest).takeWhile Decimal.isDigit = [] := rfl
    -- The last number has nothing behind it, while the others are followed by a dot.
    have last : octets 1 (decimal (ip.toNat / 16777216) ++ []) = [ip.toNat / 16777216] :=
      octets_decimal 0 _ rfl
    rw [List.append_nil] at last
    simp only [inetNtoa, List.append_assoc, List.cons_append]
    rw [octets_decimal 3 _ (dot _), List.drop_one, List.tail_cons, octets_decimal 2 _ (dot _),
      List.drop_one, List.tail_cons, octets_decimal 1 _ (dot _), List.drop_one, List.tail_cons, last]
  have small : ip.toNat < 4294967296 := ip.toNat_lt
  -- The four octets make up the number again.
  have whole : ip.toNat % 256 + 256 * (ip.toNat / 256 % 256) + 65536 * (ip.toNat / 65536 % 256) +
      16777216 * (ip.toNat / 16777216) = ip.toNat := by
    omega
  unfold dottedAton
  rw [parts]
  simp only [whole, UInt32.ofNat_toNat, if_true]

/-- A host that reads the addresses it prints, and has an address. -/
def Host.dotted : Host where
  inetAton := dottedAton
  inetAton_inetNtoa := dottedAton_inetNtoa
  localIp := .ok 16777343

end Dotted

end Rcom
