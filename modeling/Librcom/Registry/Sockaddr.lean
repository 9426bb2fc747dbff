import Librcom.Bytes.Numerals
import Librcom.Effects.Rules
import Librcom.Registry.Address
import Librcom.WebSocket.Constants

/-! The member that an address is kept in, and how it is written to when a text is parsed. -/

namespace Rcom

open Effects
open Decimal (decimal isSpace ofDigits signed Numeral)

/-- An exception of the standard library. -/
inductive StdException where
  | runtimeError (what : String)
  /-- What `std::stoi` throws where there is no number, or one that does not fit. -/
  | logicError
  deriving DecidableEq, Repr

def AF_INET : UInt16 := 2

/-- `struct sockaddr_in`, with the port in the byte order of the network. -/
structure SockaddrIn where
  sinFamily : UInt16
  sinPort : UInt16
  sinAddr : UInt32
  deriving DecidableEq, Repr

/-- A method of an address. -/
abbrev SockaddrM := Program SockaddrIn StdException

namespace SockaddrIn

/-- The member of an address. -/
def ofAddress (address : Address) : SockaddrIn where
  sinFamily := AF_INET
  sinPort := UInt16.ofNat (htons address.port.toNat)
  sinAddr := address.ip

def ip (addr : SockaddrIn) : Bytes := inetNtoa addr.sinAddr

def port (addr : SockaddrIn) : UInt16 := UInt16.ofNat (ntohs addr.sinPort.toNat)

def tostring (addr : SockaddrIn) : Bytes := addr.ip ++ 58 :: decimal addr.port.toNat

def setPort (port : UInt16) : SockaddrM Unit :=
  Program.update fun addr => { addr with sinPort := UInt16.ofNat (htons port.toNat) }

/-- `std::stoi`, whose exceptions are no runtime errors. -/
def stoi (text : Bytes) : SockaddrM Int :=
  Program.ofExcept (match Decimal.stoi text with
    | some value => .ok value
    | none => .error .logicError)

def isValidInteger (text : Bytes) : SockaddrM Bool :=
  (do
    let _ ← stoi text
    return true : SockaddrM Bool).attempt fun _ => return false

variable (host : Host)

/-- Where `inet_aton` fails, it leaves its output as it was. -/
def setIp : Option Bytes → SockaddrM Unit
  | some ip =>
    match host.inetAton ip with
    | some sinAddr => Program.update fun addr => { addr with sinAddr := sinAddr }
    | none => Program.raise (.runtimeError "Address::set_ip: inet_aton failed")
  | none => Program.raise (.runtimeError "Address::set_ip: null address")

def setIpPort (ip : Option Bytes) (port : UInt16) : SockaddrM Unit := do
  Program.update fun addr => { addr with sinFamily := AF_INET }
  setIp host ip
  setPort port

def parse (address : Bytes) : SockaddrM Unit :=
  match splitLast 58 address with
  | some (ip, portstr) => do
    if ← isValidInteger portstr then
      let port ← stoi portstr
      -- The port is cut to sixteen bits.
      setIpPort host (some (cString ip)) (UInt16.ofNat (port % 65536).toNat)
    else Program.raise (.runtimeError "Address::parse: invalid port")
  | none => Program.raise (.runtimeError "Address::parse: invalid address")

/-- `set`, and the constructor that takes a string. -/
def set (str : Bytes) : SockaddrM Unit := parse host str

section Members

variable {host : Host}

/-- The port is read back from the byte order of the network. -/
theorem ntohs_htons (port : UInt16) :
    UInt16.ofNat (ntohs (UInt16.ofNat (htons port.toNat)).toNat) = port := by
  have fits : port.toNat < 256 ^ 2 := port.toNat_lt
  have swapped : htons port.toNat < 2 ^ 16 := Endian.byteSwap_lt 2 _
  have back : ntohs (htons port.toNat) = port.toNat := Endian.byteSwap_toBigEndian 2 fits
  rw [UInt16.toNat_ofNat', Nat.mod_eq_of_lt swapped, back, UInt16.ofNat_toNat]

/-- The port of an address is kept in the order of the network, and given in that of the host. -/
@[simp] theorem port_ofAddress (address : Address) : (ofAddress address).port = address.port :=
  ntohs_htons address.port

/-- The family may have been written, but neither the port nor the address. -/
structure Kept (addr addr' : SockaddrIn) : Prop where
  port : addr'.sinPort = addr.sinPort
  ip : addr'.sinAddr = addr.sinAddr
  family : addr.sinFamily = AF_INET → addr' = addr

/-- A number that can be read is read. -/
theorem stoi_yields {text : Bytes} {value : Int} (read : Decimal.stoi text = some value)
    (addr : SockaddrIn) : (stoi text).Yields addr value addr :=
  Program.yields_ofExcept (by rw [read]) addr

/-- Whether a text is a number is tried out, and the exception of the library is caught. -/
theorem isValidInteger_yields (text : Bytes) (addr : SockaddrIn) :
    (isValidInteger text).Yields addr (Decimal.stoi text).isSome addr := by
  cases read : Decimal.stoi text with
  | some value =>
    -- The try block returns, so that the handler does nothing.
    have tries : (do
        let _ ← stoi text
        return true : SockaddrM Bool).Yields addr true addr :=
      (stoi_yields read addr).bind (Program.yields_pure true addr)
    exact tries.attempt _
  | none =>
    -- The exception is caught, whichever it is.
    have failed : (stoi text).Throws addr .logicError addr :=
      Program.throws_ofExcept (by rw [read]) addr
    exact (failed.bind _).attempt (Program.yields_pure false addr)

/-- An address and a port are stored, where the address is one. -/
theorem setIpPort_yields {ip : Bytes} {sinAddr : UInt32} (known : host.inetAton ip = some sinAddr)
    (port : UInt16) (addr : SockaddrIn) :
    (setIpPort host (some ip) port).Yields addr () (ofAddress ⟨sinAddr, port⟩) := by
  -- The family comes first, then the address, and the port last.
  apply (Program.yields_update _ addr).bind
  have stored : (setIp host (some ip)).Yields { addr with sinFamily := AF_INET } ()
      { addr with sinFamily := AF_INET, sinAddr := sinAddr } := by
    simp only [setIp, known]
    exact Program.yields_update _ _
  exact stored.bind (Program.yields_update _ _)

/-- Where it is none, neither of them is stored. -/
theorem setIpPort_throws {ip : Bytes} (unknown : host.inetAton ip = none) (port : UInt16)
    (addr : SockaddrIn) :
    (setIpPort host (some ip) port).Throws addr (.runtimeError "Address::set_ip: inet_aton failed")
      { addr with sinFamily := AF_INET } := by
  apply (Program.yields_update _ addr).bind_throws
  -- Behind the exception the port is not written any more.
  have failed : (setIp host (some ip)).Throws { addr with sinFamily := AF_INET }
      (.runtimeError "Address::set_ip: inet_aton failed") { addr with sinFamily := AF_INET } := by
    simp only [setIp, unknown]
    exact Program.throws_raise _ _
  exact failed.bind _

/-- What a text parses as is stored, and a text that does not parse leaves the port and the address. -/
theorem parse_refines (host : Host) (text : Bytes) (addr : SockaddrIn) :
    match Address.parse host text with
    | .ok address => (parse host text).Yields addr () (ofAddress address)
    | .error what => ∃ addr', (parse host text).Throws addr (.runtimeError what) addr' ∧
        Kept addr addr' := by
  have kept : Kept addr addr := ⟨rfl, rfl, fun _ => rfl⟩
  unfold Address.parse parse
  -- The steps of both are the same, and each may be the one that fails.
  cases splitLast 58 text with
  | none => exact ⟨addr, Program.throws_raise _ _, kept⟩
  | some parts =>
    obtain ⟨ip, portstr⟩ := parts
    have tried := isValidInteger_yields portstr addr
    cases read : Decimal.stoi portstr with
    -- Without a number the text is refused before anything is written.
    | none =>
      rw [read] at tried
      simp only [read]
      exact ⟨addr, tried.bind_throws (Program.throws_raise _ _), kept⟩
    | some value =>
      rw [read] at tried
      simp only [read]
      cases known : host.inetAton (cString ip) with
      | none =>
        dsimp only
        -- Only the family is written before the address turns out to be none.
        refine ⟨{ addr with sinFamily := AF_INET }, tried.bind_throws ((stoi_yields read addr).bind_throws
          (setIpPort_throws known _ addr)), rfl, rfl, fun inet => ?_⟩
        rw [← inet]
      | some sinAddr =>
        dsimp only
        -- All three are written, and none of them depends on what was there before.
        exact tried.bind ((stoi_yields read addr).bind (setIpPort_yields known _ addr))

/-- A printed address is the text of its address and its port. -/
theorem tostring_eq (addr : SockaddrIn) : addr.tostring = Address.tostring ⟨addr.sinAddr, addr.port⟩ :=
  rfl

/-- Swapping the bytes of a port twice gives the port that is stored. -/
theorem sinPort_eq (addr : SockaddrIn) :
    (ofAddress ⟨addr.sinAddr, addr.port⟩).sinPort = addr.sinPort :=
  ntohs_htons addr.sinPort

/--
A printed address is parsed as what it was, and a text that cannot be parsed leaves the address.

Where the family is the one that every constructor sets, all of the member is left.
-/
theorem set_tostring (host : Host) :
    (∀ written addr : SockaddrIn, ∃ addr', (set host written.tostring).Yields addr () addr' ∧
      addr'.sinAddr = written.sinAddr ∧ addr'.sinPort = written.sinPort ∧
      addr'.port = written.port) ∧
    ∀ text addr e addr', (set host text).Throws addr e addr' →
      addr'.sinAddr = addr.sinAddr ∧ addr'.sinPort = addr.sinPort ∧
        (addr.sinFamily = AF_INET → addr' = addr) := by
  constructor
  · intro written addr
    -- The pure parser reads the printed text back, and the member follows it.
    have refines := parse_refines host written.tostring addr
    rw [tostring_eq, Address.parse_tostring] at refines
    exact ⟨_, refines, rfl, sinPort_eq written, port_ofAddress _⟩
  · intro text addr e addr' threw
    have refines := parse_refines host text addr
    -- A text that parses does not throw.
    cases parsed : Address.parse host text with
    | ok address =>
      rw [parsed] at refines
      exact absurd threw refines.not_throws
    | error what =>
      rw [parsed] at refines
      obtain ⟨addr'', failed, kept⟩ := refines
      obtain ⟨-, rfl⟩ := failed.unique threw
      exact ⟨kept.ip, kept.port, kept.family⟩

end Members

section Ports

variable {host : Host} {text portstr : Bytes}

/-- A text is white space, the digits of a port, and white space. -/
def WritesPort (portstr : Bytes) (port : Nat) : Prop :=
  ∃ blanks number rest, Numeral portstr blanks [] number rest ∧
    (∀ byte ∈ rest, isSpace byte = true) ∧ ofDigits number = port ∧ port ≤ 65535

/-- A text is read as a number, though it has a sign, more than white space behind it, or no port. -/
def MisreadPort (portstr : Bytes) : Prop :=
  ∃ blanks signs number rest, Numeral portstr blanks signs number rest ∧
    -2 ^ 31 ≤ signed signs number ∧ signed signs number < 2 ^ 31 ∧
    (signs ≠ [] ∨ (∃ byte ∈ rest, isSpace byte = false) ∨ 65535 < ofDigits number)

/-- The text is an address that is known, and a port that is misread. -/
def Misread (host : Host) (text : Bytes) : Prop :=
  ∃ ip portstr, text = ip ++ 58 :: portstr ∧ 58 ∉ portstr ∧ (host.inetAton (cString ip)).isSome ∧
    MisreadPort portstr

/-- The port that is stored is the one that was written, or a runtime error is thrown. -/
def StoresWhatIsWritten (host : Host) (text : Bytes) : Prop :=
  ∀ addr, (∃ addr', (set host text).Yields addr () addr' ∧
      ∃ ip portstr, text = ip ++ 58 :: portstr ∧ 58 ∉ portstr ∧ WritesPort portstr addr'.port.toNat) ∨
    ∃ what addr', (set host text).Throws addr (.runtimeError what) addr'

/-- A port that was written is read as itself. -/
theorem WritesPort.stoi {port : Nat} (writes : WritesPort portstr port) :
    Decimal.stoi portstr = some (port : Int) := by
  obtain ⟨blanks, number, rest, numeral, -, rfl, small⟩ := writes
  have value : signed [] number = (ofDigits number : Int) := by simp [signed]
  rw [numeral.stoi_eq, value, if_pos (by omega)]

/-- What is read as a number and not misread is a port. -/
theorem exists_writesPort {value : Int} (read : Decimal.stoi portstr = some value)
    (right : ¬ MisreadPort portstr) : ∃ port, WritesPort portstr port := by
  obtain ⟨blanks, signs, number, rest, numeral⟩ := Decimal.exists_numeral read
  rw [numeral.stoi_eq] at read
  split at read
  · next fits =>
    -- What is not misread has no sign, only white space behind its digits, and fits a port.
    have parts : ¬ (signs ≠ [] ∨ (∃ byte ∈ rest, isSpace byte = false) ∨ 65535 < ofDigits number) :=
      fun wrong => right ⟨blanks, signs, number, rest, numeral, fits.1, fits.2, wrong⟩
    simp only [not_or, not_not, not_exists, not_and, Bool.not_eq_false, Nat.not_lt] at parts
    obtain ⟨rfl, spaces, small⟩ := parts
    exact ⟨_, blanks, number, rest, numeral, spaces, rfl, small⟩
  · cases read

/-- What is misread is not written as a port. -/
theorem MisreadPort.not_writesPort (misread : MisreadPort portstr) (port : Nat) :
    ¬ WritesPort portstr port := by
  rintro ⟨_, _, _, numeral', spaces, rfl, small⟩
  obtain ⟨_, _, _, _, numeral, -, -, wrong⟩ := misread
  -- Both take the text apart in the same way.
  obtain ⟨-, rfl, rfl, rfl⟩ := numeral.unique numeral'
  rcases wrong with signed | ⟨byte, among, other⟩ | large
  · exact signed rfl
  · rw [spaces byte among] at other
    cases other
  · omega

/-- A port that is misread is read as some number. -/
theorem MisreadPort.stoi (misread : MisreadPort portstr) :
    ∃ value, Decimal.stoi portstr = some value := by
  obtain ⟨blanks, signs, number, rest, numeral, low, high, -⟩ := misread
  exact ⟨_, by rw [numeral.stoi_eq, if_pos ⟨low, high⟩]⟩

/-- A text that is misread is stored as a port that it does not write. -/
theorem not_stores_of_misread (misread : Misread host text) : ¬ StoresWhatIsWritten host text := by
  obtain ⟨ip, portstr, rfl, absent, known, misreadPort⟩ := misread
  obtain ⟨value, read⟩ := misreadPort.stoi
  obtain ⟨sinAddr, found⟩ := Option.isSome_iff_exists.mp known
  intro stores
  have split := splitLast_append absent ip
  -- The misreading does not depend on what is stored before, so that any member will do.
  have refines := parse_refines host (ip ++ 58 :: portstr) ⟨AF_INET, 0, 0⟩
  simp only [Address.parse, split, read, found] at refines
  rcases stores ⟨AF_INET, 0, 0⟩ with ⟨addr', -, ip', portstr', same, absent', writes⟩ | ⟨what, addr', threw⟩
  · -- The text is split in one way only, and its port part is not one that writes a port.
    rw [same, splitLast_append absent', Option.some.injEq, Prod.mk.injEq] at split
    exact misreadPort.not_writesPort _ (split.2 ▸ writes)
  · exact absurd threw refines.not_throws

/-- A text that is not misread is stored as it is written, or thrown back. -/
theorem stores_of_not_misread (right : ¬ Misread host text) : StoresWhatIsWritten host text := by
  intro addr
  have refines := parse_refines host text addr
  cases parsed : Address.parse host text with
  | error what =>
    rw [parsed] at refines
    obtain ⟨addr', threw, -⟩ := refines
    exact .inr ⟨what, addr', threw⟩
  | ok address =>
    rw [parsed] at refines
    refine .inl ⟨_, refines, ?_⟩
    unfold Address.parse at parsed
    cases split : splitLast 58 text with
    -- Without a colon, a number or an address there is nothing that could have been parsed.
    | none => simp [split] at parsed
    | some parts =>
      obtain ⟨ip, portstr⟩ := parts
      obtain ⟨apart, absent⟩ := eq_of_splitLast split
      cases read : Decimal.stoi portstr with
      | none => simp [split, read] at parsed
      | some value =>
        cases found : host.inetAton (cString ip) with
        | none => simp [split, read, found] at parsed
        | some sinAddr =>
          simp only [split, read, found, Except.ok.injEq] at parsed
          -- The address is known, so that the port is not misread.
          obtain ⟨port, writes⟩ := exists_writesPort read fun misreadPort =>
            right ⟨ip, portstr, apart, absent, by rw [found]; rfl, misreadPort⟩
          have value_eq : value = port := Option.some.inj (read.symm.trans writes.stoi)
          have small : port ≤ 65535 := by
            obtain ⟨_, _, _, _, _, _, small⟩ := writes
            exact small
          -- The port fits sixteen bits, so that the cut leaves it.
          have stored : (ofAddress address).port.toNat = port := by
            rw [port_ofAddress, ← parsed, value_eq, UInt16.toNat_ofNat']
            omega
          exact ⟨ip, portstr, apart, absent, stored ▸ writes⟩

/--
Parsing stores the port that was written unless the text has an address and a port that is misread.

A port is misread where it has a sign, where anything but white space follows the digits, and above 65535.
-/
theorem set_stores_iff (host : Host) (text : Bytes) :
    StoresWhatIsWritten host text ↔ ¬ Misread host text :=
  ⟨fun stores misread => not_stores_of_misread misread stores, stores_of_not_misread⟩

/-- The port 65616 is stored as the port 80. -/
theorem port_cut : ¬ ∀ (host : Host) (text : Bytes), StoresWhatIsWritten host text := by
  intro stores
  -- The digits of 65616 are a number that fits an int, and no port.
  have numeral : Numeral [54, 53, 54, 49, 54] [] [] [54, 53, 54, 49, 54] [] :=
    ⟨rfl, by simp, .inl rfl, by simp, by decide +kernel, rfl⟩
  have misread : Misread .dotted (inetNtoa 16777343 ++ 58 :: [54, 53, 54, 49, 54]) :=
    ⟨_, _, rfl, by decide, by decide, [], [], _, [], numeral, by decide, by decide, .inr (.inr (by decide))⟩
  exact not_stores_of_misread misread (stores _ _)

end Ports

end SockaddrIn

end Rcom
