import SingBox.Netip
/-!
# DNS messages

The part of `miekg/dns` messages that the router, the client and the rules
read. Address payloads (`net.IP` byte slices in the source) are stored as the
address `M.AddrFromIP` makes of them, `invalid` for a malformed slice.
-/
namespace SingBox.Dns

def typeA : UInt16 := 1
def typeCNAME : UInt16 := 5
def typeSOA : UInt16 := 6
def typeAAAA : UInt16 := 28
def typeOPT : UInt16 := 41
def typeHTTPS : UInt16 := 65
def classINET : UInt16 := 1
def rcodeSuccess : Nat := 0
def rcodeFormatError : Nat := 1
def rcodeNameError : Nat := 3
def rcodeRefused : Nat := 5

structure RRHeader where
  name : String
  rrtype : UInt16
  rrclass : UInt16 := classINET
  ttl : UInt32 := 0
  deriving DecidableEq

/-- One parameter of an HTTPS record. -/
inductive SvcbValue where
  | ipv4Hint (hint : List Addr)
  | ipv6Hint (hint : List Addr)
  | other (key : UInt16)
  deriving DecidableEq

/-- One EDNS0 option: the client subnet, or another one by its code and data. -/
inductive Edns0 where
  | subnet (family : UInt16) (sourceNetmask sourceScope : UInt8) (address : Addr)
  | other (code : UInt16) (data : List UInt8)
  deriving DecidableEq

def edns0Subnet : UInt16 := 8
def edns0Padding : UInt16 := 12

/-- `Option()`. -/
def Edns0.code : Edns0 → UInt16
  | .subnet .. => edns0Subnet
  | .other code _ => code

inductive RR where
  | a (hdr : RRHeader) (ip : Addr)
  | aaaa (hdr : RRHeader) (ip : Addr)
  | https (hdr : RRHeader) (value : List SvcbValue)
  | cname (hdr : RRHeader) (target : String)
  | soa (hdr : RRHeader) (minttl : UInt32)
  | opt (hdr : RRHeader) (option : List Edns0)
  | other (hdr : RRHeader) (rdata : List UInt8)
  deriving DecidableEq

/-- `Header()`. -/
def RR.hdr : RR → RRHeader
  | .a h _ | .aaaa h _ | .https h _ | .cname h _ | .soa h _ | .opt h _ | .other h _ => h

structure Question where
  name : String
  qtype : UInt16
  qclass : UInt16 := classINET
  deriving DecidableEq

structure Msg where
  id : UInt16 := 0
  response : Bool := false
  authoritative : Bool := false
  recursionDesired : Bool := false
  recursionAvailable : Bool := false
  rcode : Nat := rcodeSuccess
  question : List Question := []
  answer : List RR := []
  ns : List RR := []
  extra : List RR := []
  deriving DecidableEq

/-- The addresses one answer record exposes to `DNSResponseAddresses`. -/
def recordAddresses : RR → List Addr
  | .a _ ip | .aaaa _ ip => [ip].filter Addr.isValid
  | .https _ values => values.flatMap fun
    | .ipv4Hint hint => (hint.map Addr.unmap).filter Addr.isValid
    | .ipv6Hint hint => hint.filter Addr.isValid
    | .other _ => []
  | _ => []

/-- `DNSResponseAddresses`: the addresses of a successful response. -/
def responseAddresses : Option Msg → List Addr
  | none => []
  | some response => if response.rcode ≠ rcodeSuccess then [] else response.answer.flatMap recordAddresses

end SingBox.Dns
