import SingBox.Dns.Client.Message
import SingBox.Lib.Bytes
/-!
# Cache keys of the DNS client

The memory cache is keyed by `DnsCacheKey`; the cache file by a name made of
the transport, the client subnet and the environment, the question's name and
its type (`SaveCacheKey` in `Cachefile/DnsCache.lean`).
-/
namespace SingBox

/-! ## Text -/

/-- The digits of a number, at most `fuel` of them. -/
def digits (base : Nat) : Nat → Nat → List Nat
  | 0, _ => []
  | fuel + 1, n => if n < base then [n] else digits base fuel (n / base) ++ [n % base]

def digitChar (d : Nat) : Char := if d < 10 then Char.ofNat (d + '0'.toNat) else Char.ofNat (d - 10 + 'a'.toNat)
def formatUint (n : UInt64) (base : Nat) : String := String.ofList ((digits base 64 n.toNat).map digitChar)

namespace Addr

def text4 (b : BitVec 32) : String :=
  ".".intercalate ([24, 16, 8, 0].map fun shift => formatUint (UInt64.ofNat ((b >>> shift).toNat % 256)) 10)

def groups (b : BitVec 128) : List Nat :=
  [112, 96, 80, 64, 48, 32, 16, 0].map fun shift => (b >>> shift).toNat % 65536

/-- The longest run of two or more zero groups, the first of these: its start and length. -/
def zeroRun (gs : List Nat) : Nat × Nat :=
  (List.range gs.length).foldl (fun best i =>
    let l := ((gs.drop i).takeWhile (· = 0)).length
    if 2 ≤ l && best.2 < l then (i, l) else best) (0, 0)

def text6 (gs : List Nat) : String :=
  let joined (l : List Nat) : String := ":".intercalate (l.map fun g => formatUint (UInt64.ofNat g) 16)
  match zeroRun gs with
  | (_, 0) => joined gs
  | (start, l) => joined (gs.take start) ++ "::" ++ joined (gs.drop (start + l))

/-- `String()`. -/
def text : Addr → String
  | .invalid => "invalid IP"
  | .v4 b => text4 b
  | .v6 b => if (Addr.v6 b).is4In6 then "::ffff:" ++ text4 (b.setWidth 32) else text6 (groups b)

end Addr

/-- `String()`. -/
def Prefix.text (p : Prefix) : String :=
  if p.isValid then p.addr.text ++ "/" ++ formatUint (UInt64.ofNat p.bits) 10 else "invalid Prefix"

namespace Dns
open Route (DNSQueryOptions)

/-! ## Environments -/

/-- What a step of the client reads from outside: the clock, in nanoseconds,
the network environment, and the environment of the transport if it has one. -/
structure Reading where
  now : Int
  networkEnvironment : UInt64 := 0
  environment : Option (List String) := none

/-- `fnv.New64a`, applied to all bytes written. -/
def fnv64a (bytes : List UInt8) : UInt64 :=
  bytes.foldl (fun hash b => (hash ^^^ b.toUInt64) * 1099511628211) 14695981039346656037

def environmentHash (r : Reading) : UInt64 :=
  match r.environment with
  | none => 0
  | some [] => r.networkEnvironment
  | some environment =>
    fnv64a (environment.flatMap (fun entry => entry.toUTF8.data.toList ++ [0]) ++
      Bytes.bigEndian 8 r.networkEnvironment.toNat)

/-! ## Keys -/

structure DnsCacheKey where
  question : Question
  transportTag : String
  clientSubnet : Prefix := ⟨.invalid, 0⟩
  environment : UInt64 := 0
  deriving DecidableEq

structure DnsExchangeKey where
  cacheKey : DnsCacheKey
  timeout : Nat
  deriving DecidableEq

def DnsCacheKey.persistentName (k : DnsCacheKey) : String :=
  let name := k.transportTag
  let name := if k.clientSubnet.isValid then name ++ "\x00" ++ k.clientSubnet.text else name
  if k.environment ≠ 0 then name ++ "\x01" ++ formatUint k.environment 36 else name

variable (clientSubnet : Prefix)

/-- The subnet `newCacheKey` takes, and `prepareExchangeMessage` without the last case. -/
def chosenSubnet (options : DNSQueryOptions) : Prefix :=
  if options.clientSubnet.isValid then options.clientSubnet else clientSubnet

/-- `newCacheKey`; `clientSubnet` is the client's own. -/
def newCacheKey (transportTag : String) (question : Question) (message : Msg)
    (options : DNSQueryOptions) (r : Reading) : DnsCacheKey where
  question := question
  transportTag := transportTag
  clientSubnet :=
    if options.removeClientSubnet then ⟨.invalid, 0⟩
    else if (chosenSubnet clientSubnet options).isValid then chosenSubnet clientSubnet options
    else clientSubnetFromMessage message
  environment := environmentHash r

/-- `finishCacheKey`, `none` for a response that may not be stored. -/
def finishCacheKey (key : DnsCacheKey) (r : Reading) : Option DnsCacheKey :=
  let environment := environmentHash r
  if environment = key.environment || key.environment = 0 then some { key with environment } else none

def prepareExchangeMessage (message : Msg) (options : DNSQueryOptions) : Msg :=
  if options.removeClientSubnet then removeClientSubnet message
  else if (chosenSubnet clientSubnet options).isValid then
    (setClientSubnet message (chosenSubnet clientSubnet options) true).2
  else message

end Dns
end SingBox
