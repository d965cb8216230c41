import SingBox.Lib.Decoder
import SingBox.Rule.Item
/-!
# Binary rule-sets

`common/srs`: `Write` stores a headless rule-set in the binary format and
`Read` takes it back. Items of a default rule follow one another, each after a
byte for its type, up to a final item. Reading and writing of memory-mapped
rule-sets is left out: `Read` and `Write` pass no mapping.
-/
open Decoder Bytes

namespace SingBox.Srs

/-- A Go string is its bytes. -/
abbrev Str := List UInt8

instance Str.lawful : LawfulBEq Str := inferInstance

/-- `Prefixable.Build` of a pointer, with the zero prefix for nil. -/
def build : Option Prefix → Prefix
  | none => ⟨.invalid, 0⟩
  | some p => p

/-- A `TypedMap` from interface types: entries in order, a key once. -/
structure TypedMap (α : Type) where
  entries : List (UInt8 × α) := []
  nodup : (entries.map Prod.fst).Nodup := by first | exact List.nodup_nil | simp

/-- `Put` replaces a value in place or adds an entry at the end. -/
def TypedMap.put {α : Type} (m : TypedMap α) (key : UInt8) (value : α) : TypedMap α where
  entries :=
    if key ∈ m.entries.map Prod.fst then m.entries.map fun e => if e.1 = key then (key, value) else e
    else m.entries ++ [(key, value)]
  nodup := by
    split
    · have : (m.entries.map fun e => if e.1 = key then (key, value) else e).map Prod.fst =
          m.entries.map Prod.fst := by
        rw [List.map_map]
        refine List.map_congr_left fun e _ => ?_
        simp only [Function.comp]
        split <;> simp [*]
      rw [this]
      exact m.nodup
    next h =>
      rw [List.map_append, List.nodup_append]
      refine ⟨m.nodup, by simp, ?_⟩
      rintro a ha b hb rfl
      simp at hb
      exact h (hb ▸ ha)

/-! ## Rules -/

/-- The items of a default rule that the format stores as they are. -/
structure PlainItems where
  queryType : List UInt16 := []
  network : List Str := []
  domainKeyword : List Str := []
  domainRegex : List Str := []
  sourcePort : List UInt16 := []
  sourcePortRange : List Str := []
  port : List UInt16 := []
  portRange : List Str := []
  processName : List Str := []
  processPath : List Str := []
  processPathRegex : List Str := []
  packageName : List Str := []
  packageNameRegex : List Str := []
  networkType : List UInt8 := []
  networkIsExpensive : Bool := false
  networkIsConstrained : Bool := false
  wifiSSID : List Str := []
  wifiBSSID : List Str := []
  /-- A nil map is an empty one. -/
  networkInterfaceAddress : TypedMap (List (Option Prefix)) := {}
  defaultInterfaceAddress : List (Option Prefix) := []
  domainMatchStrategy : DomainMatchStrategy := .asIS
  invert : Bool := false

structure DefaultHeadlessRule (Matcher AdGuardMatcher : Type) extends PlainItems where
  domain : List Str := []
  domainSuffix : List Str := []
  sourceIPCIDR : List (Option Prefix) := []
  ipCIDR : List (Option Prefix) := []
  domainMatcher : Option Matcher := none
  sourceIPSet : Option IPSet := none
  ipSet : Option IPSet := none
  adGuardDomain : List Str := []
  adGuardDomainMatcher : Option AdGuardMatcher := none

/-- `option.HeadlessRule`: a default rule, a logical rule or a type that neither is. -/
inductive HeadlessRule (Matcher AdGuardMatcher : Type) where
  | default (options : DefaultHeadlessRule Matcher AdGuardMatcher)
  | logical (mode : String) (rules : List (HeadlessRule Matcher AdGuardMatcher))
      (domainMatchStrategy : DomainMatchStrategy) (invert : Bool)
  | unknown (type : String)

structure Libraries (Matcher AdGuardMatcher : Type) where
  -- `varbin`
  writeUvarint : Nat → List UInt8
  readBytes : Decoder (List UInt8)
  readUint16s : Decoder (List UInt16)
  -- `domain`
  newMatcher : List Str → List Str → Bool → Matcher
  writeMatcher : Matcher → Except String (List UInt8)
  readMatcher : Decoder Matcher
  dumpMatcher : Matcher → List Str × List Str
  newAdGuardMatcher : List Str → AdGuardMatcher
  writeAdGuardMatcher : AdGuardMatcher → Except String (List UInt8)
  readAdGuardMatcher : Decoder AdGuardMatcher
  dumpAdGuardMatcher : AdGuardMatcher → List Str
  -- `compress/zlib`
  compress : List UInt8 → List UInt8
  decompress : List UInt8 → Except String (List UInt8)
  -- `netipx`: `AddPrefix` for each prefix, then `IPSet`; `IPSet().Prefixes()` of a set
  buildIPSet : List Prefix → Except String NetipxSet
  prefixes : IPSet → List Prefix
  /-- `M.AddrFromIP`. -/
  addrFromIP : List UInt8 → Addr

inductive ItemType where
  | queryType | network | domain | domainKeyword | domainRegex | sourceIPCIDR | ipCIDR | sourcePort
  | sourcePortRange | port | portRange | processName | processPath | packageName | wifiSSID | wifiBSSID
  | adGuardDomain | processPathRegex | networkType | networkIsExpensive | networkIsConstrained
  | networkInterfaceAddress | defaultInterfaceAddress | packageNameRegex | final
  deriving DecidableEq

def ItemType.toByte : ItemType → UInt8
  | .queryType => 0 | .network => 1 | .domain => 2 | .domainKeyword => 3 | .domainRegex => 4
  | .sourceIPCIDR => 5 | .ipCIDR => 6 | .sourcePort => 7 | .sourcePortRange => 8 | .port => 9
  | .portRange => 10 | .processName => 11 | .processPath => 12 | .packageName => 13 | .wifiSSID => 14
  | .wifiBSSID => 15 | .adGuardDomain => 16 | .processPathRegex => 17 | .networkType => 18
  | .networkIsExpensive => 19 | .networkIsConstrained => 20 | .networkInterfaceAddress => 21
  | .defaultInterfaceAddress => 22 | .packageNameRegex => 23 | .final => 0xFF

def ItemType.ofByte : UInt8 → Option ItemType
  | 0 => some .queryType | 1 => some .network | 2 => some .domain | 3 => some .domainKeyword
  | 4 => some .domainRegex | 5 => some .sourceIPCIDR | 6 => some .ipCIDR | 7 => some .sourcePort
  | 8 => some .sourcePortRange | 9 => some .port | 10 => some .portRange | 11 => some .processName
  | 12 => some .processPath | 13 => some .packageName | 14 => some .wifiSSID | 15 => some .wifiBSSID
  | 16 => some .adGuardDomain | 17 => some .processPathRegex | 18 => some .networkType
  | 19 => some .networkIsExpensive | 20 => some .networkIsConstrained
  | 21 => some .networkInterfaceAddress | 22 => some .defaultInterfaceAddress
  | 23 => some .packageNameRegex | 0xFF => some .final
  | _ => none

/-! ## Addresses and IP sets -/

def asSlice : Addr → List UInt8
  | .invalid => []
  | .v4 a => bigEndian 4 a.toNat
  | .v6 a => bigEndian 16 a.toNat

/-- `Prefix.Bits`, -1 for an invalid prefix. -/
def prefixBits (p : Prefix) : Int := if p.isValid then p.bits else -1
def readBool : Decoder Bool := (· != 0) <$> byte
def boolByte (b : Bool) : UInt8 := if b then 1 else 0

section Codec
variable {Matcher AdGuardMatcher : Type} (lib : Libraries Matcher AdGuardMatcher)

def writePrefix (p : Prefix) : List UInt8 :=
  lib.writeUvarint (asSlice p.addr).length ++ asSlice p.addr ++ [UInt8.ofInt (prefixBits p)]

/-- `ReadPrefix`. `PrefixFrom` refuses a length that the address has not. -/
def readPrefix : Decoder Prefix := do
  let addrLen ← uvarint
  if addrLen ≠ 4 ∧ addrLen ≠ 16 then throw "invalid argument"
  else
    let addrBytes ← full addrLen
    let bits ← byte
    pure ⟨lib.addrFromIP addrBytes, bits.toNat⟩

def writeIPSetAddr (addr : List UInt8) : List UInt8 := lib.writeUvarint addr.length ++ addr

def readIPSetAddr : Decoder (List UInt8) := do
  let addrLen ← uvarint
  if addrLen ≠ 4 ∧ addrLen ≠ 16 then throw "invalid argument" else full addrLen

def writeIPSet (set : IPSet) : List UInt8 :=
  1 :: bigEndian 8 (set.ranges4.length + set.ranges6.length) ++
    set.ranges4.flatMap (fun r => writeIPSetAddr lib (bigEndian 4 r.lo.toNat) ++
      writeIPSetAddr lib (bigEndian 4 r.hi.toNat)) ++
    set.ranges6.flatMap (fun r => writeIPSetAddr lib (bigEndian 16 r.lo.toNat) ++
      writeIPSetAddr lib (bigEndian 16 r.hi.toNat))

/-- One turn of the loop of `readIPSet`. -/
def readIPRange : Decoder NetRange := do
  let lo ← readIPSetAddr
  let hi ← readIPSetAddr
  if lo.length ≠ hi.length then throw "invalid argument"
  else if lo.length = 4 then
    pure (.v4 ⟨BitVec.ofNat 32 (ofBigEndian lo), BitVec.ofNat 32 (ofBigEndian hi)⟩)
  else pure (.v6 ⟨BitVec.ofNat 128 (ofBigEndian lo), BitVec.ofNat 128 (ofBigEndian hi)⟩)

/-- `slices.SortFunc` by the lower ends. -/
def sortRanges {w : Nat} (ranges : List (IPRange w)) : List (IPRange w) :=
  ranges.mergeSort fun a b => a.lo.toNat ≤ b.lo.toNat

def readIPSet : Decoder IPSet := do
  let version ← byte
  if version ≠ 1 then throw "invalid argument"
  else
    let length ← bigEndian 8
    let ranges ← repeatFrom (fun _ => readIPRange) 0 length
    match fromRanges (sortRanges (ranges.filterMap NetRange.range4?))
      (sortRanges (ranges.filterMap NetRange.range6?)) with
    | .ok set => pure set
    | .error e => throw e

/-! ## Default rules -/

def readRuleItemString : Decoder (List Str) := do
  let length ← uvarint
  repeatFrom (fun _ => lib.readBytes) 0 length

section
variable (itemType : ItemType)

def writeRuleItemString (value : List Str) : List UInt8 :=
  itemType.toByte :: lib.writeUvarint value.length ++ value.flatMap fun s => lib.writeUvarint s.length ++ s

def writeRuleItemUint8 (value : List UInt8) : List UInt8 :=
  itemType.toByte :: lib.writeUvarint value.length ++ value

def writeRuleItemUint16 (value : List UInt16) : List UInt8 :=
  itemType.toByte :: lib.writeUvarint value.length ++ value.flatMap fun x => bigEndian 2 x.toNat

def writeRuleItemCIDR (value : List (Option Prefix)) : Except String (List UInt8) := do
  let ipSet ← lib.buildIPSet (value.map build)
  return itemType.toByte :: writeIPSet lib (fromIPSet ipSet)

end

def writePrefixes (value : List (Option Prefix)) : List UInt8 :=
  lib.writeUvarint value.length ++ value.flatMap fun p => writePrefix lib (build p)

def readPrefixes : Decoder (List (Option Prefix)) := do
  let prefixCount ← uvarint
  repeatFrom (fun _ => some <$> readPrefix lib) 0 prefixCount

/-- An entry of `network_interface_address`. -/
def readInterfaceEntry : Decoder (UInt8 × List (Option Prefix)) := do
  let key ← byte
  let value ← readPrefixes lib
  pure (key, value)

def writeIf (condition : Bool) (item : Except String (List UInt8)) : Except String (List UInt8) :=
  if condition then item else .ok []

def since (version generateVersion : UInt8) (message : String) (item : List UInt8) : Except String (List UInt8) :=
  if generateVersion < version then .error message else .ok item

/-- The item for `domain` and `domain_suffix`. -/
def writeDomain (generateVersion : UInt8) (rule : DefaultHeadlessRule Matcher AdGuardMatcher) :
    Except String (List UInt8) :=
  if [] ∈ rule.domain then .error "domain: empty item is not allowed"
  else if [] ∈ rule.domainSuffix then .error "domain_suffix: empty item is not allowed"
  else do
    let matcher ← lib.writeMatcher (lib.newMatcher rule.domain rule.domainSuffix (generateVersion == 1))
    return ItemType.domain.toByte :: matcher

def writeAdGuardDomain (generateVersion : UInt8) (rule : DefaultHeadlessRule Matcher AdGuardMatcher) :
    Except String (List UInt8) :=
  if generateVersion < 2 then .error "AdGuard rule items is only supported in version 2 or later"
  else do
    let matcher ← lib.writeAdGuardMatcher (lib.newAdGuardMatcher rule.adGuardDomain)
    return ItemType.adGuardDomain.toByte :: matcher

def writeCause (message : String) : Except String (List UInt8) → Except String (List UInt8)
  | .ok b => .ok b
  | .error e => .error (message ++ ": " ++ e)

/-- The items of `writeDefaultRule` in the order in which it writes them, the final one apart. -/
def writeItems (v : UInt8) (rule : DefaultHeadlessRule Matcher AdGuardMatcher) : List (Except String (List UInt8)) :=
  [ writeIf (rule.queryType.length > 0) (.ok (writeRuleItemUint16 lib .queryType rule.queryType)),
    writeIf (rule.network.length > 0) (.ok (writeRuleItemString lib .network rule.network)),
    writeIf (rule.domain.length > 0 || rule.domainSuffix.length > 0) (writeDomain lib v rule),
    writeIf (rule.domainKeyword.length > 0) (.ok (writeRuleItemString lib .domainKeyword rule.domainKeyword)),
    writeIf (rule.domainRegex.length > 0) (.ok (writeRuleItemString lib .domainRegex rule.domainRegex)),
    writeIf (rule.sourceIPCIDR.length > 0)
      (writeCause "source_ip_cidr" (writeRuleItemCIDR lib .sourceIPCIDR rule.sourceIPCIDR)),
    writeIf (rule.ipCIDR.length > 0) (writeCause "ipcidr" (writeRuleItemCIDR lib .ipCIDR rule.ipCIDR)),
    writeIf (rule.sourcePort.length > 0) (.ok (writeRuleItemUint16 lib .sourcePort rule.sourcePort)),
    writeIf (rule.sourcePortRange.length > 0)
      (.ok (writeRuleItemString lib .sourcePortRange rule.sourcePortRange)),
    writeIf (rule.port.length > 0) (.ok (writeRuleItemUint16 lib .port rule.port)),
    writeIf (rule.portRange.length > 0) (.ok (writeRuleItemString lib .portRange rule.portRange)),
    writeIf (rule.processName.length > 0) (.ok (writeRuleItemString lib .processName rule.processName)),
    writeIf (rule.processPath.length > 0) (.ok (writeRuleItemString lib .processPath rule.processPath)),
    writeIf (rule.processPathRegex.length > 0)
      (.ok (writeRuleItemString lib .processPathRegex rule.processPathRegex)),
    writeIf (rule.packageName.length > 0) (.ok (writeRuleItemString lib .packageName rule.packageName)),
    writeIf (rule.packageNameRegex.length > 0)
      (since 5 v "`package_name_regex` rule item is only supported in version 5 or later"
        (writeRuleItemString lib .packageNameRegex rule.packageNameRegex)),
    writeIf (rule.networkType.length > 0)
      (since 3 v "`network_type` rule item is only supported in version 3 or later"
        (writeRuleItemUint8 lib .networkType rule.networkType)),
    writeIf rule.networkIsExpensive
      (since 3 v "`network_is_expensive` rule item is only supported in version 3 or later"
        [ItemType.networkIsExpensive.toByte]),
    writeIf rule.networkIsConstrained
      (since 3 v "`network_is_constrained` rule item is only supported in version 3 or later"
        [ItemType.networkIsConstrained.toByte]),
    writeIf (rule.networkInterfaceAddress.entries.length > 0)
      (since 4 v "`network_interface_address` rule item is only supported in version 4 or later"
        (ItemType.networkInterfaceAddress.toByte ::
          lib.writeUvarint rule.networkInterfaceAddress.entries.length ++
            rule.networkInterfaceAddress.entries.flatMap fun e => e.1 :: writePrefixes lib e.2)),
    writeIf (rule.defaultInterfaceAddress.length > 0)
      (since 4 v "`default_interface_address` rule item is only supported in version 4 or later"
        (ItemType.defaultInterfaceAddress.toByte :: writePrefixes lib rule.defaultInterfaceAddress)),
    writeIf (rule.wifiSSID.length > 0) (.ok (writeRuleItemString lib .wifiSSID rule.wifiSSID)),
    writeIf (rule.wifiBSSID.length > 0) (.ok (writeRuleItemString lib .wifiBSSID rule.wifiBSSID)),
    writeIf (rule.adGuardDomain.length > 0) (writeAdGuardDomain lib v rule) ]

def writeDefaultRule (v : UInt8) (rule : DefaultHeadlessRule Matcher AdGuardMatcher) :
    Except String (List UInt8) := do
  let items ← (writeItems lib v rule).mapM id
  return 0 :: items.flatten ++ [ItemType.final.toByte, boolByte rule.invert]

/-- The branch of `readDefaultRule` for an item type. -/
def readItem (recover : Bool) (item : ItemType) (rule : DefaultHeadlessRule Matcher AdGuardMatcher) :
    Decoder (DefaultHeadlessRule Matcher AdGuardMatcher) :=
  match item with
  | .queryType => (fun l => { rule with queryType := l }) <$> lib.readUint16s
  | .network => (fun l => { rule with network := l }) <$> readRuleItemString lib
  | .domain => do
    let matcher ← lib.readMatcher
    let (domain, domainSuffix) := if recover then lib.dumpMatcher matcher else (rule.domain, rule.domainSuffix)
    pure { rule with domainMatcher := some matcher, domain, domainSuffix }
  | .domainKeyword => (fun l => { rule with domainKeyword := l }) <$> readRuleItemString lib
  | .domainRegex => (fun l => { rule with domainRegex := l }) <$> readRuleItemString lib
  | .sourceIPCIDR => do
    let set ← readIPSet
    pure { rule with
      sourceIPSet := some set
      sourceIPCIDR := if recover then (lib.prefixes set).map some else rule.sourceIPCIDR }
  | .ipCIDR => do
    let set ← readIPSet
    pure { rule with
      ipSet := some set
      ipCIDR := if recover then (lib.prefixes set).map some else rule.ipCIDR }
  | .sourcePort => (fun l => { rule with sourcePort := l }) <$> lib.readUint16s
  | .sourcePortRange => (fun l => { rule with sourcePortRange := l }) <$> readRuleItemString lib
  | .port => (fun l => { rule with port := l }) <$> lib.readUint16s
  | .portRange => (fun l => { rule with portRange := l }) <$> readRuleItemString lib
  | .processName => (fun l => { rule with processName := l }) <$> readRuleItemString lib
  | .processPath => (fun l => { rule with processPath := l }) <$> readRuleItemString lib
  | .processPathRegex => (fun l => { rule with processPathRegex := l }) <$> readRuleItemString lib
  | .packageName => (fun l => { rule with packageName := l }) <$> readRuleItemString lib
  | .packageNameRegex => (fun l => { rule with packageNameRegex := l }) <$> readRuleItemString lib
  | .wifiSSID => (fun l => { rule with wifiSSID := l }) <$> readRuleItemString lib
  | .wifiBSSID => (fun l => { rule with wifiBSSID := l }) <$> readRuleItemString lib
  | .adGuardDomain => do
    let matcher ← lib.readAdGuardMatcher
    pure { rule with
      adGuardDomainMatcher := some matcher
      adGuardDomain := if recover then lib.dumpAdGuardMatcher matcher else rule.adGuardDomain }
  | .networkType => (fun l => { rule with networkType := l }) <$> lib.readBytes
  | .networkIsExpensive => pure { rule with networkIsExpensive := true }
  | .networkIsConstrained => pure { rule with networkIsConstrained := true }
  | .networkInterfaceAddress => do
    let size ← uvarint
    let entries ← repeatFrom (fun _ => readInterfaceEntry lib) 0 size
    pure { rule with networkInterfaceAddress := entries.foldl (fun m e => m.put e.1 e.2) {} }
  | .defaultInterfaceAddress => (fun l => { rule with defaultInterfaceAddress := l }) <$> readPrefixes lib
  | .final => (fun b => { rule with invert := b }) <$> readBool

/-- The loop of `readDefaultRule`; every turn takes a byte, so `fuel` above the length of the input
never runs out. -/
def readItems (recover : Bool) : Nat → UInt8 → DefaultHeadlessRule Matcher AdGuardMatcher →
    Decoder (DefaultHeadlessRule Matcher AdGuardMatcher)
  | 0, _, _ => throw "unexpected EOF"
  | fuel + 1, lastItemType, rule => do
    let itemType ← byte
    match ItemType.ofByte itemType with
    | none =>
      throw ("unknown rule item type: " ++ toString itemType ++ ", last type: " ++ toString lastItemType)
    | some .final => readItem lib recover .final rule
    | some item =>
      let rule ← readItem lib recover item rule
      readItems recover fuel itemType rule

def readDefaultRule (recover : Bool) : Decoder (DefaultHeadlessRule Matcher AdGuardMatcher) := fun input =>
  readItems lib recover (input.length + 1) 0 {} input

/-! ## Rules -/

def maxLogicalRuleDepth : Nat := 100

/-- `readLogicalRule`, given how the rules inside are read. -/
def readLogicalRule (readRule : Decoder (HeadlessRule Matcher AdGuardMatcher)) :
    Decoder (HeadlessRule Matcher AdGuardMatcher) := do
  let modeByte ← byte
  let mode ← (if modeByte = 0 then pure "and"
    else if modeByte = 1 then pure "or"
    else throw ("unknown logical mode: " ++ toString modeByte) : Decoder String)
  let length ← uvarint
  let rules ← repeatFrom (fun i => readRule.cause ("read logical rule [" ++ toString i ++ "]")) 0 length
  let invert ← readBool
  pure (.logical mode rules .asIS invert)

/-- `readRule` with `levels` more levels allowed: `depth` is `maxLogicalRuleDepth + 1 - levels`. -/
def readRule (recover : Bool) : Nat → Decoder (HeadlessRule Matcher AdGuardMatcher)
  | 0 => throw "logical rule nested too deep"
  | levels + 1 => do
    let ruleType ← byte
    if ruleType = 0 then .default <$> readDefaultRule lib recover
    else if ruleType = 1 then readLogicalRule (readRule recover levels)
    else throw ("unknown rule type: " ++ toString ruleType)

def strategyMessage : String := "domain_match_strategy is not supported in binary rule-sets; use source format"

/-- The byte `writeLogicalRule` writes for a mode. -/
def writeMode (mode : String) : Except String UInt8 :=
  if mode = "and" then .ok 0 else if mode = "or" then .ok 1 else .error ("unknown logical mode: " ++ mode)

mutual

/-- `writeRule` and `writeLogicalRule`. -/
def writeRule (v : UInt8) : HeadlessRule Matcher AdGuardMatcher → Except String (List UInt8)
  | .default options =>
    if options.domainMatchStrategy ≠ .asIS then .error strategyMessage else writeDefaultRule lib v options
  | .logical mode rules domainMatchStrategy invert =>
    if domainMatchStrategy ≠ .asIS then .error strategyMessage
    else do
      let modeByte ← writeMode mode
      let body ← writeRules v rules
      return [1, modeByte] ++ (lib.writeUvarint rules.length ++ (body ++ [boolByte invert]))
  | .unknown type => .error ("unknown rule type: " ++ type)

def writeRules (v : UInt8) : List (HeadlessRule Matcher AdGuardMatcher) → Except String (List UInt8)
  | [] => .ok []
  | rule :: rules => do
    let b ← writeRule v rule
    let bs ← writeRules v rules
    return b ++ bs

end

/-! ## Rule-sets -/

def magicBytes : List UInt8 := [0x53, 0x52, 0x53]
def ruleSetVersionCurrent : UInt8 := 5

def write (rules : List (HeadlessRule Matcher AdGuardMatcher)) (generateVersion : UInt8) :
    Except String (List UInt8) := do
  let body ← writeRules lib generateVersion rules
  return magicBytes ++ [generateVersion] ++ lib.compress (lib.writeUvarint rules.length ++ body)

/-- The rules of `Read`, in the decompressed part. -/
def readRules (recover : Bool) : Decoder (List (HeadlessRule Matcher AdGuardMatcher)) := do
  let length ← uvarint
  repeatFrom (fun i => (readRule lib recover (maxLogicalRuleDepth + 1)).cause
    ("read rule[" ++ toString i ++ "]")) 0 length

/-- `Read`: the version and the rules. -/
def read (input : List UInt8) (recover : Bool) :
    Except String (UInt8 × List (HeadlessRule Matcher AdGuardMatcher)) := do
  let (magic, input) ← (full 3).run input
  if magic ≠ magicBytes then throw "invalid sing-box rule-set file"
  let (version, input) ← byte.run input
  if version > ruleSetVersionCurrent then throw ("unsupported version: " ++ toString version)
  let body ← lib.decompress input
  let (rules, _) ← (readRules lib recover).run body
  return (version, rules)

end Codec
end SingBox.Srs
