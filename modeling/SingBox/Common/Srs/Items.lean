import SingBox.Common.Srs.Binary
import SingBox.Lib.Lists
/-!
# Items of a default rule

What the reader makes of the items that the writer stores. Each is a change to
the rule read so far, or it makes the reader fail, and only a nil interface
address does that.
-/
open Decoder Bytes

namespace SingBox.Srs
open List
variable {Matcher AdGuardMatcher : Type} {lib : Libraries Matcher AdGuardMatcher}

structure Libraries.Documented (lib : Libraries Matcher AdGuardMatcher) : Prop where
  writeUvarint : ∀ x < 2 ^ 64, lib.writeUvarint x = uvarint x
  readBytes : ∀ l : List UInt8, l.length < 2 ^ 63 → Reads lib.readBytes (uvarint l.length ++ l) l
  readUint16s : ∀ l : List UInt16, l.length < 2 ^ 63 →
    Reads lib.readUint16s (uvarint l.length ++ l.flatMap fun x => bigEndian 2 x.toNat) l
  readMatcher : ∀ m b, lib.writeMatcher m = .ok b → Reads lib.readMatcher b m
  readAdGuardMatcher : ∀ m b, lib.writeAdGuardMatcher m = .ok b → Reads lib.readAdGuardMatcher b m
  decompress : ∀ b, lib.decompress (lib.compress b) = .ok b
  /-- A set holds the addresses of its prefixes. -/
  buildIPSet : ∀ ps set, lib.buildIPSet ps = .ok set → ∀ a : Addr, a.isValid = true →
    ((∃ r ∈ set.ranges, r.Holds a) ↔ ∃ p ∈ ps, p.contains a = true)
  addrFromIP : ∀ a, lib.addrFromIP (asSlice a) = a

/-! ## Prefixes and sets -/

lemma Libraries.Documented.reads_uvarint (h : lib.Documented) {x : Nat} (hx : x < 2 ^ 64) :
    Reads uvarint (lib.writeUvarint x) x := by
  rw [h.writeUvarint x hx]
  exact Decoder.reads_uvarint hx

lemma length_asSlice {a : Addr} (ha : a.isValid = true) : (asSlice a).length = 4 ∨ (asSlice a).length = 16 := by
  cases a with
  | invalid => cases ha
  | v4 a => exact .inl (length_bigEndian 4 _)
  | v6 a => exact .inr (length_bigEndian 16 _)

lemma addr_isValid {p : Prefix} (hp : p.isValid = true) : p.addr.isValid = true := by
  obtain ⟨a, n⟩ := p
  cases a with
  | invalid => cases hp
  | v4 a | v6 a => rfl

lemma bits_le {p : Prefix} (hp : p.isValid = true) : p.bits ≤ 128 := by
  obtain ⟨a, n⟩ := p
  cases a <;> simp [Prefix.isValid] at hp <;> simp <;> omega

section
variable (h : lib.Documented)
include h

lemma reads_readPrefix {p : Prefix} (hp : p.isValid = true) : Reads (readPrefix lib) (writePrefix lib p) p := by
  have hlen := length_asSlice (addr_isValid hp)
  have hbits : (UInt8.ofInt (prefixBits p)).toNat = p.bits := by
    have := bits_le hp
    rw [prefixBits, if_pos hp]
    simp [UInt8.ofInt]
    omega
  rw [writePrefix, append_assoc]
  refine (h.reads_uvarint (by omega)).bind ?_
  rw [if_neg (by omega)]
  refine (reads_full rfl).bind ((reads_byte _).bind_nil ?_)
  rw [h.addrFromIP, hbits]
  exact Reads.pure p

lemma rejects_readPrefix : Rejects (readPrefix lib) (writePrefix lib (build none)) := by
  rw [writePrefix, append_assoc]
  refine (h.reads_uvarint (by decide)).bind_rejects ((?_ : Rejects _ []).append _)
  rw [if_pos (by decide)]
  exact Rejects.throw _

section
variable {l : List (Option Prefix)} (hl : l.length < 2 ^ 63) (hv : ∀ p, some p ∈ l → p.isValid = true)
include hl hv

lemma reads_readPrefixes (hn : none ∉ l) : Reads (readPrefixes lib) (writePrefixes lib l) l := by
  refine (h.reads_uvarint (by omega)).bind (reads_repeat fun p hp => ?_)
  cases p with
  | none => exact absurd hp hn
  | some p => exact (reads_readPrefix h (hv p hp)).map some

lemma rejects_readPrefixes (hn : none ∈ l) : Rejects (readPrefixes lib) (writePrefixes lib l) := by
  have hnone : Rejects (some <$> readPrefix lib) (writePrefix lib (build none)) := (rejects_readPrefix h).map _
  refine (h.reads_uvarint (by omega)).bind_rejects
    (rejects_repeatFrom (fun i p hp => ?_) ⟨none, hn, fun _ => hnone⟩ 0)
  cases p with
  | none => exact .inr hnone
  | some p => exact .inl ⟨some p, (reads_readPrefix h (hv p hp)).map some⟩

end

lemma reads_readIPSetAddr {l : List UInt8} (hl : l.length = 4 ∨ l.length = 16) :
    Reads readIPSetAddr (writeIPSetAddr lib l) l := by
  refine (h.reads_uvarint (by omega)).bind ?_
  rw [if_neg (by omega)]
  exact reads_full rfl

end

/-- The bytes of a range, in the order of `writeIPSet`. -/
def writeRange (lib : Libraries Matcher AdGuardMatcher) : NetRange → List UInt8
  | .v4 r => writeIPSetAddr lib (bigEndian 4 r.lo.toNat) ++ writeIPSetAddr lib (bigEndian 4 r.hi.toNat)
  | .v6 r => writeIPSetAddr lib (bigEndian 16 r.lo.toNat) ++ writeIPSetAddr lib (bigEndian 16 r.hi.toNat)

lemma ofNat_ofBigEndian {w n : Nat} (hw : 2 ^ w = 256 ^ n) (x : BitVec w) :
    BitVec.ofNat w (ofBigEndian (bigEndian n x.toNat)) = x := by
  rw [ofBigEndian_bigEndian (hw ▸ x.isLt), BitVec.ofNat_toNat, BitVec.setWidth_eq]

lemma reads_readIPRange (h : lib.Documented) (r : NetRange) : Reads readIPRange (writeRange lib r) r := by
  cases r with
  | v4 r =>
    refine (reads_readIPSetAddr h (by simp)).bind ((reads_readIPSetAddr h (by simp)).bind_nil ?_)
    rw [if_neg (by simp), if_pos (by simp), ofNat_ofBigEndian (by decide), ofNat_ofBigEndian (by decide)]
    exact Reads.pure _
  | v6 r =>
    refine (reads_readIPSetAddr h (by simp)).bind ((reads_readIPSetAddr h (by simp)).bind_nil ?_)
    rw [if_neg (by simp), if_neg (by simp), ofNat_ofBigEndian (by decide), ofNat_ofBigEndian (by decide)]
    exact Reads.pure _

lemma sortRanges_ranges {w : Nat} {ranges : List (IPRange w)} (h : RangesOk ranges) :
    sortRanges ranges = ranges := by
  refine mergeSort_of_pairwise ((List.Pairwise.and_mem.1 h.2).imp fun {a b} hab => ?_)
  have := h.1 a hab.1
  have := hab.2.2
  simp
  omega

lemma reads_readIPSet (h : lib.Documented) {set : IPSet} (hl : set.ranges4.length + set.ranges6.length < 2 ^ 63) :
    Reads readIPSet (writeIPSet lib set) set := by
  let ranges := set.ranges4.map NetRange.v4 ++ set.ranges6.map NetRange.v6
  have hlen : ranges.length = set.ranges4.length + set.ranges6.length := by simp [ranges]
  have hbytes : writeIPSet lib set =
      [1] ++ (bigEndian 8 ranges.length ++ ranges.flatMap (writeRange lib)) := by
    simp [writeIPSet, hlen, ranges, flatMap_map, writeRange, append_assoc]
  have h4 : ranges.filterMap NetRange.range4? = set.ranges4 := by
    simp [ranges, filterMap_append, filterMap_map, Function.comp_def, NetRange.range4?]
  have h6 : ranges.filterMap NetRange.range6? = set.ranges6 := by
    simp [ranges, filterMap_append, filterMap_map, Function.comp_def, NetRange.range6?]
  rw [hbytes]
  refine (reads_byte 1).bind ?_
  rw [if_neg (by decide)]
  refine (reads_bigEndian (by omega)).bind ((reads_repeat fun r _ => reads_readIPRange h r).bind_nil ?_)
  rw [h4, h6, sortRanges_ranges set.ok4, sortRanges_ranges set.ok6, fromRanges_ranges]
  exact Reads.pure set

/-! ## Items -/

lemma reads_readRuleItemString (h : lib.Documented) {l : List Str} (hl : l.length < 2 ^ 63)
    (hs : ∀ s ∈ l, s.length < 2 ^ 63) : Reads (readRuleItemString lib)
      (lib.writeUvarint l.length ++ l.flatMap fun s => lib.writeUvarint s.length ++ s) l := by
  refine (h.reads_uvarint (by omega)).bind (reads_repeat fun s hm => ?_)
  rw [h.writeUvarint _ (by have := hs s hm; omega)]
  exact h.readBytes s (hs s hm)

lemma foldl_put {α : Type} (entries : List (UInt8 × α)) (m : TypedMap α)
    (h : ((m.entries ++ entries).map Prod.fst).Nodup) :
    (entries.foldl (fun m e => m.put e.1 e.2) m).entries = m.entries ++ entries := by
  induction entries generalizing m with
  | nil => simp
  | cons e entries ih =>
    have hnew : (m.put e.1 e.2).entries = m.entries ++ [e] := by
      refine if_neg fun hm => ?_
      rw [map_append, nodup_append] at h
      exact h.2.2 e.1 hm e.1 (by simp) rfl
    rw [foldl_cons, ih _ (by rw [hnew]; simpa using h), hnew, append_assoc]
    rfl

lemma TypedMap.ext_entries {α : Type} {m m' : TypedMap α} (h : m.entries = m'.entries) : m = m' := by
  cases m
  cases m'
  cases h
  rfl

lemma foldl_put_entries {α : Type} (m : TypedMap α) : m.entries.foldl (fun m e => m.put e.1 e.2) {} = m :=
  TypedMap.ext_entries (by rw [foldl_put m.entries {} m.nodup]; rfl)

/-- A list of the rule that was written takes the place of the one read so far if it was stored. -/
def overwrite {α : Type} (old new : List α) : List α := if new.length > 0 then new else old

lemma overwrite_nil {α : Type} (l : List α) : overwrite [] l = l := by
  cases l <;> rfl

section
variable (lib : Libraries Matcher AdGuardMatcher)
variable (recover : Bool)

/-- Reading `chunk` as one item, or as none if it is empty, changes the rule by `f`. -/
def Updates (chunk : List UInt8)
    (f : DefaultHeadlessRule Matcher AdGuardMatcher → DefaultHeadlessRule Matcher AdGuardMatcher) : Prop :=
  (chunk = [] ∧ ∀ r, f r = r) ∨
    ∃ item payload, item ≠ .final ∧ chunk = item.toByte :: payload ∧
      ∀ r, Reads (readItem lib recover item r) payload (f r)

/-- The reader fails on `chunk` as an item. -/
def Refused (chunk : List UInt8) : Prop :=
  ∃ item payload, item ≠ .final ∧ chunk = item.toByte :: payload ∧ ∀ r, Rejects (readItem lib recover item r) payload

/-- What an item does to the rule that is read, and when it can be read. -/
structure ItemSpec (Matcher AdGuardMatcher : Type) where
  update : DefaultHeadlessRule Matcher AdGuardMatcher → DefaultHeadlessRule Matcher AdGuardMatcher
  readable : Prop := True

def ItemSpec.Describes (spec : ItemSpec Matcher AdGuardMatcher) (chunk : List UInt8) : Prop :=
  (spec.readable → Updates lib recover chunk spec.update) ∧ (¬ spec.readable → Refused lib recover chunk)

/-- An item, if it can be written, is read as its specification says. -/
def Meets (item : Except String (List UInt8)) (spec : ItemSpec Matcher AdGuardMatcher) : Prop :=
  ∀ chunk, item = .ok chunk → spec.Describes lib recover chunk

end

section Items
variable {recover : Bool}

lemma meets_of {c : Bool} {item : ItemType} {payload : List UInt8}
    {spec : ItemSpec Matcher AdGuardMatcher} (hitem : item ≠ .final)
    (hno : c = false → spec.readable ∧ ∀ r, spec.update r = r)
    (hread : c = true → spec.readable → ∀ r, Reads (readItem lib recover item r) payload (spec.update r))
    (hrej : c = true → ¬ spec.readable → ∀ r, Rejects (readItem lib recover item r) payload) :
    Meets lib recover (writeIf c (.ok (item.toByte :: payload))) spec := by
  intro chunk hchunk
  cases c with
  | false =>
    cases hchunk
    exact ⟨fun _ => .inl ⟨rfl, (hno rfl).2⟩, fun hn => absurd (hno rfl).1 hn⟩
  | true =>
    cases hchunk
    exact ⟨fun hr => .inr ⟨item, payload, hitem, rfl, hread rfl hr⟩,
      fun hn => ⟨item, payload, hitem, rfl, hrej rfl hn⟩⟩

lemma Meets.since {c : Bool} {version v : UInt8} {message : String} {item : List UInt8}
    {spec : ItemSpec Matcher AdGuardMatcher} (h : Meets lib recover (writeIf c (.ok item)) spec) :
    Meets lib recover (writeIf c (since version v message item)) spec := by
  intro chunk hchunk
  refine h chunk ?_
  cases c with
  | false => exact hchunk
  | true =>
    simp only [writeIf, if_true, Srs.since] at hchunk ⊢
    split at hchunk
    · cases hchunk
    · exact hchunk

lemma meets_list {α : Type} {l : List α} {payload : List UInt8} {d : Decoder (List α)} (item : ItemType)
    (hitem : item ≠ .final) (hd : Reads d payload l) (get : DefaultHeadlessRule Matcher AdGuardMatcher → List α)
    (set : DefaultHeadlessRule Matcher AdGuardMatcher → List α → DefaultHeadlessRule Matcher AdGuardMatcher)
    (hset : ∀ r, set r (get r) = r := by exact fun _ => rfl) (hread : ∀ r, readItem lib recover item r = set r <$> d := by exact fun _ => rfl) :
    Meets lib recover (writeIf (l.length > 0) (.ok (item.toByte :: payload)))
      { update := fun r => set r (overwrite (get r) l) } := by
  refine meets_of hitem (fun hc => ⟨trivial, fun r => ?_⟩) (fun hc _ r => ?_) (fun _ hn => absurd trivial hn)
  · simp only [overwrite, of_decide_eq_false hc, if_false]
    exact hset r
  simp only [overwrite, of_decide_eq_true hc, if_true, hread]
  exact hd.map _

end Items

/-! ## Default rules -/

section
variable (lib : Libraries Matcher AdGuardMatcher)

/-- The matcher that `writeDomain` builds, if there is something to match. -/
def builtMatcher (v : UInt8) (rule : DefaultHeadlessRule Matcher AdGuardMatcher) : Option Matcher :=
  if rule.domain.length > 0 || rule.domainSuffix.length > 0 then
    some (lib.newMatcher rule.domain rule.domainSuffix (v == 1))
  else none

def builtAdGuardMatcher (rule : DefaultHeadlessRule Matcher AdGuardMatcher) : Option AdGuardMatcher :=
  if rule.adGuardDomain.length > 0 then some (lib.newAdGuardMatcher rule.adGuardDomain) else none

/-- The set that `writeRuleItemCIDR` builds. -/
def builtSet (value : List (Option Prefix)) : Option IPSet :=
  if value.length > 0 then (lib.buildIPSet (value.map build)).toOption.map fromIPSet else none

/-- A list that `Read` gets back from a matcher or a set when it is told to. -/
def recovered {α β : Type} (recover : Bool) (dump : α → List β) (value : Option α) (old : List β) : List β :=
  match value with
  | none => old
  | some a => if recover then dump a else old

/-- The lists of prefixes that the format stores one by one. -/
def PlainItems.interfaceAddresses (r : PlainItems) : List (List (Option Prefix)) :=
  r.defaultInterfaceAddress :: r.networkInterfaceAddress.entries.map Prod.snd

@[simp] def PlainItems.stringLists (r : PlainItems) : List (List Str) :=
  [r.network, r.domainKeyword, r.domainRegex, r.sourcePortRange, r.portRange, r.processName, r.processPath,
    r.processPathRegex, r.packageName, r.packageNameRegex, r.wifiSSID, r.wifiBSSID]

/-- What holds of the fields because they are Go slices and strings, whose lengths are of type `int`,
and because the parser of the source format makes valid prefixes only. -/
structure PlainItems.Parsed (r : PlainItems) : Prop where
  queryType : r.queryType.length < 2 ^ 63
  sourcePort : r.sourcePort.length < 2 ^ 63
  port : r.port.length < 2 ^ 63
  networkType : r.networkType.length < 2 ^ 63
  strings : ∀ l ∈ r.stringLists, l.length < 2 ^ 63 ∧ ∀ s ∈ l, s.length < 2 ^ 63
  prefixes : ∀ l ∈ r.interfaceAddresses, l.length < 2 ^ 63 ∧ ∀ p, some p ∈ l → p.isValid = true

instance (r : PlainItems) : Decidable r.Parsed :=
  decidable_of_iff (r.queryType.length < 2 ^ 63 ∧ r.sourcePort.length < 2 ^ 63 ∧ r.port.length < 2 ^ 63 ∧
      r.networkType.length < 2 ^ 63 ∧ (∀ l ∈ r.stringLists, l.length < 2 ^ 63 ∧ ∀ s ∈ l, s.length < 2 ^ 63) ∧
      ∀ l ∈ r.interfaceAddresses, l.length < 2 ^ 63 ∧ ∀ o ∈ l, ∀ p ∈ o, p.isValid = true)
    ⟨fun h => ⟨h.1, h.2.1, h.2.2.1, h.2.2.2.1, h.2.2.2.2.1,
      fun l hl => ⟨(h.2.2.2.2.2 l hl).1, fun p hp => (h.2.2.2.2.2 l hl).2 _ hp p rfl⟩⟩,
    fun h => ⟨h.queryType, h.sourcePort, h.port, h.networkType, h.strings,
      fun l hl => ⟨(h.prefixes l hl).1, fun o ho p hp => (h.prefixes l hl).2 p (by rwa [← Option.mem_def.1 hp])⟩⟩⟩

def PlainItems.NoNilAddress (r : PlainItems) : Prop := ∀ l ∈ r.interfaceAddresses, none ∉ l

instance (r : PlainItems) : Decidable r.NoNilAddress := inferInstanceAs (Decidable (∀ l ∈ _, _))

@[simp] def domainSpec (recover : Bool) (v : UInt8) (rule : DefaultHeadlessRule Matcher AdGuardMatcher) :
    ItemSpec Matcher AdGuardMatcher where
  update r := { r with
    domainMatcher := (builtMatcher lib v rule).or r.domainMatcher
    domain := recovered recover (fun m => (lib.dumpMatcher m).1) (builtMatcher lib v rule) r.domain
    domainSuffix := recovered recover (fun m => (lib.dumpMatcher m).2) (builtMatcher lib v rule) r.domainSuffix }

@[simp] def adGuardDomainSpec (recover : Bool) (rule : DefaultHeadlessRule Matcher AdGuardMatcher) :
    ItemSpec Matcher AdGuardMatcher where
  update r := { r with
    adGuardDomainMatcher := (builtAdGuardMatcher lib rule).or r.adGuardDomainMatcher
    adGuardDomain := recovered recover lib.dumpAdGuardMatcher (builtAdGuardMatcher lib rule) r.adGuardDomain }

/-- What each item of `writeItems` does to the rule that is read. -/
def itemSpecs (recover : Bool) (v : UInt8)
    (rule : DefaultHeadlessRule Matcher AdGuardMatcher) : List (ItemSpec Matcher AdGuardMatcher) :=
  [ { update := fun r => { r with queryType := overwrite r.queryType rule.queryType } },
    { update := fun r => { r with network := overwrite r.network rule.network } },
    domainSpec lib recover v rule,
    { update := fun r => { r with domainKeyword := overwrite r.domainKeyword rule.domainKeyword } },
    { update := fun r => { r with domainRegex := overwrite r.domainRegex rule.domainRegex } },
    { update := fun r => { r with
        sourceIPSet := (builtSet lib rule.sourceIPCIDR).or r.sourceIPSet
        sourceIPCIDR := recovered recover (fun s => (lib.prefixes s).map some) (builtSet lib rule.sourceIPCIDR)
          r.sourceIPCIDR } },
    { update := fun r => { r with
        ipSet := (builtSet lib rule.ipCIDR).or r.ipSet
        ipCIDR := recovered recover (fun s => (lib.prefixes s).map some) (builtSet lib rule.ipCIDR) r.ipCIDR } },
    { update := fun r => { r with sourcePort := overwrite r.sourcePort rule.sourcePort } },
    { update := fun r => { r with sourcePortRange := overwrite r.sourcePortRange rule.sourcePortRange } },
    { update := fun r => { r with port := overwrite r.port rule.port } },
    { update := fun r => { r with portRange := overwrite r.portRange rule.portRange } },
    { update := fun r => { r with processName := overwrite r.processName rule.processName } },
    { update := fun r => { r with processPath := overwrite r.processPath rule.processPath } },
    { update := fun r => { r with processPathRegex := overwrite r.processPathRegex rule.processPathRegex } },
    { update := fun r => { r with packageName := overwrite r.packageName rule.packageName } },
    { update := fun r => { r with packageNameRegex := overwrite r.packageNameRegex rule.packageNameRegex } },
    { update := fun r => { r with networkType := overwrite r.networkType rule.networkType } },
    { update := fun r => { r with networkIsExpensive := rule.networkIsExpensive || r.networkIsExpensive } },
    { update := fun r => { r with networkIsConstrained := rule.networkIsConstrained || r.networkIsConstrained } },
    { update := fun r => { r with
        networkInterfaceAddress := if rule.networkInterfaceAddress.entries.length > 0
          then rule.networkInterfaceAddress else r.networkInterfaceAddress }
      readable := ∀ e ∈ rule.networkInterfaceAddress.entries, none ∉ e.2 },
    { update := fun r => { r with
        defaultInterfaceAddress := overwrite r.defaultInterfaceAddress rule.defaultInterfaceAddress }
      readable := none ∉ rule.defaultInterfaceAddress },
    { update := fun r => { r with wifiSSID := overwrite r.wifiSSID rule.wifiSSID } },
    { update := fun r => { r with wifiBSSID := overwrite r.wifiBSSID rule.wifiBSSID } },
    adGuardDomainSpec lib recover rule ]

end

section Default
variable {recover : Bool} {v : UInt8} {rule : DefaultHeadlessRule Matcher AdGuardMatcher}

lemma meets_strings (h : lib.Documented) (hp : rule.Parsed) (item : ItemType) {l : List Str}
    (get : DefaultHeadlessRule Matcher AdGuardMatcher → List Str)
    (set : DefaultHeadlessRule Matcher AdGuardMatcher → List Str → DefaultHeadlessRule Matcher AdGuardMatcher)
    (hl : l ∈ rule.stringLists := by simp) (hitem : item ≠ .final := by exact nofun)
    (hset : ∀ r, set r (get r) = r := by exact fun _ => rfl)
    (hread : ∀ r, readItem lib recover item r = set r <$> readRuleItemString lib := by exact fun _ => rfl) :
    Meets lib recover (writeIf (l.length > 0) (.ok (writeRuleItemString lib item l)))
      { update := fun r => set r (overwrite (get r) l) } :=
  meets_list item hitem (reads_readRuleItemString h (hp.strings l hl).1 (hp.strings l hl).2) get set hset hread

lemma meets_uint16s (h : lib.Documented) (item : ItemType) {l : List UInt16} (hl : l.length < 2 ^ 63)
    (get : DefaultHeadlessRule Matcher AdGuardMatcher → List UInt16)
    (set : DefaultHeadlessRule Matcher AdGuardMatcher → List UInt16 → DefaultHeadlessRule Matcher AdGuardMatcher)
    (hitem : item ≠ .final := by exact nofun) (hset : ∀ r, set r (get r) = r := by exact fun _ => rfl)
    (hread : ∀ r, readItem lib recover item r = set r <$> lib.readUint16s := by exact fun _ => rfl) :
    Meets lib recover (writeIf (l.length > 0) (.ok (writeRuleItemUint16 lib item l)))
      { update := fun r => set r (overwrite (get r) l) } := by
  refine meets_list item hitem ?_ get set hset hread
  rw [h.writeUvarint _ (by omega)]
  exact h.readUint16s l hl

lemma meets_flag {c : Bool} (item : ItemType) (hitem : item ≠ .final)
    (get : DefaultHeadlessRule Matcher AdGuardMatcher → Bool)
    (set : DefaultHeadlessRule Matcher AdGuardMatcher → Bool → DefaultHeadlessRule Matcher AdGuardMatcher)
    (hset : ∀ r, set r (get r) = r := by exact fun _ => rfl)
    (hread : ∀ r, readItem lib recover item r = pure (set r true) := by exact fun _ => rfl) :
    Meets lib recover (writeIf c (.ok [item.toByte])) { update := fun r => set r (c || get r) } := by
  refine meets_of hitem (fun hc => ⟨trivial, fun r => ?_⟩) (fun hc _ r => ?_) (fun _ hn => absurd trivial hn)
  · rw [hc]
    exact hset r
  rw [hc, hread]
  exact Reads.pure _

section
variable (h : lib.Documented)
include h

lemma meets_domain :
    Meets lib recover (writeIf (rule.domain.length > 0 || rule.domainSuffix.length > 0) (writeDomain lib v rule))
      (domainSpec lib recover v rule) := by
  intro chunk hchunk
  refine ⟨fun _ => ?_, fun hn => absurd trivial hn⟩
  unfold domainSpec builtMatcher
  cases hc : (rule.domain.length > 0 || rule.domainSuffix.length > 0 : Bool) with
  | false =>
    rw [hc] at hchunk
    cases hchunk
    exact .inl ⟨rfl, fun r => rfl⟩
  | true =>
    rw [hc] at hchunk
    simp only [writeIf, if_true, writeDomain] at hchunk
    split at hchunk
    · cases hchunk
    split at hchunk
    · cases hchunk
    cases hm : lib.writeMatcher (lib.newMatcher rule.domain rule.domainSuffix (v == 1)) with
    | error e => simp [hm, bind, Except.bind] at hchunk
    | ok b =>
      simp only [hm, bind, Except.bind, pure, Except.pure, Except.ok.injEq] at hchunk
      subst hchunk
      refine .inr ⟨.domain, b, nofun, rfl, fun r => (h.readMatcher _ b hm).bind_nil ?_⟩
      cases recover <;> exact Reads.pure _

lemma meets_adGuardDomain :
    Meets lib recover (writeIf (rule.adGuardDomain.length > 0) (writeAdGuardDomain lib v rule))
      (adGuardDomainSpec lib recover rule) := by
  intro chunk hchunk
  refine ⟨fun _ => ?_, fun hn => absurd trivial hn⟩
  unfold adGuardDomainSpec builtAdGuardMatcher
  by_cases hc : rule.adGuardDomain.length > 0
  · simp only [writeIf, hc, decide_true, if_true, writeAdGuardDomain] at hchunk ⊢
    split at hchunk
    · cases hchunk
    cases hm : lib.writeAdGuardMatcher (lib.newAdGuardMatcher rule.adGuardDomain) with
    | error e => simp [hm, bind, Except.bind] at hchunk
    | ok b =>
      simp only [hm, bind, Except.bind, pure, Except.pure, Except.ok.injEq] at hchunk
      subst hchunk
      refine .inr ⟨.adGuardDomain, b, nofun, rfl, fun r => (h.readAdGuardMatcher _ b hm).bind_nil ?_⟩
      cases recover <;> exact Reads.pure _
  · simp only [writeIf, hc, decide_false, if_false] at hchunk ⊢
    cases hchunk
    exact .inl ⟨rfl, fun r => rfl⟩

lemma meets_cidr {value : List (Option Prefix)} {message : String} (item : ItemType)
    (hitem : item ≠ .final) (getSet : DefaultHeadlessRule Matcher AdGuardMatcher → Option IPSet)
    (getList : DefaultHeadlessRule Matcher AdGuardMatcher → List (Option Prefix))
    (set : DefaultHeadlessRule Matcher AdGuardMatcher → Option IPSet → List (Option Prefix) →
      DefaultHeadlessRule Matcher AdGuardMatcher)
    (hset : ∀ r, set r (getSet r) (getList r) = r := by exact fun _ => rfl)
    (hread : ∀ r, readItem lib recover item r = readIPSet >>= fun s =>
      pure (set r (some s) (if recover then (lib.prefixes s).map some else getList r)) := by exact fun _ => rfl) :
    Meets lib recover (writeIf (value.length > 0) (writeCause message (writeRuleItemCIDR lib item value)))
      { update := fun r => set r ((builtSet lib value).or (getSet r))
          (recovered recover (fun s => (lib.prefixes s).map some) (builtSet lib value) (getList r)) } := by
  intro chunk hchunk
  refine ⟨fun _ => ?_, fun hn => absurd trivial hn⟩
  unfold builtSet
  by_cases hc : value.length > 0
  · simp only [writeIf, hc, decide_true, if_true, writeRuleItemCIDR] at hchunk ⊢
    cases hm : lib.buildIPSet (value.map build) with
    | error e => simp [hm, bind, Except.bind, writeCause] at hchunk
    | ok ipSet =>
      simp only [hm, bind, Except.bind, pure, Except.pure, writeCause, Except.ok.injEq] at hchunk
      subst hchunk
      refine .inr ⟨item, _, hitem, rfl, fun r => ?_⟩
      rw [hread]
      refine (reads_readIPSet h (by rw [fromIPSet_length]; exact ipSet.length_lt)).bind_nil ?_
      cases recover <;> exact Reads.pure _
  · simp only [writeIf, hc, decide_false, if_false] at hchunk ⊢
    cases hchunk
    exact .inl ⟨rfl, hset⟩

variable {e : UInt8 × List (Option Prefix)} (hl : e.2.length < 2 ^ 63) (hv : ∀ p, some p ∈ e.2 → p.isValid = true)
include hl hv

lemma reads_readInterfaceEntry (hn : none ∉ e.2) :
    Reads (readInterfaceEntry lib) (e.1 :: writePrefixes lib e.2) e :=
  (reads_byte e.1).bind ((reads_readPrefixes h hl hv hn).bind_nil (Reads.pure e))

lemma rejects_readInterfaceEntry (hn : none ∈ e.2) :
    Rejects (readInterfaceEntry lib) (e.1 :: writePrefixes lib e.2) :=
  (reads_byte e.1).bind_rejects ((rejects_readPrefixes h hl hv hn).bind _)

end

lemma TypedMap.length_lt {α : Type} (m : TypedMap α) : m.entries.length < 2 ^ 64 := by
  have hnodup := m.nodup.map (fun a b hab => UInt8.toNat_inj.1 hab : Function.Injective UInt8.toNat)
  have hrange : (m.entries.map Prod.fst).map UInt8.toNat ⊆ range 256 := fun x hx => by
    obtain ⟨b, -, rfl⟩ := mem_map.1 hx
    exact mem_range.2 b.toNat_lt
  have := (hnodup.subperm hrange).length_le
  simp at this
  omega

section
variable (h : lib.Documented) (hp : rule.Parsed)
include h hp

lemma meets_networkInterfaceAddress : Meets lib recover (writeIf (rule.networkInterfaceAddress.entries.length > 0)
      (.ok (ItemType.networkInterfaceAddress.toByte ::
        lib.writeUvarint rule.networkInterfaceAddress.entries.length ++
          rule.networkInterfaceAddress.entries.flatMap fun e => e.1 :: writePrefixes lib e.2)))
      { update := fun r => { r with
          networkInterfaceAddress := if rule.networkInterfaceAddress.entries.length > 0
            then rule.networkInterfaceAddress else r.networkInterfaceAddress }
        readable := ∀ e ∈ rule.networkInterfaceAddress.entries, none ∉ e.2 } := by
  have hlen := rule.networkInterfaceAddress.length_lt
  have hparsed : ∀ e ∈ rule.networkInterfaceAddress.entries,
      e.2.length < 2 ^ 63 ∧ ∀ p, some p ∈ e.2 → p.isValid = true := fun e he =>
    hp.prefixes e.2 (mem_cons_of_mem _ (mem_map_of_mem he))
  refine meets_of nofun (fun hc => ?_) (fun hc hgiven r => ?_) (fun hc hmiss r => ?_)
  · have hc := of_decide_eq_false hc
    have hnil : rule.networkInterfaceAddress.entries = [] := length_eq_zero_iff.1 (by omega)
    exact ⟨by simp [hnil], fun r => by simp [hnil]⟩
  · simp only [of_decide_eq_true hc, if_true]
    refine (h.reads_uvarint hlen).bind ((reads_repeat fun e he => ?_).bind_nil ?_)
    · exact reads_readInterfaceEntry h (hparsed e he).1 (hparsed e he).2 (hgiven e he)
    rw [foldl_put_entries]
    exact Reads.pure _
  simp only [not_forall, not_not] at hmiss
  obtain ⟨e, he, hn⟩ := hmiss
  have hbad := rejects_readInterfaceEntry h (hparsed e he).1 (hparsed e he).2 hn
  refine (h.reads_uvarint hlen).bind_rejects ((rejects_repeatFrom (fun _ e he => ?_) ⟨e, he, fun _ => hbad⟩ 0).bind _)
  by_cases hn : none ∈ e.2
  · exact .inr (rejects_readInterfaceEntry h (hparsed e he).1 (hparsed e he).2 hn)
  · exact .inl ⟨e, reads_readInterfaceEntry h (hparsed e he).1 (hparsed e he).2 hn⟩

lemma meets_defaultInterfaceAddress : Meets lib recover (writeIf (rule.defaultInterfaceAddress.length > 0)
      (.ok (ItemType.defaultInterfaceAddress.toByte :: writePrefixes lib rule.defaultInterfaceAddress)))
      { update := fun r => { r with
          defaultInterfaceAddress := overwrite r.defaultInterfaceAddress rule.defaultInterfaceAddress }
        readable := none ∉ rule.defaultInterfaceAddress } := by
  obtain ⟨hl, hv⟩ := hp.prefixes rule.defaultInterfaceAddress (by simp [PlainItems.interfaceAddresses])
  refine meets_of nofun (fun hc => ?_) (fun hc hgiven r => ?_) (fun hc hmiss r => ?_)
  · have hc := of_decide_eq_false hc
    have hnil : rule.defaultInterfaceAddress = [] := length_eq_zero_iff.1 (by omega)
    exact ⟨by simp [hnil], fun r => by simp [hnil, overwrite]⟩
  · simp only [overwrite, of_decide_eq_true hc, if_true]
    exact (reads_readPrefixes h hl hv hgiven).map _
  · exact (rejects_readPrefixes h hl hv (not_not.1 hmiss)).map _

lemma meets_itemSpecs : List.Forall₂ (Meets lib recover) (writeItems lib v rule) (itemSpecs lib recover v rule) := by
  unfold writeItems itemSpecs
  repeat' apply List.Forall₂.cons
  · exact meets_uint16s h .queryType hp.queryType (·.queryType) fun r l => { r with queryType := l }
  · exact meets_strings h hp .network (·.network) fun r l => { r with network := l }
  · exact meets_domain h
  · exact meets_strings h hp .domainKeyword (·.domainKeyword) fun r l => { r with domainKeyword := l }
  · exact meets_strings h hp .domainRegex (·.domainRegex) fun r l => { r with domainRegex := l }
  · exact meets_cidr h .sourceIPCIDR nofun (·.sourceIPSet) (·.sourceIPCIDR)
      fun r s l => { r with sourceIPSet := s, sourceIPCIDR := l }
  · exact meets_cidr h .ipCIDR nofun (·.ipSet) (·.ipCIDR) fun r s l => { r with ipSet := s, ipCIDR := l }
  · exact meets_uint16s h .sourcePort hp.sourcePort (·.sourcePort) fun r l => { r with sourcePort := l }
  · exact meets_strings h hp .sourcePortRange (·.sourcePortRange) fun r l => { r with sourcePortRange := l }
  · exact meets_uint16s h .port hp.port (·.port) fun r l => { r with port := l }
  · exact meets_strings h hp .portRange (·.portRange) fun r l => { r with portRange := l }
  · exact meets_strings h hp .processName (·.processName) fun r l => { r with processName := l }
  · exact meets_strings h hp .processPath (·.processPath) fun r l => { r with processPath := l }
  · exact meets_strings h hp .processPathRegex (·.processPathRegex) fun r l => { r with processPathRegex := l }
  · exact meets_strings h hp .packageName (·.packageName) fun r l => { r with packageName := l }
  · exact (meets_strings h hp .packageNameRegex (·.packageNameRegex) fun r l => { r with packageNameRegex := l }).since
  · refine (meets_list (d := lib.readBytes) .networkType nofun ?_ (·.networkType) fun r l => { r with networkType := l }).since
    rw [h.writeUvarint _ (by have := hp.networkType; omega)]
    exact h.readBytes _ hp.networkType
  · exact (meets_flag .networkIsExpensive nofun (·.networkIsExpensive) fun r b => { r with networkIsExpensive := b }).since
  · exact (meets_flag .networkIsConstrained nofun (·.networkIsConstrained) fun r b => { r with networkIsConstrained := b }).since
  · exact (meets_networkInterfaceAddress h hp).since
  · exact (meets_defaultInterfaceAddress h hp).since
  · exact meets_strings h hp .wifiSSID (·.wifiSSID) fun r l => { r with wifiSSID := l }
  · exact meets_strings h hp .wifiBSSID (·.wifiBSSID) fun r l => { r with wifiBSSID := l }
  · exact meets_adGuardDomain h
  · exact .nil

end
end Default

lemma describes_of_meets {recover : Bool} {items : List (Except String (List UInt8))}
    {specs : List (ItemSpec Matcher AdGuardMatcher)} (h : List.Forall₂ (Meets lib recover) items specs)
    {chunks : List (List UInt8)} (hw : items.mapM id = .ok chunks) :
    List.Forall₂ (fun chunk spec => spec.Describes lib recover chunk) chunks specs := by
  have hw := Lists.mapM_ok hw
  clear * - h hw
  induction h generalizing chunks with
  | nil =>
    cases hw
    exact .nil
  | cons hm _ ih =>
    cases hw with
    | cons hc hw => exact .cons (hm _ hc) (ih hw)

section Loop
variable {recover : Bool} {chunks : List (List UInt8)} {specs : List (ItemSpec Matcher AdGuardMatcher)}

lemma readItems_cons {item : ItemType} (hitem : item ≠ .final) (fuel : Nat) (last : UInt8)
    (r : DefaultHeadlessRule Matcher AdGuardMatcher) (input : List UInt8) :
    (readItems lib recover (fuel + 1) last r).run (item.toByte :: input) =
      ((readItem lib recover item r) >>= readItems lib recover fuel item.toByte).run input := by
  rw [readItems]
  simp only [StateT.run_bind]
  have hbyte : byte.run (item.toByte :: input) = .ok (item.toByte, input) := rfl
  rw [hbyte]
  cases item with
  | final => exact absurd rfl hitem
  | _ => rfl

variable (h : List.Forall₂ (fun chunk spec => spec.Describes lib recover chunk) chunks specs)
include h

lemma readItems_chunks (hr : ∀ spec ∈ specs, spec.readable) : ∀ (fuel : Nat) (last : UInt8)
      (r : DefaultHeadlessRule Matcher AdGuardMatcher), chunks.flatten.length < fuel → ∃ fuel' last', 0 < fuel' ∧
      ∀ rest, (readItems lib recover fuel last r).run (chunks.flatten ++ rest) =
        (readItems lib recover fuel' last' (specs.foldl (fun r spec => spec.update r) r)).run rest := by
  induction h with
  | nil => exact fun fuel last r hf => ⟨fuel, last, hf, fun _ => rfl⟩
  | @cons chunk spec chunks specs hd _ ih =>
    obtain ⟨hspec, hspecs⟩ := forall_mem_cons.1 hr
    intro fuel last r hf
    rw [flatten_cons, length_append] at hf
    rcases hd.1 hspec with ⟨rfl, hsame⟩ | ⟨item, payload, hitem, rfl, hread⟩
    · obtain ⟨fuel', last', hpos, hrun⟩ := ih hspecs fuel last r (by simpa using hf)
      refine ⟨fuel', last', hpos, fun rest => ?_⟩
      rw [foldl_cons, hsame, ← hrun]
      rfl
    obtain ⟨fuel, rfl⟩ : ∃ n, fuel = n + 1 := ⟨fuel - 1, by omega⟩
    obtain ⟨fuel', last', hpos, hrun⟩ := ih hspecs fuel item.toByte (spec.update r)
      (by simp only [length_cons] at hf; omega)
    refine ⟨fuel', last', hpos, fun rest => ?_⟩
    rw [foldl_cons, ← hrun, flatten_cons, append_assoc, cons_append, readItems_cons hitem, StateT.run_bind, hread]
    rfl

lemma readItems_rejects (hr : ∃ spec ∈ specs, ¬ spec.readable) : ∀ (fuel : Nat) (last : UInt8)
      (r : DefaultHeadlessRule Matcher AdGuardMatcher), chunks.flatten.length < fuel →
      Rejects (readItems lib recover fuel last r) chunks.flatten := by
  induction h with
  | nil => exact absurd hr (by simp)
  | @cons chunk spec chunks specs hd _ ih =>
    intro fuel last r hf rest
    rw [flatten_cons, length_append] at hf
    rw [flatten_cons, append_assoc]
    by_cases hspec : spec.readable
    · have hr : ∃ spec ∈ specs, ¬ spec.readable := by
        obtain ⟨s, hs, hn⟩ := hr
        rcases mem_cons.1 hs with rfl | hs
        · exact absurd hspec hn
        · exact ⟨s, hs, hn⟩
      rcases hd.1 hspec with ⟨rfl, -⟩ | ⟨item, payload, hitem, rfl, hread⟩
      · exact ih hr fuel last r (by simpa using hf) rest
      obtain ⟨fuel, rfl⟩ : ∃ n, fuel = n + 1 := ⟨fuel - 1, by omega⟩
      rw [cons_append, readItems_cons hitem, StateT.run_bind, hread]
      exact ih hr fuel _ _ (by simp only [length_cons] at hf; omega) rest
    · obtain ⟨item, payload, hitem, rfl, hrej⟩ := hd.2 hspec
      obtain ⟨fuel, rfl⟩ : ∃ n, fuel = n + 1 := ⟨fuel - 1, by omega⟩
      rw [cons_append, readItems_cons hitem]
      exact (hrej r).bind _ _

end Loop
end SingBox.Srs
