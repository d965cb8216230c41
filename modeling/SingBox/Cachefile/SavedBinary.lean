import SingBox.Lib.Decoder
/-!
# The envelope of saved binaries

The cache file saves rule-sets, subscriptions and external UIs as a
`SavedBinary` of the upstream format (`adapter/experimental.go`) inside an
envelope of its own (`experimental/cachefile/saved_binary.go`), which adds the
hash. Times are whole seconds; an empty slice stands for nil too.
-/
namespace SingBox.Cachefile
open Decoder List

structure HashType where
  md5 : List UInt8
  length_eq : md5.length = 16

namespace HashType

def len : Nat := 16
def zero : HashType := ⟨replicate 16 0, rfl⟩

def unmarshalBinary (data : List UInt8) : Except String HashType :=
  if h : data.length = 16 then .ok ⟨data, h⟩ else .error "invalid hash length"

end HashType

/-- `adapter.SavedBinary`; `lastUpdated` is the Unix time. -/
structure SavedBinary where
  hash : HashType := .zero
  content : List UInt8 := []
  lastUpdated : Int64
  lastEtag : List UInt8 := []
  urlHash : List UInt8 := []

def branchBinaryMagic : List UInt8 := "\x00reF1nd:SavedBinary\x00".toUTF8.data.toList
def branchBinaryVersion : UInt8 := 1

section
variable (writeUvarint : Nat → List UInt8)

def SavedBinary.marshalBinary (s : SavedBinary) : List UInt8 :=
  [2] ++ (writeUvarint s.content.length ++ s.content) ++ Bytes.bigEndian 8 s.lastUpdated.toUInt64.toNat ++
    (writeUvarint s.lastEtag.length ++ s.lastEtag) ++ (writeUvarint s.urlHash.length ++ s.urlHash)

def marshalBranchBinary (value : SavedBinary) : List UInt8 :=
  branchBinaryMagic ++ ([branchBinaryVersion] ++ (writeUvarint (value.marshalBinary writeUvarint).length ++
    (value.marshalBinary writeUvarint ++ value.hash.md5)))

end

def lengthPrefixed (what : String) : Decoder (List UInt8) := do
  let length ← uvarint
  let reader ← get
  if length > reader.length then throw ("invalid " ++ what ++ " length: " ++ toString length)
  else full length

/-- The reader of `SavedBinary.UnmarshalBinary`. -/
def readSavedBinary : Decoder SavedBinary := do
  let version ← byte
  let content ← lengthPrefixed "content"
  let lastUpdated ← bigEndian 8
  let lastEtag ← lengthPrefixed "etag"
  if version < 2 then pure { content, lastUpdated := (UInt64.ofNat lastUpdated).toInt64, lastEtag }
  else
    let urlHash ← lengthPrefixed "url hash"
    pure { content, lastUpdated := (UInt64.ofNat lastUpdated).toInt64, lastEtag, urlHash }

/-- `SavedBinary.UnmarshalBinary`: what follows the fields is not looked at. -/
def SavedBinary.unmarshalBinary (data : List UInt8) : Except String SavedBinary :=
  (readSavedBinary.run data).map Prod.fst

def readPayload (length : Nat) : Decoder SavedBinary := do
  let payload ← full length
  if payload.head? ≠ some 1 ∧ payload.head? ≠ some 2 then throw "unsupported SavedBinary version"
  else
    let value ← (SavedBinary.unmarshalBinary payload : Except String SavedBinary)
    let extension ← full HashType.len
    let hash ← (HashType.unmarshalBinary extension : Except String HashType)
    pure { value with hash }

/-- `unmarshalBranchBinary` behind the magic bytes. -/
def readBranchBinary : Decoder SavedBinary := do
  let version ← byte
  if version ≠ branchBinaryVersion then throw ("unsupported branch cache version: " ++ toString version)
  else
    let length ← uvarint
    let reader ← get
    if reader.length < HashType.len ∨ length ≠ reader.length - HashType.len then
      throw "invalid branch cache payload length"
    else readPayload length

def unmarshalBranchBinary (data : List UInt8) : Except String SavedBinary :=
  if branchBinaryMagic.isPrefixOf data then
    (readBranchBinary.run (data.drop branchBinaryMagic.length)).map Prod.fst
  else .error "invalid branch cache magic"

/-! ## Round trip -/

lemma reads_lengthPrefixed (what : String) {l : List UInt8} (h : l.length < 2 ^ 64) :
    Reads (lengthPrefixed what) (Bytes.uvarint l.length ++ l) l := by
  refine (reads_uvarint h).bind ?_
  intro rest
  have hlength : ¬ l.length > (l ++ rest).length := by
    rw [length_append]
    omega
  have hfull := reads_full (l := l) rfl rest
  simp only [StateT.run_bind, StateT.run_get, pure_bind, if_neg hlength]
  exact hfull

section
variable {writeUvarint : Nat → List UInt8} (hw : ∀ x < 2 ^ 64, writeUvarint x = Bytes.uvarint x)
include hw

section
variable {s : SavedBinary} (h : (s.marshalBinary writeUvarint).length < 2 ^ 63)
include h

lemma reads_savedBinary : Reads readSavedBinary (s.marshalBinary writeUvarint) { s with hash := .zero } := by
  have hlengths : s.content.length < 2 ^ 64 ∧ s.lastEtag.length < 2 ^ 64 ∧ s.urlHash.length < 2 ^ 64 := by
    simp only [SavedBinary.marshalBinary, length_append] at h
    omega
  obtain ⟨hcontent, hetag, hurl⟩ := hlengths
  have htime : Reads (bigEndian 8) (Bytes.bigEndian 8 s.lastUpdated.toUInt64.toNat) s.lastUpdated.toUInt64.toNat :=
    reads_bigEndian s.lastUpdated.toUInt64.toNat_lt
  rw [SavedBinary.marshalBinary, hw _ hcontent, hw _ hetag, hw _ hurl, append_assoc, append_assoc,
    append_assoc]
  refine (reads_byte 2).bind ((reads_lengthPrefixed "content" hcontent).bind (htime.bind
    ((reads_lengthPrefixed "etag" hetag).bind ?_)))
  refine (reads_lengthPrefixed "url hash" hurl).bind_nil ?_
  rw [UInt64.ofNat_toNat]
  exact Reads.pure _

lemma unmarshalBinary_marshalBinary :
    SavedBinary.unmarshalBinary (s.marshalBinary writeUvarint) = .ok { s with hash := .zero } := by
  have hreads := reads_savedBinary hw h []
  rw [append_nil] at hreads
  rw [SavedBinary.unmarshalBinary, hreads]
  rfl

end

section
variable {value : SavedBinary} (h : (value.marshalBinary writeUvarint).length < 2 ^ 63)
include h

lemma reads_payload : Reads (readPayload (value.marshalBinary writeUvarint).length)
      (value.marshalBinary writeUvarint ++ value.hash.md5) value := by
  have hhash : HashType.unmarshalBinary value.hash.md5 = .ok value.hash := dif_pos value.hash.length_eq
  have hversion : (value.marshalBinary writeUvarint).head? = some 2 := rfl
  refine (reads_full rfl).bind ?_
  rw [hversion, if_neg (by decide)]
  refine (Reads.lift (unmarshalBinary_marshalBinary hw h)).bind ((reads_full value.hash.length_eq).bind_nil ?_)
  exact (Reads.lift hhash).bind (Reads.pure value)

lemma readBranchBinary_marshal :
    readBranchBinary.run ([branchBinaryVersion] ++ (writeUvarint (value.marshalBinary writeUvarint).length ++
      (value.marshalBinary writeUvarint ++ value.hash.md5))) = .ok (value, []) := by
  have hpayload := reads_payload hw h []
  rw [append_nil] at hpayload
  generalize value.marshalBinary writeUvarint = payload at h hpayload ⊢
  have huvarint := reads_uvarint (show payload.length < 2 ^ 64 by omega) (payload ++ value.hash.md5)
  have hlength : (payload ++ value.hash.md5).length = payload.length + HashType.len := by
    rw [length_append, value.hash.length_eq]
    rfl
  rw [hw _ (by omega), readBranchBinary, run_bind_of_ok (reads_byte branchBinaryVersion _), if_neg (not_not.2 rfl),
    run_bind_of_ok huvarint, run_bind_of_ok (StateT.run_get _), if_neg (by rw [hlength]; omega)]
  exact hpayload

end

omit hw in
lemma readBranchBinary_length {data rest' : List UInt8} {value : SavedBinary}
    (h : readBranchBinary.run data = .ok (value, rest')) :
    ∃ length rest, uvarint.run (data.drop 1) = .ok (length, rest) ∧ rest.length = length + HashType.len := by
  obtain ⟨version, data', hbyte, h⟩ := of_bind_ok h
  have hdata : data.drop 1 = data' := by
    cases data with
    | nil => cases hbyte
    | cons b data =>
      cases hbyte
      rfl
  split at h
  · cases h
  obtain ⟨length, rest, huvarint, h⟩ := of_bind_ok h
  obtain ⟨reader, rest'', hget, h⟩ := of_bind_ok h
  cases hget
  split at h
  · cases h
  next hlength => exact ⟨length, rest, hdata ▸ huvarint, by omega⟩

end

/-- An envelope gives its value back, and an accepted envelope has as many bytes of payload as it declares. -/
theorem saved_binary_round_trip (writeUvarint : Nat → List UInt8)
    (hw : ∀ x < 2 ^ 64, writeUvarint x = Bytes.uvarint x) :
    (∀ value : SavedBinary, (value.marshalBinary writeUvarint).length < 2 ^ 63 →
      unmarshalBranchBinary (marshalBranchBinary writeUvarint value) = .ok value) ∧
    ∀ data value, unmarshalBranchBinary data = .ok value → ∃ length rest,
      uvarint.run (data.drop (branchBinaryMagic.length + 1)) = .ok (length, rest) ∧
        rest.length = length + HashType.len := by
  constructor
  · intro value h
    have hmagic : branchBinaryMagic.isPrefixOf (marshalBranchBinary writeUvarint value) = true :=
      isPrefixOf_iff_prefix.2 (prefix_append ..)
    rw [unmarshalBranchBinary, if_pos hmagic, marshalBranchBinary, drop_left, readBranchBinary_marshal hw h]
    rfl
  intro data value h
  rw [unmarshalBranchBinary] at h
  split at h
  · cases hrun : readBranchBinary.run (data.drop branchBinaryMagic.length) with
    | error e =>
      rw [hrun] at h
      cases h
    | ok r =>
      obtain ⟨length, rest, huvarint, hlength⟩ := readBranchBinary_length hrun
      rw [drop_drop] at huvarint
      exact ⟨length, rest, huvarint, hlength⟩
  · cases h

theorem saved_binary_round_trip_rules : unmarshalBranchBinary (marshalBranchBinary Bytes.uvarint
      { hash := .zero, content := [1, 2, 3], lastUpdated := 1750000000, lastEtag := [34], urlHash := [7] }) =
    .ok { hash := .zero, content := [1, 2, 3], lastUpdated := 1750000000, lastEtag := [34], urlHash := [7] } :=
  (saved_binary_round_trip Bytes.uvarint fun _ _ => rfl).1 _ (by decide)

end SingBox.Cachefile
