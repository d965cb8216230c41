import SingBox.Lib.Bytes
/-!
# The record of FakeIP metadata

`FakeIPMetadata` in the form the cache file stores: four elements, each with its length
in front. The addresses here have their zones, unlike in `Netip`.
-/
namespace SingBox.FakeIP
open List Bytes Slices Option

/-- `netip.Addr`. -/
inductive ZonedAddr
  | zero
  | v4 (address : BitVec 32)
  | v6 (address : BitVec 128) (zone : List UInt8)
  deriving DecidableEq

namespace ZonedAddr

def withoutZone : ZonedAddr → ZonedAddr
  | .v6 address _ => .v6 address []
  | ip => ip

def bitLen : ZonedAddr → Nat
  | .zero => 0
  | .v4 _ => 32
  | .v6 _ _ => 128

def marshalBinary : ZonedAddr → List UInt8
  | .zero => []
  | .v4 address => bigEndian 4 address.toNat
  | .v6 address zone => bigEndian 16 address.toNat ++ zone

/-- An error for a length that no address has. -/
def unmarshalBinary (b : List UInt8) : Option ZonedAddr :=
  if b.length = 0 then some .zero
  else if b.length = 4 then some (.v4 (BitVec.ofNat 32 (ofBigEndian b)))
  else if 16 ≤ b.length then some (.v6 (BitVec.ofNat 128 (ofBigEndian (b.take 16))) (b.drop 16))
  else none

end ZonedAddr

/-- `netip.Prefix`; `bits` is `none` when it is not valid. -/
structure ZonedPrefix where
  ip : ZonedAddr
  bits : Option Nat
  unzoned : ip.withoutZone = ip
  bounded : ∀ n ∈ bits, ip ≠ .zero ∧ n ≤ ip.bitLen

namespace ZonedPrefix

section
variable (ip : ZonedAddr)

lemma withoutZone_twice : ip.withoutZone.withoutZone = ip.withoutZone := by cases ip <;> rfl

def bitsFor (bits : Nat) : Option Nat := if ip ≠ .zero ∧ bits ≤ ip.bitLen then some bits else none

lemma bitsFor_bounded (bits : Nat) : ∀ n ∈ bitsFor ip bits, ip.withoutZone ≠ .zero ∧ n ≤ ip.withoutZone.bitLen := by
  intro n hn
  unfold bitsFor at hn
  split at hn
  next h =>
    cases hn
    cases ip with
    | zero => exact absurd rfl h.1
    | v4 address => exact ⟨by simp [ZonedAddr.withoutZone], h.2⟩
    | v6 address zone => exact ⟨by simp [ZonedAddr.withoutZone], h.2⟩
  · cases hn

def prefixFrom (bits : Nat) : ZonedPrefix :=
  ⟨ip.withoutZone, bitsFor ip bits, withoutZone_twice ip, bitsFor_bounded ip bits⟩

end

/-- The last byte is `uint8(p.Bits())`, where an invalid prefix has -1 bits. -/
def marshalBinary (p : ZonedPrefix) : List UInt8 := p.ip.marshalBinary ++ [UInt8.ofNat (p.bits.getD 255)]

def unmarshalBinary (b : List UInt8) : Option ZonedPrefix :=
  match b.getLast? with
  | none => none
  | some bits => (ZonedAddr.unmarshalBinary b.dropLast).map (prefixFrom · bits.toNat)

end ZonedPrefix

inductive Element
  | range (p : ZonedPrefix)
  | current (a : ZonedAddr)

namespace Element

def marshalBinary : Element → List UInt8
  | .range p => p.marshalBinary
  | .current a => a.marshalBinary

/-- `UnmarshalBinary` of a field of the same type. -/
def unmarshalLike (isRange : Bool) (b : List UInt8) : Option Element :=
  if isRange then (ZonedPrefix.unmarshalBinary b).map .range else (ZonedAddr.unmarshalBinary b).map .current

def isRange : Element → Bool
  | .range _ => true
  | .current _ => false

end Element

structure Metadata where
  inet4Range : ZonedPrefix
  inet6Range : ZonedPrefix
  inet4Current : ZonedAddr
  inet6Current : ZonedAddr

namespace Metadata

def elements (m : Metadata) : List Element :=
  [.range m.inet4Range, .range m.inet6Range, .current m.inet4Current, .current m.inet6Current]

/-- An element after its length as a `uint16`. -/
def frame (data : List UInt8) : List UInt8 := bigEndian 2 data.length ++ data
def marshalBinary (m : Metadata) : List UInt8 := m.elements.flatMap fun e => frame e.marshalBinary

/-- The loop over the fields: `binary.Read` of a length must not fail, or the call panics. -/
def unmarshalLoop : List Bool → List UInt8 → Go (Option (List Element))
  | [], _ => return some []
  | isRange :: fields, data =>
    if data.length < 2 then .error .panic
    else
      let length := ofBigEndian (data.take 2)
      let data := data.drop 2
      if data.length < length then return none
      else match Element.unmarshalLike isRange (data.take length) with
        | none => return none
        | some e => return (← unmarshalLoop fields (data.drop length)).map (e :: ·)

def ofElements : List Element → Option Metadata
  | [.range r₄, .range r₆, .current c₄, .current c₆] => some ⟨r₄, r₆, c₄, c₆⟩
  | _ => none

def fields : List Bool := [true, true, false, false]
def unmarshalBinary (data : List UInt8) : Go (Option Metadata) := return (← unmarshalLoop fields data).bind ofElements

end Metadata

variable {b : List UInt8} {m : Go (Option (List Element))} {e : Element} {es : List Element}

/-! ## Elements -/

lemma ZonedAddr.unmarshal_marshal (a : ZonedAddr) : unmarshalBinary a.marshalBinary = some a := by
  cases a with
  | zero => rfl
  | v4 address =>
    have h := ofBigEndian_bigEndian (n := 4) address.isLt
    simp [unmarshalBinary, marshalBinary, h]
  | v6 address zone =>
    have h := ofBigEndian_bigEndian (n := 16) address.isLt
    have hlen : ¬ 16 + zone.length = 4 := by omega
    simp [unmarshalBinary, marshalBinary, h, hlen]

lemma ZonedAddr.marshal_unmarshal_length {a : ZonedAddr} (h : unmarshalBinary b = some a) :
    a.marshalBinary.length = b.length := by
  unfold unmarshalBinary at h
  split_ifs at h with h0 h4 h16 <;> cases h
  · exact h0.symm
  · simp [marshalBinary, h4]
  simp [marshalBinary]
  omega

lemma ZonedPrefix.unmarshal_marshal (p : ZonedPrefix) : unmarshalBinary p.marshalBinary = some p := by
  obtain ⟨ip, bits, hzone, hbits⟩ := p
  simp only [unmarshalBinary, marshalBinary, getLast?_concat, dropLast_concat, ZonedAddr.unmarshal_marshal, map_some,
    prefixFrom, some.injEq, ZonedPrefix.mk.injEq]
  refine ⟨hzone, ?_⟩
  have hlen : ip.bitLen ≤ 128 := by cases ip <;> simp [ZonedAddr.bitLen]
  cases bits with
  | none => exact if_neg fun h => absurd h.2 (by simp; omega)
  | some n =>
    obtain ⟨hne, hn⟩ := hbits n rfl
    have hbyte : (UInt8.ofNat n).toNat = n := by
      rw [UInt8.toNat_ofNat']
      omega
    rw [getD_some, hbyte]
    exact if_pos ⟨hne, hn⟩

lemma ZonedPrefix.marshal_unmarshal_length {p : ZonedPrefix} (h : unmarshalBinary b = some p) :
    p.marshalBinary.length ≤ b.length := by
  unfold unmarshalBinary at h
  split at h
  · cases h
  next bits hlast =>
    obtain ⟨ip, hip, rfl⟩ := map_eq_some_iff.1 h
    have hlen := ZonedAddr.marshal_unmarshal_length hip
    have hunzoned : ip.withoutZone.marshalBinary.length ≤ ip.marshalBinary.length := by
      cases ip <;> simp [ZonedAddr.withoutZone, ZonedAddr.marshalBinary]
    have hne : b ≠ [] := by
      rintro rfl
      cases hlast
    have := length_pos_of_ne_nil hne
    rw [length_dropLast] at hlen
    simp only [marshalBinary, prefixFrom, length_append, length_singleton]
    omega

namespace Element
variable {isRange : Bool} {b : List UInt8} {e : Element}

lemma unmarshal_marshal (e : Element) : unmarshalLike e.isRange e.marshalBinary = some e := by
  cases e with
  | range p => exact congrArg (Option.map _) p.unmarshal_marshal
  | current a => exact congrArg (Option.map _) a.unmarshal_marshal

lemma marshal_unmarshal_length (h : unmarshalLike isRange b = some e) : e.marshalBinary.length ≤ b.length := by
  unfold unmarshalLike at h
  split at h
  · obtain ⟨p, hp, rfl⟩ := map_eq_some_iff.1 h
    exact ZonedPrefix.marshal_unmarshal_length hp
  obtain ⟨a, ha, rfl⟩ := map_eq_some_iff.1 h
  exact Nat.le_of_eq (ZonedAddr.marshal_unmarshal_length ha)

end Element

/-! ## Records -/

namespace Metadata

/-- One round on an element and what follows it; a length of more than 16 bits is cut. -/
lemma unmarshalLoop_frame (isRange : Bool) (fields : List Bool) (x rest : List UInt8) :
    unmarshalLoop (isRange :: fields) (frame x ++ rest) =
      match Element.unmarshalLike isRange (x.take (x.length % 65536)) with
      | none => .ok none
      | some e => do return (← unmarshalLoop fields ((x ++ rest).drop (x.length % 65536))).map (e :: ·) := by
  have hlen : (frame x ++ rest).length = 2 + (x.length + rest.length) := by simp [frame]
  have htake : (frame x ++ rest).take 2 = bigEndian 2 x.length := by simp [frame]
  have hdrop : (frame x ++ rest).drop 2 = x ++ rest := by simp [frame]
  have hof : ofBigEndian (bigEndian 2 x.length) = x.length % 65536 := by
    rw [ofBigEndian, foldl_bigEndian, Nat.zero_mul, Nat.zero_add]
    rfl
  have hle := Nat.mod_le x.length 65536
  conv_lhs => unfold unmarshalLoop
  rw [if_neg (by omega)]
  dsimp only
  rw [htake, hof, hdrop, length_append, if_neg (by omega), take_append_of_le_length hle]
  rfl

lemma unmarshalLoop_frame_short {x : List UInt8} (hx : x.length < 65536) (isRange : Bool) (fields : List Bool)
    (rest : List UInt8) : unmarshalLoop (isRange :: fields) (frame x ++ rest) =
      match Element.unmarshalLike isRange x with
      | none => .ok none
      | some e => do return (← unmarshalLoop fields rest).map (e :: ·) := by
  rw [unmarshalLoop_frame, Nat.mod_eq_of_lt hx, take_length, drop_append_of_le_length (Nat.le_refl _), drop_length,
    nil_append]

lemma map_cons_eq_ok :
    (do return (← m).map (e :: ·)) = (.ok (some es) : Go _) ↔ ∃ es', m = .ok (some es') ∧ es = e :: es' := by
  rcases m with stop | _ | es'
  · simp [bind, Except.bind]
  · simp [pure, Except.pure]
  · simp [pure, Except.pure, eq_comm]

lemma map_cons_eq_error {stop : Stop} :
    (do return (← m).map (e :: ·)) = (.error stop : Go _) ↔ m = .error stop := by
  rcases m with stop' | es
  · simp [bind, Except.bind]
  · simp [pure, Except.pure]

/-- The elements of a record come back exactly if their lengths fit. -/
lemma unmarshalLoop_frames (es : List Element) :
    unmarshalLoop (es.map Element.isRange) (es.flatMap fun e => frame e.marshalBinary) = .ok (some es) ↔
      ∀ e ∈ es, e.marshalBinary.length < 65536 := by
  induction es with
  | nil => exact iff_of_true rfl (by simp)
  | cons e es ih =>
    rw [map_cons, flatMap_cons, forall_mem_cons, ← ih]
    by_cases h : e.marshalBinary.length < 65536
    · rw [unmarshalLoop_frame_short h, e.unmarshal_marshal]
      rw [map_cons_eq_ok]
      simp [h]
    -- What is decoded comes from fewer bytes than the element has.
    refine iff_of_false (fun heq => ?_) fun hall => h hall.1
    rw [unmarshalLoop_frame] at heq
    split at heq
    · cases heq
    next e' he' =>
      obtain ⟨es', -, hes⟩ := map_cons_eq_ok.1 heq
      have hlen := Element.marshal_unmarshal_length he'
      rw [← (cons.inj hes).1, length_take] at hlen
      have := Nat.mod_lt e.marshalBinary.length (y := 65536) (by omega)
      omega

/-! ## Records cut off at a length -/

/-- The bytes of an element that its field accepts. -/
def Accepted (x : List UInt8) (isRange : Bool) : Prop := x.length < 65536 ∧ (Element.unmarshalLike isRange x).isSome

/-- The bytes hold accepted elements for the first fields, and then not even the length of the next. -/
def CutAtLength (fields : List Bool) (data : List UInt8) : Prop :=
  ∃ parts tail, data = parts.flatMap frame ++ tail ∧ tail.length < 2 ∧ parts.length < fields.length ∧
    Forall₂ Accepted parts (fields.take parts.length)

lemma exists_frame {data : List UInt8} (hdata : 2 ≤ data.length)
    (hlen : ofBigEndian (data.take 2) ≤ (data.drop 2).length) :
    ∃ x rest, data = frame x ++ rest ∧ x.length < 65536 := by
  match data, hdata with
  | b₀ :: b₁ :: data, _ =>
    have hof : ofBigEndian [b₀, b₁] = b₀.toNat * 256 + b₁.toNat := by simp [ofBigEndian]
    have h₀ := b₀.toNat_lt
    have h₁ := b₁.toNat_lt
    change ofBigEndian [b₀, b₁] ≤ data.length at hlen
    have htake : (data.take (b₀.toNat * 256 + b₁.toNat)).length = b₀.toNat * 256 + b₁.toNat := by
      rw [length_take]
      omega
    refine ⟨data.take (b₀.toNat * 256 + b₁.toNat), data.drop (b₀.toNat * 256 + b₁.toNat), ?_, by omega⟩
    rw [frame, htake, bigEndian_two, append_assoc, take_append_drop]
    rfl

lemma unmarshalLoop_panic_iff (fields : List Bool) (data : List UInt8) :
    unmarshalLoop fields data = .error .panic ↔ CutAtLength fields data := by
  induction fields generalizing data with
  | nil => exact iff_of_false (by simp [unmarshalLoop, pure, Except.pure]) fun ⟨_, _, _, _, h, _⟩ => absurd h (by simp)
  | cons isRange fields ih =>
    constructor
    · intro h
      by_cases hshort : data.length < 2
      · exact ⟨[], data, rfl, hshort, by simp, .nil⟩
      by_cases hlen : (data.drop 2).length < ofBigEndian (data.take 2)
      · unfold unmarshalLoop at h
        rw [if_neg hshort] at h
        rw [if_pos hlen] at h
        cases h
      obtain ⟨x, rest, rfl, hx⟩ := exists_frame (Nat.le_of_not_lt hshort) (Nat.le_of_not_lt hlen)
      rw [unmarshalLoop_frame_short hx] at h
      split at h
      · cases h
      next e he =>
        obtain ⟨parts, tail, rfl, htail, hparts, hall⟩ := (ih rest).1 (map_cons_eq_error.1 h)
        refine ⟨x :: parts, tail, by simp, htail, by simpa using hparts, ?_⟩
        exact .cons ⟨hx, by rw [he]; rfl⟩ hall
    · rintro ⟨parts, tail, rfl, htail, hparts, hall⟩
      cases parts with
      | nil => exact if_pos htail
      | cons x parts =>
        obtain ⟨⟨hx, hsome⟩, hall⟩ := forall₂_cons.1 hall
        obtain ⟨e, he⟩ := isSome_iff_exists.1 hsome
        rw [flatMap_cons, append_assoc, unmarshalLoop_frame_short hx, he]
        rw [map_cons_eq_error]
        exact (ih _).2 ⟨parts, tail, rfl, htail, by simpa using hparts, hall⟩

lemma unmarshalBinary_panic_iff (data : List UInt8) :
    unmarshalBinary data = .error .panic ↔ CutAtLength fields data := by
  rw [← unmarshalLoop_panic_iff, unmarshalBinary]
  rcases unmarshalLoop fields data with stop | es
  · simp [bind, Except.bind]
  · simp [pure, Except.pure]

lemma ofElements_eq_some {m : Metadata} : ofElements es = some m ↔ es = m.elements := by
  constructor
  · intro h
    unfold ofElements at h
    split at h
    · cases h
      rfl
    · cases h
  · rintro rfl
    rfl

lemma unmarshal_marshal_iff (m : Metadata) :
    unmarshalBinary m.marshalBinary = .ok (some m) ↔ ∀ e ∈ m.elements, e.marshalBinary.length < 65536 := by
  have hloop := unmarshalLoop_frames m.elements
  change unmarshalLoop fields m.marshalBinary = _ ↔ _ at hloop
  rw [← hloop, unmarshalBinary]
  rcases unmarshalLoop fields m.marshalBinary with stop | _ | es
  · simp [bind, Except.bind]
  · simp [pure, Except.pure]
  · simp [pure, Except.pure, ofElements_eq_some]

/-- A record gives back its metadata exactly if the zones leave the lengths in 16 bits, and decoding
panics exactly on the byte strings that end where the length of an element should stand. -/
theorem metadata_decoding_exact (m : Metadata) (data : List UInt8) :
    (unmarshalBinary m.marshalBinary = .ok (some m) ↔ ∀ e ∈ m.elements, e.marshalBinary.length < 65536) ∧
      (unmarshalBinary data = .error .panic ↔ CutAtLength fields data) :=
  ⟨unmarshal_marshal_iff m, unmarshalBinary_panic_iff data⟩

/-- A record that was cut off after its first element. -/
theorem cut_record_panics : unmarshalBinary [0, 1, 255] = .error .panic :=
  (unmarshalBinary_panic_iff _).2 ⟨[[255]], [], rfl, by decide, by decide, .cons ⟨by decide, rfl⟩ .nil⟩

end Metadata
end SingBox.FakeIP
