import Mathlib.Data.List.Forall2
import SingBox.Lib.Bytes
/-!
# Decoders

A decoder takes bytes off the front of its input or fails with a message.
`Reads` says what a decoder makes of given bytes whatever follows them, and
`Rejects` that it fails on them whatever follows; both compose along `>>=`.
-/

abbrev Decoder := StateT (List UInt8) (Except String)

namespace Decoder
variable {α β : Type}
variable {b' input : List UInt8} {n x : Nat} {l : List β}

/-- `d` takes exactly `bytes` and returns `a`. -/
def Reads (d : Decoder α) (bytes : List UInt8) (a : α) : Prop :=
  ∀ rest, d.run (bytes ++ rest) = .ok (a, rest)

/-- `d` fails on every input that starts with `bytes`. -/
def Rejects (d : Decoder α) (bytes : List UInt8) : Prop :=
  ∀ rest, ∃ e, d.run (bytes ++ rest) = .error e

lemma Reads.pure (a : α) : Reads (Pure.pure a) [] a := fun _ => rfl

variable {d : Decoder α} {f : α → Decoder β} {b : List UInt8} {a : α}

lemma Reads.bind {a' : β} (h : Reads d b a) (h' : Reads (f a) b' a') : Reads (d >>= f) (b ++ b') a' := by
  intro rest
  rw [StateT.run_bind, List.append_assoc, h]
  exact h' rest

lemma Reads.map (h : Reads d b a) (f : α → β) : Reads (f <$> d) b (f a) := by
  intro rest
  rw [StateT.run_map, h]
  rfl

lemma Reads.bind_nil {a' : β} (h : Reads d b a) (h' : Reads (f a) [] a') : Reads (d >>= f) b a' := by
  simpa using h.bind h'

lemma Rejects.throw (e : String) : Rejects (throw e : Decoder α) [] := fun _ => ⟨e, rfl⟩

lemma Rejects.append (h : Rejects d b) (b' : List UInt8) : Rejects d (b ++ b') := by
  intro rest
  rw [List.append_assoc]
  exact h (b' ++ rest)

lemma Rejects.bind (h : Rejects d b) (f : α → Decoder β) : Rejects (d >>= f) b := by
  intro rest
  obtain ⟨e, he⟩ := h rest
  exact ⟨e, by rw [StateT.run_bind, he]; rfl⟩

lemma Rejects.map (h : Rejects d b) (f : α → β) : Rejects (f <$> d) b := by
  rw [← bind_pure_comp]
  exact h.bind _

lemma Reads.bind_rejects (h : Reads d b a) (h' : Rejects (f a) b') : Rejects (d >>= f) (b ++ b') := by
  intro rest
  rw [StateT.run_bind, List.append_assoc, h]
  exact h' rest

lemma Reads.lift {e : Except String α} (h : e = .ok a) : Reads (liftM e) [] a := by
  subst h
  exact fun _ => rfl

lemma run_bind_of_ok {rest : List UInt8}
    (h : d.run input = .ok (a, rest)) : (d >>= f).run input = (f a).run rest := by
  rw [StateT.run_bind, h]
  rfl

lemma of_bind_ok {r : β × List UInt8}
    (h : (d >>= f).run input = .ok r) : ∃ a rest, d.run input = .ok (a, rest) ∧ (f a).run rest = .ok r := by
  rw [StateT.run_bind] at h
  cases hd : d.run input with
  | error e =>
    rw [hd] at h
    cases h
  | ok p =>
    rw [hd] at h
    exact ⟨p.1, p.2, rfl, h⟩

/-! ## Messages -/

def cause (message : String) (d : Decoder α) : Decoder α := fun input =>
  match d input with
  | .ok r => .ok r
  | .error e => .error (message ++ ": " ++ e)

lemma Reads.cause (h : Reads d b a) (message : String) : Reads (d.cause message) b a := by
  intro rest
  have := h rest
  simp only [StateT.run] at this
  simp only [StateT.run, Decoder.cause, this]

lemma Rejects.cause (h : Rejects d b) (message : String) : Rejects (d.cause message) b := by
  intro rest
  obtain ⟨e, he⟩ := h rest
  simp only [StateT.run] at he
  exact ⟨message ++ ": " ++ e, by simp only [StateT.run, Decoder.cause, he]⟩

/-! ## Bytes -/

/-- One byte; `eof` is the message at the end of the input. -/
def byteOr (eof : String) : Decoder UInt8
  | [] => .error eof
  | b :: rest => .ok (b, rest)

def byte : Decoder UInt8 := byteOr "EOF"

/-- Exactly `n` bytes. -/
def full (n : Nat) : Decoder (List UInt8) := fun input =>
  if n ≤ input.length then .ok (input.take n, input.drop n)
  else .error (if input.isEmpty then "EOF" else "unexpected EOF")

lemma reads_byteOr (eof : String) (b : UInt8) : Reads (byteOr eof) [b] b := fun _ => rfl
lemma reads_byte (b : UInt8) : Reads byte [b] b := reads_byteOr _ b

lemma reads_full {l : List UInt8} (h : l.length = n) : Reads (full n) l l := by
  intro rest
  subst h
  simp [full, StateT.run]

/-- A number of `n` bytes, the highest first. -/
def bigEndian (n : Nat) : Decoder Nat := Bytes.ofBigEndian <$> full n

lemma reads_bigEndian (h : x < 256 ^ n) : Reads (bigEndian n) (Bytes.bigEndian n x) x := by
  have := (reads_full (Bytes.length_bigEndian n x)).map Bytes.ofBigEndian
  rwa [Bytes.ofBigEndian_bigEndian h] at this

/-! ## Variable-length numbers -/

/-- The decoding loop of a 64-bit number with `left` bytes to go. -/
def uvarintLoop (eof : String) : Nat → Decoder Nat
  | 0 => throw "binary: varint overflows a 64-bit integer"
  | left + 1 => do
    let b ← byteOr eof
    if b.toNat < 128 then
      if left = 0 ∧ 1 < b.toNat then throw "binary: varint overflows a 64-bit integer" else pure b.toNat
    else
      let high ← uvarintLoop "unexpected EOF" left
      pure (b.toNat - 128 + 128 * high)

/-- A 64-bit number: seven bits a byte, the lowest first, at most ten bytes. -/
def uvarint : Decoder Nat := uvarintLoop "EOF" 10

lemma reads_uvarintLoop (k : Nat) : ∀ (eof : String) (x : Nat), x < 2 * 128 ^ k →
    Reads (uvarintLoop eof (k + 1)) (Bytes.uvarintLoop (k + 1) x) x := by
  induction k with
  | zero =>
    intro eof x hx
    have hx : x < 2 := by omega
    have hb : (UInt8.ofNat x).toNat = x := by simp; omega
    have : Bytes.uvarintLoop 1 x = [UInt8.ofNat x] := by
      rw [Bytes.uvarintLoop, if_pos (by omega)]
    rw [this]
    refine (reads_byteOr eof _).bind_nil ?_
    rw [hb, if_pos (by omega), if_neg (by omega)]
    exact Reads.pure x
  | succ k ih =>
    intro eof x hx
    rw [Bytes.uvarintLoop]
    by_cases hs : x < 128
    · have hb : (UInt8.ofNat x).toNat = x := by simp; omega
      rw [if_pos hs]
      refine (reads_byteOr eof _).bind_nil ?_
      rw [hb, if_pos hs, if_neg (by omega)]
      exact Reads.pure x
    have hb : (UInt8.ofNat (x % 128 + 128)).toNat = x % 128 + 128 := by simp; omega
    rw [if_neg hs]
    refine (reads_byteOr eof _).bind (?_ : Reads _ (Bytes.uvarintLoop (k + 1) (x / 128)) x)
    rw [hb, if_neg (by omega)]
    refine (ih "unexpected EOF" (x / 128) (by rw [pow_succ] at hx; omega)).bind_nil ?_
    rw [show x % 128 + 128 - 128 + 128 * (x / 128) = x by omega]
    exact Reads.pure x

lemma reads_uvarint (h : x < 2 ^ 64) : Reads uvarint (Bytes.uvarint x) x :=
  reads_uvarintLoop 9 "EOF" x (by simpa using h)

/-! ## Repetition -/

/-- `n` values, the first with index `i`. -/
def repeatFrom (d : Nat → Decoder α) (i : Nat) : Nat → Decoder (List α)
  | 0 => pure []
  | n + 1 => do
    let a ← d i
    let l ← repeatFrom d (i + 1) n
    pure (a :: l)

lemma reads_repeatFrom {R : β → α → Prop} {d : Nat → Decoder α} {enc : β → List UInt8}
    (h : ∀ i, ∀ b ∈ l, ∃ a, R b a ∧ Reads (d i) (enc b) a) (i : Nat) :
    ∃ as, List.Forall₂ R l as ∧ Reads (repeatFrom d i l.length) (l.flatMap enc) as := by
  induction l generalizing i with
  | nil => exact ⟨[], .nil, Reads.pure []⟩
  | cons b l ih =>
    obtain ⟨a, hR, ha⟩ := h i b (by simp)
    obtain ⟨as, hRs, has⟩ := ih (fun j c hc => h j c (List.mem_cons_of_mem b hc)) (i + 1)
    refine ⟨a :: as, .cons hR hRs, ?_⟩
    rw [List.flatMap_cons]
    exact ha.bind (has.bind_nil (Reads.pure (a :: as)))

lemma reads_repeat {enc : α → List UInt8} {l : List α} (h : ∀ a ∈ l, Reads d (enc a) a) :
    Reads (repeatFrom (fun _ => d) 0 l.length) (l.flatMap enc) l := by
  obtain ⟨as, hl, hr⟩ :=
    reads_repeatFrom (d := fun _ => d) (fun _ b hb => ⟨b, (rfl : b = b), h b hb⟩) 0
  rw [List.forall₂_eq_eq_eq] at hl
  rwa [← hl] at hr

lemma rejects_repeatFrom {d : Nat → Decoder α} {enc : β → List UInt8}
    (h : ∀ i, ∀ b ∈ l, (∃ a, Reads (d i) (enc b) a) ∨ Rejects (d i) (enc b))
    (hbad : ∃ b ∈ l, ∀ i, Rejects (d i) (enc b)) (i : Nat) : Rejects (repeatFrom d i l.length) (l.flatMap enc) := by
  induction l generalizing i with
  | nil => exact absurd hbad (by simp)
  | cons b l ih =>
    rw [List.flatMap_cons]
    rcases h i b (by simp) with ⟨a, ha⟩ | hr
    · obtain ⟨c, hc, hrej⟩ := hbad
      rcases List.mem_cons.1 hc with rfl | hc
      · exact ((hrej i).bind _).append _
      exact ha.bind_rejects
        ((ih (fun j e he => h j e (List.mem_cons_of_mem b he)) ⟨c, hc, hrej⟩ (i + 1)).bind _)
    · exact (hr.bind _).append _

end Decoder
