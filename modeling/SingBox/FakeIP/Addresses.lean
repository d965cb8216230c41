import SingBox.FakeIP.CrashSafety
import SingBox.FakeIP.Mapping
/-!
# The addresses of a range

In a range with an address between the second one after its own address and its
last one, `Create` hands out exactly these, in a ring. A shorter range is not
refused: the first address is then outside of the range or its last one.
-/
namespace SingBox.FakeIP
open Option List
variable {domain : String} {address : Addr} {db db' : Database}

/-! ## The ring -/

/-- An address of the ring: in the range, past the first two, and not the last one. -/
def Allocatable (range : Prefix) (a : Addr) : Prop :=
  range.contains a = true ∧ range.addr.toNat + 2 ≤ a.toNat ∧ a ≠ broadcastAddress range

variable {range : Prefix} {a : Addr}
open FakeIP.System CacheFile BitVec

lemma exists_family_of_isValid (h : range.isValid = true) :
    ∃ w, ∃ (F : Family w) (n : BitVec w), range = ⟨F.addr n, range.bits⟩ ∧ range.bits ≤ w ∧
      ∀ a, range.contains a = true → ∃ b, a = F.addr b := by
  obtain ⟨addr, bits⟩ := range
  cases addr with
  | invalid => cases h
  | v4 n =>
    refine ⟨32, .v4, n, rfl, of_decide_eq_true h, fun a ha => ?_⟩
    cases a with
    | v4 b => exact ⟨b, rfl⟩
    | _ => simp [Prefix.contains] at ha
  | v6 n =>
    refine ⟨128, .v6, n, rfl, of_decide_eq_true h, fun a ha => ?_⟩
    cases a with
    | v6 b => exact ⟨b, rfl⟩
    | _ => simp [Prefix.contains] at ha

lemma isValid_of_contains (h : range.contains a = true) : range.isValid = true := (Bool.and_eq_true_iff.1 h).1

section
variable {w : Nat} {F : Family w} {n b : BitVec w} {bits : Nat}

lemma le_broadcast (hbits : bits ≤ w) (h : (Prefix.mk (F.addr n) bits).contains (F.addr b) = true) :
    b.toNat ≤ (n ||| (allOnes w >>> bits)).toNat := by
  rw [F.contains _ _ _ hbits, beq_iff_eq, xor_ushiftRight_eq_zero_iff] at h
  have hpos : 0 < 2 ^ (w - bits) := Nat.two_pow_pos _
  have hlt : b.toNat < b.toNat / 2 ^ (w - bits) * 2 ^ (w - bits) + 2 ^ (w - bits) := Nat.lt_div_mul_add hpos
  rw [toNat_or_allOnes_ushiftRight hbits, h]
  omega

lemma allocatable_iff (hbits : bits ≤ w) {x : Nat} (hx : x < 2 ^ w) : Allocatable ⟨F.addr n, bits⟩ (F.ofNat x) ↔
    n.toNat + 2 ≤ x ∧ x < (n ||| (allOnes w >>> bits)).toNat := by
  have htoNat : (F.ofNat x).toNat = x := by rw [Family.ofNat, F.toNat, toNat_ofNat, Nat.mod_eq_of_lt hx]
  have hbroad : broadcastAddress ⟨F.addr n, bits⟩ = F.ofNat (n ||| (allOnes w >>> bits)).toNat := by
    rw [F.broadcast, Family.ofNat, ofNat_toNat, setWidth_eq]
  rw [Allocatable, htoNat, F.toNat, hbroad]
  constructor
  · rintro ⟨hc, hle, hne⟩
    have hmax := le_broadcast hbits hc
    rw [toNat_ofNat, Nat.mod_eq_of_lt hx] at hmax
    refine ⟨hle, lt_of_le_of_ne hmax ?_⟩
    rintro rfl
    exact hne rfl
  · rintro ⟨hle, hlt⟩
    refine ⟨Family.contains_ofNat hbits (by omega) hlt.le, hle, fun heq => ?_⟩
    exact hlt.ne (F.ofNat_inj hx (isLt _) heq)

lemma position_eq (hbits : bits ≤ w) (hroom : n.toNat + 2 < (n ||| (allOnes w >>> bits)).toNat) (k : Nat) :
    position ⟨F.addr n, bits⟩ (k + 1) =
      F.ofNat (n.toNat + 2 + k % ((n ||| (allOnes w >>> bits)).toNat - (n.toNat + 2))) := by
  rw [position_eq_ofNat hbits hroom, RingWalk.iterate_eq (show n.toNat + 1 + 1 < _ from hroom)]

end

lemma usable_pos_of_allocatable (h : Allocatable range a) : 0 < usable range := by
  obtain ⟨w, F, n, hr, hbits, hfamily⟩ := exists_family_of_isValid (isValid_of_contains h.1)
  obtain ⟨b, rfl⟩ := hfamily a h.1
  have hb : F.addr b = F.ofNat b.toNat := by rw [Family.ofNat, ofNat_toNat, setWidth_eq]
  rw [hr, hb, allocatable_iff hbits (isLt b)] at h
  rw [usable, hr, F.broadcast, F.toNat, F.toNat]
  omega

lemma position_allocatable (h : 0 < usable range) (k : Nat) : Allocatable range (position range (k + 1)) := by
  obtain ⟨w, F, n, hr, hbits⟩ := exists_family range h
  rw [usable, hr, F.broadcast, F.toNat, F.toNat] at h
  have hlast := isLt (n ||| (allOnes w >>> range.bits))
  have hmod := Nat.mod_lt k (show 0 < (n ||| (allOnes w >>> range.bits)).toNat - (n.toNat + 2) by omega)
  rw [hr, position_eq hbits (by omega), allocatable_iff hbits (by omega)]
  omega

/-- From every position, as many steps as the ring has addresses meet each of them once. -/
lemma ring_window (range : Prefix) (k : Nat) :
    ((List.range (usable range)).map fun j => position range (k + 1 + j)).Nodup ∧
      ∀ a, a ∈ (List.range (usable range)).map (fun j => position range (k + 1 + j)) ↔ Allocatable range a := by
  constructor
  · refine List.Nodup.map_on ?_ List.nodup_range
    intro i hi j hj heq
    rw [List.mem_range] at hi hj
    rcases Nat.lt_trichotomy i j with hij | rfl | hij
    · exact absurd heq (position_ne range (by omega) (by omega) (by omega))
    · rfl
    · exact absurd heq.symm (position_ne range (by omega) (by omega) (by omega))
  · intro a
    constructor
    · intro h
      obtain ⟨j, hj, rfl⟩ := List.mem_map.1 h
      rw [Nat.add_right_comm]
      exact position_allocatable (Nat.zero_lt_of_lt (List.mem_range.1 hj)) (k + j)
    intro h
    have hpos := usable_pos_of_allocatable h
    obtain ⟨w, F, n, hr, hbits, hfamily⟩ := exists_family_of_isValid (isValid_of_contains h.1)
    obtain ⟨b, rfl⟩ := hfamily a h.1
    have hb : F.addr b = F.ofNat b.toNat := by rw [Family.ofNat, ofNat_toNat, setWidth_eq]
    have husable : usable range = (n ||| (allOnes w >>> range.bits)).toNat - (n.toNat + 2) := by
      rw [usable, hr, F.broadcast, F.toNat, F.toNat, Nat.sub_sub]
    rw [hr, hb, allocatable_iff hbits (isLt b)] at h
    -- the step at which the walk comes to the address
    refine List.mem_map.2 ⟨(b.toNat - (n.toNat + 2) + (usable range - k % usable range)) % usable range,
      List.mem_range.2 (Nat.mod_lt _ hpos), ?_⟩
    have hk := Nat.mod_lt k hpos
    have hstep : (k + (b.toNat - (n.toNat + 2) + (usable range - k % usable range)) % usable range) % usable range =
        b.toNat - (n.toNat + 2) := by
      rw [Nat.add_mod_mod, ← Nat.mod_add_mod, show k % usable range + (b.toNat - (n.toNat + 2) +
        (usable range - k % usable range)) = b.toNat - (n.toNat + 2) + usable range by omega, Nat.add_mod_right]
      exact Nat.mod_eq_of_lt (by omega)
    rw [Nat.add_right_comm, hb]
    rw [husable] at hstep ⊢
    rw [hr, position_eq hbits (by omega), hstep]
    congr 1
    omega

/-! ## Stored addresses -/

section
variable {A : Addr → Prop}

/-- Every address of a buffer is one of `A`, and those of an address map are of its family. -/
structure PendingWrites.Holds (A : Addr → Prop) (p : PendingWrites) : Prop where
  domain : ∀ a, (p.fakeIPDomain.lookup a).isSome → A a
  address : ∀ d f a, p.fakeIPAddress d f = some a → a.isValid = true → A a ∧ a.is4 = !f

def Database.Holds (A : Addr → Prop) (db : Database) : Prop :=
  ∀ d f a, db.domainBucket (!f) d = some a → A a ∧ a.is4 = !f

structure CacheFile.Holds (A : Addr → Prop) (c : CacheFile) : Prop where
  pending : c.pending.Holds A
  writing : ∀ w, c.writing = some w → w.Holds A
  db : c.db.Holds A

lemma PendingWrites.Holds.new : newPendingWrites.Holds A where
  domain a h := by cases h
  address d f a h := by cases f <;> cases h

lemma Database.Holds.empty : Database.empty.Holds A := by
  intro d f a h
  cases f <;> cases h

variable {p : PendingWrites} {order : List (Sigma fun _ : Addr => String)}

lemma PendingWrites.Holds.setAddress (h : p.Holds A) {is4 : Bool}
    {value : Addr} (hv : value.isValid = true → A value ∧ value.is4 = is4) :
    (p.setAddress is4 domain value).Holds A where
  domain := by rw [setAddress_fakeIPDomain]; exact h.domain
  address d f a ha hvalid := by
    have heq := setAddress_fakeIPAddress p is4 domain value (f, d)
    dsimp only at heq
    rw [heq] at ha
    split at ha
    next hf =>
      cases ha
      cases hf
      rw [Bool.not_not]
      exact hv hvalid
    · exact h.address d f a ha hvalid

lemma PendingWrites.Holds.setDomain (h : p.Holds A) (ha : A address)
    (domain : String) : (p.setDomain address domain).Holds A := by
  have hinsert : PendingWrites.Holds A { p with fakeIPDomain := p.fakeIPDomain.insert address domain } := by
    refine ⟨fun a hsome => ?_, h.address⟩
    by_cases heq : a = address
    · exact heq ▸ ha
    rw [AList.lookup_insert_ne heq] at hsome
    exact h.domain a hsome
  exact hinsert.setAddress fun _ => ⟨ha, rfl⟩

lemma PendingWrites.Holds.restore (h : p.Holds A)
    (ho : ∀ e ∈ order, A e.1) : (order.foldl (fun p e => restoreDomain p e.1 e.2) p).Holds A := by
  induction order generalizing p with
  | nil => exact h
  | cons e order ih =>
    obtain ⟨he, ho⟩ := forall_mem_cons.1 ho
    refine ih ?_ ho
    change (restoreDomain p e.1 e.2).Holds A
    unfold restoreDomain
    split
    · exact h
    split
    · exact h
    · exact h.setDomain he e.2

lemma Database.Holds.putFakeIP (h : db.Holds A) (ha : A address)
    (hput : db.putFakeIP address domain = some db') : db'.Holds A := by
  obtain ⟨-, rfl⟩ := putFakeIP_some hput
  intro d f a hd
  rw [setDomainBucket_domainBucket] at hd
  split at hd
  next hf =>
    by_cases hdom : d = domain
    · rw [hdom, Function.update_self] at hd
      cases hd
      exact ⟨ha, hf.symm⟩
    rw [Function.update_of_ne hdom, dropOld_apply] at hd
    split at hd
    · cases hd
    · exact h d f a (by rw [hf]; exact hd)
  · exact h d f a hd

lemma Database.Holds.writePending (h : db.Holds A) (ho : ∀ e ∈ order, A e.1)
    {metadata : Option FakeIPMetadata} (hw : db.writePending order metadata = some db') : db'.Holds A := by
  have hfold : ∀ {order : List (Sigma fun _ : Addr => String)} {db db' : Database}, db.Holds A →
      (∀ e ∈ order, A e.1) → order.foldlM (fun db e => db.putFakeIP e.1 e.2) db = some db' → db'.Holds A := by
    intro order
    induction order with
    | nil =>
      intro db db' h _ hrun
      cases hrun
      exact h
    | cons e order ih =>
      intro db db' h ho hrun
      obtain ⟨he, ho⟩ := forall_mem_cons.1 ho
      rw [foldlM_cons] at hrun
      obtain ⟨db₁, hput, hrun⟩ := bind_eq_some_iff.1 hrun
      exact ih (h.putFakeIP he hput) ho hrun
  obtain ⟨db₁, hrun, hdb⟩ := bind_eq_some_iff.1 hw
  have h₁ := hfold h ho hrun
  cases metadata <;> cases hdb <;> exact h₁

lemma PendingWrites.Holds.of_perm (h : p.Holds A)
    (hperm : order.Perm p.fakeIPDomain.entries) : ∀ e ∈ order, A e.1 := by
  intro e he
  have hlookup : p.fakeIPDomain.lookup e.1 = some e.2 := AList.mem_lookup_iff.2 (hperm.mem_iff.1 he)
  exact h.domain e.1 (by rw [hlookup]; rfl)

namespace CacheFile
variable {c c' : CacheFile}
variable (h : c.Holds A)
include h

namespace Holds

lemma queueFakeIP (ha : A address) (domain : String) :
    (c.queueFakeIP address domain).Holds A where
  pending := by
    rw [CacheFile.queueFakeIP]
    refine PendingWrites.Holds.setDomain ?_ ha domain
    split
    · exact h.pending.setAddress nofun
    · exact h.pending
  __ := h

lemma saveMetadata (metadata : FakeIPMetadata) : (c.saveMetadata metadata).Holds A :=
  ⟨⟨h.pending.domain, h.pending.address⟩, h.writing, h.db⟩

lemma flushBegin (hc : c.flushBegin = some c') : c'.Holds A := by
  unfold CacheFile.flushBegin at hc
  split at hc
  · cases hc
    refine ⟨.new, fun w hw => ?_, h.db⟩
    cases hw
    exact h.pending
  · cases hc

lemma flushCommit (hc : c.flushCommit order = some c') : c'.Holds A := by
  unfold CacheFile.flushCommit at hc
  split at hc
  next writing hw _ =>
    split at hc
    next hperm =>
      obtain ⟨db, hdb, rfl⟩ := map_eq_some_iff.1 hc
      exact ⟨h.pending, h.writing, h.db.writePending ((h.writing writing hw).of_perm hperm) hdb⟩
    · cases hc
  · cases hc

lemma flushDone (hc : c.flushDone = some c') : c'.Holds A := by
  unfold CacheFile.flushDone at hc
  split at hc
  · cases hc
    exact ⟨h.pending, nofun, h.db⟩
  · cases hc

lemma flushFail (hc : c.flushFail order = some c') : c'.Holds A := by
  unfold CacheFile.flushFail at hc
  split at hc
  next writing hw _ =>
    split at hc
    next hperm =>
      cases hc
      have hrestore := h.pending.restore ((h.writing writing hw).of_perm hperm)
      exact ⟨⟨hrestore.domain, hrestore.address⟩, nofun, h.db⟩
    · cases hc
  · cases hc

lemma fakeIPReset {ok : Bool} (hc : c.fakeIPReset ok = some c') : c'.Holds A := by
  unfold CacheFile.fakeIPReset at hc
  split at hc
  · cases hc
    refine ⟨.new, h.writing, ?_⟩
    cases ok with
    | true => exact .empty
    | false => exact h.db
  · cases hc

lemma load {isIPv6 : Bool} (hl : c.fakeIPLoadDomain domain isIPv6 = some a) : A a ∧ a.is4 = !isIPv6 := by
  obtain ⟨hl, hv⟩ := filter_eq_some_iff.1 hl
  rcases or_eq_some_iff.1 hl with hp | ⟨-, hl⟩
  · exact h.pending.address domain isIPv6 a hp hv
  rcases or_eq_some_iff.1 hl with hw | ⟨-, hdb⟩
  · obtain ⟨w, hw, ha⟩ := bind_eq_some_iff.1 hw
    exact (h.writing w hw).address domain isIPv6 a ha hv
  · exact h.db domain isIPv6 a hdb

end Holds
end CacheFile
end

/-! ## Runs -/

/-- The range has an address to hand out, or not even the one `Create` starts from. -/
def Roomy (range : Prefix) : Prop := range.isValid = true → range.addr.next.isValid = false ∨ 0 < usable range

lemma usable_pos_of_position (hr : Roomy range) {k : Nat}
    (h : (position range k).isValid = true) : 0 < usable range := by
  cases hv : range.isValid with
  | false =>
    rw [position_of_not_isValid hv] at h
    cases h
  | true =>
    refine (hr hv).resolve_left fun hnext => ?_
    have hinvalid : position range k = .invalid := by
      have hstart : range.addr.next = .invalid := by
        cases heq : range.addr.next with
        | invalid => rfl
        | _ =>
          rw [heq] at hnext
          cases hnext
      induction k with
      | zero =>
        rw [position, hv, if_pos rfl, hstart]
        rfl
      | succ k ih =>
        cases hpos : (position range k).isValid with
        | true =>
          rw [ih hpos] at hpos
          cases hpos
        | false =>
          rw [position_succ, advance, hpos, if_neg Bool.false_ne_true] at h
          rw [hpos] at h
          cases h
    rw [hinvalid] at h
    cases h

lemma first_outside (hv : range.isValid = true) (hnext : range.addr.next.isValid = true)
    (hu : usable range = 0) : range.contains (nextAddress range (lastAddress range) range.addr.next) = true →
      nextAddress range (lastAddress range) range.addr.next = broadcastAddress range := by
  have hfirst : nextAddress range (lastAddress range) range.addr.next = range.addr.next.next := by
    rw [nextAddress]
    split <;> rfl
  rw [hfirst]
  intro hc
  by_contra hne
  obtain ⟨w, F, n, hr, hbits, hfamily⟩ := exists_family_of_isValid hv
  have haddr : range.addr = F.ofNat n.toNat := by
    rw [hr, Family.ofNat, ofNat_toNat, setWidth_eq]
  have hlt : ∀ x : Nat, x < 2 ^ w → (F.ofNat x).next.isValid = true → x + 1 < 2 ^ w := by
    intro x hx hvalid
    rw [Family.ofNat, F.next] at hvalid
    split at hvalid
    · cases hvalid
    next hmax =>
      by_contra hge
      refine hmax (eq_of_toNat_eq ?_)
      rw [toNat_ofNat, toNat_allOnes, Nat.mod_eq_of_lt hx]
      omega
  have hone : n.toNat + 1 < 2 ^ w := hlt _ (isLt n) (haddr ▸ hnext)
  have hnext' : range.addr.next = F.ofNat (n.toNat + 1) := by rw [haddr, F.next_ofNat hone]
  have htwo : n.toNat + 1 + 1 < 2 ^ w := by
    refine hlt _ hone ?_
    obtain ⟨b, hb⟩ := hfamily _ hc
    rw [← hnext', hb]
    exact F.isValid b
  have hsecond : range.addr.next.next = F.ofNat (n.toNat + 2) := by rw [hnext', F.next_ofNat htwo]
  have hall : Allocatable range range.addr.next.next := by
    refine ⟨hc, ?_, hne⟩
    rw [hsecond, haddr, Family.ofNat, Family.ofNat, F.toNat, F.toNat, toNat_ofNat, toNat_ofNat,
      Nat.mod_eq_of_lt htwo, Nat.mod_eq_of_lt (by omega)]
  have hpos := usable_pos_of_allocatable hall
  omega

/-- What every step but a restart keeps. -/
structure Stays (range : Bool → Prefix) (s : System) : Prop where
  range_eq : ∀ f, s.store.range f = range f
  current : ∀ f, ∃ k, s.store.current f = position (range f) k
  creating : ∀ c, s.creating = some c → (s.store.current c.isIPv6).isValid = true
  cache : s.cache.Holds fun a => ∃ g, Allocatable (range g) a

section
variable {range : Bool → Prefix} {s s' : System}
variable {isIPv6 : Bool}

section
variable (h : Stays range s) (hroom : ∀ f, Roomy (range f))
include h hroom

lemma Stays.allocated (hv : (s.store.current isIPv6).isValid = true) :
    (∀ f, ∃ k, (s.store.allocate isIPv6).current f = position (range f) k) ∧
      Allocatable (range isIPv6) ((s.store.allocate isIPv6).current isIPv6) := by
  obtain ⟨k, hk⟩ := h.current isIPv6
  have hpos := usable_pos_of_position (hroom isIPv6) (hk ▸ hv)
  have hnew : (s.store.allocate isIPv6).current isIPv6 = position (range isIPv6) (k + 1) := by
    rw [allocate_current hv, if_pos rfl, h.range_eq, hk, position_succ]
  refine ⟨fun f => ?_, hnew ▸ position_allocatable hpos k⟩
  by_cases hf : f = isIPv6
  · exact ⟨k + 1, hf ▸ hnew⟩
  rw [allocate_current hv, if_neg hf]
  exact h.current f

lemma Stays.assign (hcreating : s.creating = none)
    (hv : (s.store.current isIPv6).isValid = true) (domain : String) : Stays range (s.assign domain isIPv6) := by
  obtain ⟨hcurrent, hall⟩ := h.allocated hroom hv
  refine ⟨fun f => ?_, hcurrent, fun c hc => ?_, h.cache.queueFakeIP ⟨isIPv6, hall⟩ domain⟩
  · exact (allocate_range s.store isIPv6 f).trans (h.range_eq f)
  · exact nomatch hcreating.symm.trans hc

lemma Stays.step {e : Event}
    (he : ∀ inet4Range inet6Range ok, e ≠ .restart inet4Range inet6Range ok) (hstep : s.step e = some s') :
    Stays range s' := by
  cases e with
  | create domain isIPv6 =>
    obtain ⟨hnone, hstep⟩ := ite_none_right_eq_some.1 hstep
    cases hstep
    unfold System.create
    split
    · exact h
    split
    · exact h
    rename_i hv
    have hv : (s.store.current isIPv6).isValid = true := by simpa using hv
    split
    · refine ⟨h.range_eq, h.current, fun c hc => ?_, h.cache.saveMetadata _⟩
      cases hc
      exact hv
    · exact h.assign hroom (isNone_iff_eq_none.1 hnone) hv domain
  | createResume =>
    simp only [System.step, System.createResume] at hstep
    split at hstep
    · rename_i c hc _
      obtain ⟨-, hstep⟩ := ite_none_right_eq_some.1 hstep
      cases hstep
      have h' : Stays range
          { s with store := { s.store with reservedCount := reservedAddressCount }, creating := none } :=
        { h with creating := fun _ hc => (by cases hc) }
      exact h'.assign hroom rfl (h.creating c hc) c.domain
    · cases hstep
  | reset ok =>
    obtain ⟨hnone, hstep⟩ := ite_none_right_eq_some.1 hstep
    obtain ⟨cache, hcache, hstep⟩ := map_eq_some_iff.1 hstep
    have hholds := h.cache.fakeIPReset hcache
    cases ok with
    | false =>
      cases hstep
      exact { h with cache := hholds }
    | true =>
      cases hstep
      obtain ⟨p, hp⟩ := Classical.axiomOfChoice h.current
      have hcurrent : ∀ f, s.store.current f = position (s.store.range f) (p f) := fun f => by
        rw [h.range_eq, hp]
      refine ⟨fun f => (resetCurrent_range s.store f).trans (h.range_eq f), fun f => ⟨0, ?_⟩, fun c hc => ?_,
        hholds.saveMetadata _⟩
      · exact (resetCurrent_current hcurrent f).trans (by rw [h.range_eq])
      rw [isNone_iff_eq_none.1 hnone] at hc
      cases hc
  | close =>
    obtain ⟨-, hstep⟩ := ite_none_right_eq_some.1 hstep
    cases hstep
    exact { h with }
  | closeSave =>
    obtain ⟨m, -, rfl⟩ := map_eq_some_iff.1 hstep
    exact { h with cache := h.cache.saveMetadata m }
  | flushBegin =>
    obtain ⟨c, hc, rfl⟩ := map_eq_some_iff.1 hstep
    refine ⟨h.range_eq, h.current, fun c' hc' => ?_, h.cache.flushBegin hc⟩
    obtain ⟨c'', hc'', rfl⟩ := map_eq_some_iff.1 hc'
    exact h.creating c'' hc''
  | flushCommit order =>
    obtain ⟨c, hc, rfl⟩ := map_eq_some_iff.1 hstep
    exact { h with cache := h.cache.flushCommit hc }
  | flushDone =>
    obtain ⟨c, hc, rfl⟩ := map_eq_some_iff.1 hstep
    exact { h with cache := h.cache.flushDone hc }
  | flushFail order =>
    obtain ⟨c, hc, rfl⟩ := map_eq_some_iff.1 hstep
    exact { h with cache := h.cache.flushFail hc }
  | restart inet4Range inet6Range ok => exact absurd rfl (he inet4Range inet6Range ok)

end

lemma Stays.init (inet4Range inet6Range : Prefix) :
    Stays (init inet4Range inet6Range).store.range (init inet4Range inet6Range) where
  range_eq _ := rfl
  current f := ⟨0, new_current inet4Range inet6Range f⟩
  creating := nofun
  cache := ⟨.new, nofun, .empty⟩

/-- What `Create` returns is an allocatable address: of the ring it asks, or one that is stored for its family. -/
lemma Stays.answer (h : Stays range s) (hroom : ∀ f, Roomy (range f))
    (ha : s.answer domain isIPv6 = some a) : ∃ g, Allocatable (range g) a ∧ (g = isIPv6 ∨ a.is4 = !isIPv6) := by
  rw [System.answer] at ha
  split at ha
  next address hload =>
    cases ha
    obtain ⟨⟨g, hg⟩, his4⟩ := h.cache.load hload
    exact ⟨g, hg, .inr his4⟩
  · split at ha
    next hv =>
      cases ha
      exact ⟨isIPv6, (h.allocated hroom hv).2, .inl rfl⟩
    · cases ha

end

lemma is4_of_contains (h : range.contains a = true) : a.is4 = range.addr.is4 := by
  obtain ⟨addr, bits⟩ := range
  cases addr <;> cases a <;> first | rfl | simp [Prefix.contains] at h

/-- The configured ranges are of the families they are configured for. -/
def Families (range : Bool → Prefix) : Prop := ∀ f, (range f).isValid = true → (range f).addr.is4 = !f

/-- In every state of a store that began anew: an address that `Create` returns is in a configured range and not its
last one, in the range of the family asked for if the ranges are of their families; `Contains` holds for it; and from
the store's position the next addresses of a ring are all allocatable ones, each once. -/
def InRange (inet4Range inet6Range : Prefix) : Prop :=
  ∀ es s, Machine.run System.step (System.init inet4Range inet6Range) es = some s →
    (∀ r r' ok, Event.restart r r' ok ∉ es) →
    (∀ domain isIPv6 a, s.answer domain isIPv6 = some a → s.store.contains a = true ∧
      ∃ g, (s.store.range g).contains a = true ∧ a ≠ broadcastAddress (s.store.range g) ∧
        (Families s.store.range → g = isIPv6)) ∧
    ∀ f, ((List.range (usable (s.store.range f))).map fun j =>
        (advance (s.store.range f))^[j + 1] (s.store.current f)).Nodup ∧
      ∀ a, a ∈ (List.range (usable (s.store.range f))).map (fun j =>
        (advance (s.store.range f))^[j + 1] (s.store.current f)) ↔ Allocatable (s.store.range f) a

/-- Addresses stay in their range if every configured range has room. With ranges of their families, they do so only
then. -/
theorem fakeip_addresses_in_range (inet4Range inet6Range : Prefix) :
    (Roomy inet4Range ∧ Roomy inet6Range → InRange inet4Range inet6Range) ∧
      (Families (System.init inet4Range inet6Range).store.range → InRange inet4Range inet6Range →
        Roomy inet4Range ∧ Roomy inet6Range) := by
  constructor
  · rintro ⟨h4, h6⟩ es s hrun hes
    have hroom : ∀ f, Roomy ((init inet4Range inet6Range).store.range f) := by
      intro f
      cases f with
      | false => exact h4
      | true => exact h6
    have halong : Machine.Along step (fun _ e => ∀ r r' ok, e ≠ Event.restart r r' ok)
        (init inet4Range inet6Range) es := by
      refine Machine.along_of_forall ?_ _
      rintro e he _ r r' ok rfl
      exact hes r r' ok he
    have hstays : Stays (init inet4Range inet6Range).store.range s :=
      Machine.run_inv (fun s e s' hs he hstep => Stays.step hs hroom he hstep) (Stays.init ..) halong hrun
    constructor
    · intro domain isIPv6 a ha
      obtain ⟨g, hall, hg⟩ := hstays.answer hroom ha
      rw [← hstays.range_eq g] at hall
      refine ⟨?_, g, hall.1, hall.2.2, fun hfamilies => ?_⟩
      · rw [Store.contains, Bool.or_eq_true]
        cases g with
        | false => exact .inl hall.1
        | true => exact .inr hall.1
      rcases hg with hg | his4
      · exact hg
      have hfamily := hfamilies g (isValid_of_contains hall.1)
      rw [← is4_of_contains hall.1, his4] at hfamily
      cases g <;> cases isIPv6 <;> first | rfl | cases hfamily
    · intro f
      obtain ⟨k, hk⟩ := hstays.current f
      have hwindow := ring_window (s.store.range f) k
      rw [← hstays.range_eq f] at hk
      have hpositions : (fun j => (advance (s.store.range f))^[j + 1] (s.store.current f)) =
          fun j => position (s.store.range f) (k + 1 + j) := by
        funext j
        rw [hk, advance_iterate_position, Nat.add_right_comm, Nat.add_assoc]
      rw [hpositions]
      exact hwindow
  · intro hfamilies hin
    have hroomy : ∀ f, Roomy ((init inet4Range inet6Range).store.range f) := by
      intro f hv
      by_contra hnot
      obtain ⟨hnext, hu⟩ := not_or.1 hnot
      rw [Bool.not_eq_false] at hnext
      have hcurrent : (init inet4Range inet6Range).store.current f =
          ((init inet4Range inet6Range).store.range f).addr.next := by
        have hstart : (init inet4Range inet6Range).store.current f =
            position ((init inet4Range inet6Range).store.range f) 0 := new_current inet4Range inet6Range f
        rw [hstart, position, if_pos hv]
        rfl
      -- the first address that is asked for
      have hanswer : (init inet4Range inet6Range).answer "" f =
          some (nextAddress ((init inet4Range inet6Range).store.range f)
            (lastAddress ((init inet4Range inet6Range).store.range f))
            ((init inet4Range inet6Range).store.range f).addr.next) := by
        have hload : (init inet4Range inet6Range).cache.fakeIPLoadDomain "" f = none := by cases f <;> rfl
        have hvalid : ((init inet4Range inet6Range).store.current f).isValid = true := by rw [hcurrent, hnext]
        rw [answer, hload]
        dsimp only
        rw [if_pos hvalid, allocate_current hvalid, if_pos rfl, advance, if_pos hvalid, hcurrent]
      obtain ⟨-, g, hc, hne, hg⟩ := (hin [] _ rfl (by simp)).1 "" f _ hanswer
      obtain rfl := hg hfamilies
      exact hne (first_outside hv hnext (by omega) hc)
    exact ⟨hroomy false, hroomy true⟩

theorem fakeip_addresses_in_example_range : InRange exampleRange default :=
  (fakeip_addresses_in_range exampleRange default).1 ⟨fun _ => .inr (by decide +kernel), fun h => nomatch h⟩

/-- A range of two addresses: the first address that is handed out is behind it. -/
theorem short_range_left : (Prefix.mk (.v4 0x0a000000#32) 31).isValid = true ∧
    (System.init ⟨.v4 0x0a000000#32, 31⟩ default).answer "a.example" false = some (.v4 0x0a000002#32) ∧
    (System.init ⟨.v4 0x0a000000#32, 31⟩ default).store.contains (.v4 0x0a000002#32) = false := by decide

end SingBox.FakeIP
