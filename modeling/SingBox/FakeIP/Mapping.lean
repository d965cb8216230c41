import SingBox.FakeIP.Store
import SingBox.Lib.TwoWay
/-!
# The two directions of the FakeIP mapping

The buffers and the buckets of the cache file are the layers of a two-way
table: a place is an address, a name is a domain with the family its address
map belongs to. Every call of the store and every phase of a flush keeps the
invariant of such layers, except that a failed flush drops the tombstones of
its buffer (`restorePendingLocked` merges back entries only).
-/
namespace SingBox.FakeIP
open Function Option TwoWay
variable {p : PendingWrites} {domain : String} {isIPv6 : Bool} {a : Addr}

/-- The name a domain has while it is to hold `address`. -/
def slot (address : Addr) (domain : String) : Bool × String := (!address.is4, domain)

/-- What a reader of an address map makes of the value it finds. -/
def seen (address : Addr) : Option Addr := if address.isValid then some address else none

open PendingWrites CacheFile
variable {order : List (Sigma fun _ : Addr => String)}

variable (address : Addr)

lemma seen_cases : seen address = some address ∨ seen address = none := by
  unfold seen
  split <;> simp

lemma seen_of_isValid {address : Addr} (h : address.isValid = true) : seen address = some address := if_pos h

namespace PendingWrites

section
variable (p : PendingWrites)

def toBuffer : Buffer Addr (Bool × String) where
  owner a := (p.fakeIPDomain.lookup a).map (slot a)
  place i := (p.fakeIPAddress i.2 i.1).map seen

section
variable (is4 : Bool) (domain : String) (value : Addr)

lemma setAddress_fakeIPDomain : (p.setAddress is4 domain value).fakeIPDomain = p.fakeIPDomain := by
  cases is4 <;> rfl

lemma setAddress_fakeIPAddress (i : Bool × String) : (p.setAddress is4 domain value).fakeIPAddress i.2 i.1 =
      if i = (!is4, domain) then some value else p.fakeIPAddress i.2 i.1 := by
  obtain ⟨v6, d⟩ := i
  cases is4 <;> cases v6 <;> by_cases h : d = domain <;> simp [setAddress, fakeIPAddress, h]

lemma setAddress_toBuffer : (p.setAddress is4 domain value).toBuffer =
      ⟨p.toBuffer.owner, update p.toBuffer.place (!is4, domain) (some (seen value))⟩ := by
  have hplace : (p.setAddress is4 domain value).toBuffer.place =
      update p.toBuffer.place (!is4, domain) (some (seen value)) := by
    funext i
    by_cases h : i = (!is4, domain) <;> simp [toBuffer, setAddress_fakeIPAddress, update_apply, h]
  rw [← hplace]
  simp [toBuffer, setAddress_fakeIPDomain]

end

lemma insert_toBuffer (domain : String) :
    ({ p with fakeIPDomain := p.fakeIPDomain.insert address domain } : PendingWrites).toBuffer =
      ⟨update p.toBuffer.owner address (some (slot address domain)), p.toBuffer.place⟩ := by
  have howner : (fun a => ((p.fakeIPDomain.insert address domain).lookup a).map (slot a)) =
      update p.toBuffer.owner address (some (slot address domain)) := by
    funext a
    by_cases h : a = address
    · subst h
      simp
    · simp [update_of_ne h, AList.lookup_insert_ne h, toBuffer]
  rw [← howner]
  rfl

lemma setDomain_toBuffer (domain : String) : (p.setDomain address domain).toBuffer =
      ⟨update p.toBuffer.owner address (some (slot address domain)),
        update p.toBuffer.place (slot address domain) (some (seen address))⟩ := by
  rw [setDomain, setAddress_toBuffer, insert_toBuffer]
  rfl

end

@[simp] lemma newPendingWrites_toBuffer : newPendingWrites.toBuffer = .empty := by
  simp [toBuffer, newPendingWrites, Buffer.empty, fakeIPAddress]

/-- The entries of `fakeIPDomain`, in the order a loop walks them. -/
def pairs (order : List (Sigma fun _ : Addr => String)) : List (Addr × (Bool × String)) :=
  order.map fun e => (e.1, slot e.1 e.2)

lemma mem_pairs (h : order.Perm p.fakeIPDomain.entries) (a : Addr) (i : Bool × String) :
    (a, i) ∈ pairs order ↔ p.toBuffer.owner a = some i := by
  simp only [pairs, List.mem_map, Prod.mk.injEq, toBuffer, map_eq_some_iff]
  constructor
  · rintro ⟨⟨x, d⟩, hm, rfl, rfl⟩
    exact ⟨d, AList.mem_lookup_iff.2 (h.mem_iff.1 hm), rfl⟩
  rintro ⟨d, hd, rfl⟩
  exact ⟨⟨a, d⟩, h.mem_iff.2 (AList.mem_lookup_iff.1 hd), rfl, rfl⟩

lemma pairs_nodup (h : order.Perm p.fakeIPDomain.entries) : ((pairs order).map Prod.fst).Nodup := by
  have hk : (order.map Sigma.fst).Nodup := (h.map Sigma.fst).nodup_iff.2 p.fakeIPDomain.nodupKeys
  simpa [pairs, List.map_map, comp_def] using hk

end PendingWrites

/-! ## The database -/

namespace Database

section
variable (db : Database)

def toTable : Table Addr (Bool × String) where
  owner a := (db.address a).map (slot a)
  place i := db.domainBucket (!i.1) i.2

/-- No address maps to the empty domain, which readers take for no entry. -/
def NonEmpty : Prop := ∀ a, db.address a ≠ some ""

lemma setDomainBucket_address (is4 : Bool) (bucket : String → Option Addr) :
    (db.setDomainBucket is4 bucket).address = db.address := by
  cases is4 <;> rfl

lemma setDomainBucket_domainBucket (is4 x : Bool) (bucket : String → Option Addr) :
    (db.setDomainBucket is4 bucket).domainBucket x = if x = is4 then bucket else db.domainBucket x := by
  cases is4 <;> cases x <;> rfl

end

lemma dropOld_apply (bucket : String → Option Addr) (oldDomain : Option String) (address : Addr) (d : String) :
    dropOld bucket oldDomain address d =
      if oldDomain = some d ∧ bucket d = some address then none else bucket d := by
  rcases oldDomain with _ | old
  · simp [dropOld]
  by_cases ho : old = d
  · subst ho
    by_cases hb : bucket old = some address <;> simp [dropOld, hb]
  · by_cases hb : bucket old = some address <;> simp [dropOld, hb, ho, Ne.symm ho]

variable {db db' : Database} {address : Addr} {domain : String}

lemma putFakeIP_some (h : db.putFakeIP address domain = some db') :
    domain ≠ "" ∧ db' = { db with address := update db.address address (some domain) }.setDomainBucket
      address.is4 (update (dropOld (db.domainBucket address.is4) (db.address address) address)
        domain (some address)) := by
  unfold putFakeIP at h
  split at h
  · simp only at h
    split at h
    · cases h
    · exact ⟨‹_›, (some.inj h).symm⟩
  · cases h

lemma putFakeIP_toTable (h : db.putFakeIP address domain = some db') :
    db'.toTable = db.toTable.put address (slot address domain) := by
  obtain ⟨-, rfl⟩ := putFakeIP_some h
  simp only [toTable, setDomainBucket_address, setDomainBucket_domainBucket, Table.put, Table.mk.injEq]
  constructor
  · funext x
    by_cases hx : x = address
    · subst hx
      simp
    · simp [update_of_ne hx]
  funext key
  obtain ⟨v6, d⟩ := key
  by_cases hv : v6 = !address.is4
  · subst hv
    by_cases hd : d = domain <;> simp [slot, hd, dropOld_apply]
  have hv' : (!v6) ≠ address.is4 := by
    rintro h
    simp [← h] at hv
  simp only [slot, if_neg hv', Prod.mk.injEq, hv, false_and, if_false, map_eq_some_iff]
  rw [if_neg (by rintro ⟨⟨_, _, h, _⟩, _⟩; exact hv h.symm)]
  rfl

lemma NonEmpty.putFakeIP (hdb : db.NonEmpty) (h : db.putFakeIP address domain = some db') : db'.NonEmpty := by
  obtain ⟨hne, rfl⟩ := putFakeIP_some h
  intro a
  rw [setDomainBucket_address]
  by_cases hx : a = address <;> simp [hx, hne, hdb a]

lemma foldlM_putFakeIP (hdb : db.NonEmpty) (h : order.foldlM (fun db e => db.putFakeIP e.1 e.2) db = some db') :
    db'.NonEmpty ∧ db'.toTable = db.toTable.puts (pairs order) := by
  induction order generalizing db with
  | nil =>
    cases h
    exact ⟨hdb, rfl⟩
  | cons e order ih =>
    rw [List.foldlM_cons] at h
    obtain ⟨db₁, h₁, h⟩ := bind_eq_some_iff.1 h
    obtain ⟨hne, ht⟩ := ih (hdb.putFakeIP h₁) h
    exact ⟨hne, by rw [ht, putFakeIP_toTable h₁]; rfl⟩

lemma writePending_some
    {metadata : Option FakeIPMetadata} (hdb : db.NonEmpty) (h : db.writePending order metadata = some db') :
    db'.NonEmpty ∧ db'.toTable = db.toTable.puts (pairs order) := by
  obtain ⟨db₁, h₁, h⟩ := bind_eq_some_iff.1 h
  have := foldlM_putFakeIP hdb h₁
  cases metadata <;> obtain rfl := some.inj h <;> exact this

end Database

/-! ## The cache file -/

namespace CacheFile

def layers (c : CacheFile) : Layers Addr (Bool × String) :=
  ⟨c.pending.toBuffer, (c.writing.map toBuffer).getD .empty, c.db.toTable⟩

/-- What every call and every phase of a flush keeps. -/
structure Consistent (c : CacheFile) : Prop where
  inv : c.layers.Inv
  nonEmpty : c.db.NonEmpty
  written : c.committed = true → c.layers.Written

/-- The failed flush needs none of the tombstones it drops: a domain its buffer
hides, and no later write knows, has no address in the database. -/
def TombstonesKept (c : CacheFile) : Prop :=
  ∀ writing, c.writing = some writing → ∀ domain isIPv6,
    writing.fakeIPAddress domain isIPv6 = some .invalid → c.pending.fakeIPAddress domain isIPv6 = none →
    c.db.domainBucket (!isIPv6) domain = none

variable {c c' : CacheFile}

lemma layers_ownerOf (hdb : c.db.NonEmpty) (a : Addr) : c.layers.ownerOf a = (c.fakeIPLoad a).map (slot a) := by
  have hfilter : (c.db.address a).filter (· ≠ "") = c.db.address a := by
    rcases h : c.db.address a with _ | d
    · rfl
    have : d ≠ "" := by
      rintro rfl
      exact hdb a h
    simp [Option.filter, this]
  simp only [Layers.ownerOf, layers, fakeIPLoad, toBuffer, Database.toTable, hfilter]
  rcases c.pending.fakeIPDomain.lookup a with _ | d
  · rcases c.writing with _ | w
    · simp [Buffer.empty]
    · rcases h : w.fakeIPDomain.lookup a with _ | d <;> simp [toBuffer, h]
  · rfl

lemma layers_placeOf
    (h : c.fakeIPLoadDomain domain isIPv6 = some a) : c.layers.placeOf (isIPv6, domain) = some a := by
  obtain ⟨h, hv⟩ := filter_eq_some_iff.1 h
  simp only [Layers.placeOf, layers, toBuffer, Database.toTable]
  rcases hp : c.pending.fakeIPAddress domain isIPv6 with _ | x
  · rw [hp, none_or] at h
    rcases hw : c.writing with _ | w
    · simpa [hw, Buffer.empty] using h
    rcases hx : w.fakeIPAddress domain isIPv6 with _ | x
    · simpa [hw, hx, toBuffer] using h
    obtain rfl : x = a := by simpa [hw, hx] using h
    simp [hx, toBuffer, seen_of_isValid hv]
  · obtain rfl : x = a := by simpa [hp] using h
    simp [seen_of_isValid hv]

lemma Consistent.agree (hc : c.Consistent)
    (h : c.fakeIPLoadDomain domain isIPv6 = some a) : c.fakeIPLoad a = some domain := by
  have ho := hc.inv.agree (layers_placeOf h)
  rw [layers_ownerOf hc.nonEmpty] at ho
  obtain ⟨d, hd, hslot⟩ := map_eq_some_iff.1 ho
  rw [hd, show d = domain from congrArg Prod.snd hslot]

lemma Consistent.opened {db : Database} (ht : db.toTable.Sound) (hdb : db.NonEmpty) : (opened db).Consistent where
  inv := by simpa [layers, CacheFile.opened] using Layers.Inv.ofTable ht
  nonEmpty := hdb
  written := nofun

lemma Consistent.saveMetadata (hc : c.Consistent) (m : FakeIPMetadata) :
    (c.saveMetadata m).Consistent := { hc with }

lemma queueFakeIP_layers (hdb : c.db.NonEmpty) (address : Addr) (domain : String) :
    (c.queueFakeIP address domain).layers =
      { c.layers with
        pending := c.layers.pending.assign (c.layers.ownerOf address) address (slot address domain) (seen address) } := by
  rw [layers_ownerOf hdb]
  unfold queueFakeIP
  rcases c.fakeIPLoad address with _ | old
  · simp [layers, setDomain_toBuffer, Buffer.assign]
  simp only [layers, setDomain_toBuffer, setAddress_toBuffer, Buffer.assign,
    map_some, Layers.mk.injEq, and_true, Buffer.mk.injEq, true_and]
  congr 1
  funext i
  change update _ (slot address old) _ i = _
  by_cases hi : i = slot address old
  · simp [hi, seen, Addr.isValid]
  · rw [update_of_ne hi, if_neg (fun h => hi (some.inj h).symm)]

section
variable (hc : c.Consistent)
include hc

lemma Consistent.queueFakeIP (domain : String) : (c.queueFakeIP address domain).Consistent where
  inv := by
    rw [queueFakeIP_layers hc.nonEmpty]
    exact hc.inv.assign _ _ (seen_cases address)
  nonEmpty := hc.nonEmpty
  written h := by
    rw [queueFakeIP_layers hc.nonEmpty]
    exact hc.written h

lemma Consistent.flushBegin (h : c.flushBegin = some c') : c'.Consistent := by
  unfold CacheFile.flushBegin at h
  split at h
  · rename_i hw
    cases h
    refine ⟨?_, hc.nonEmpty, nofun⟩
    simpa [layers] using hc.inv.begin (by simp [layers, hw])
  · cases h

lemma Consistent.flushCommit (h : c.flushCommit order = some c') : c'.Consistent := by
  unfold CacheFile.flushCommit at h
  split at h
  · rename_i w hw hcom
    split at h
    · rename_i hperm
      obtain ⟨db, hdb, rfl⟩ := map_eq_some_iff.1 h
      obtain ⟨hne, ht⟩ := Database.writePending_some hc.nonEmpty hdb
      have hl : ∀ a i, (a, i) ∈ pairs order ↔ c.layers.writing.owner a = some i := by
        simpa [layers, hw] using mem_pairs hperm
      have hlayers : ({ c with db := db, committed := true } : CacheFile).layers =
          { c.layers with table := c.layers.table.puts (pairs order) } := by
        simp [layers, ht]
      exact ⟨hlayers ▸ hc.inv.commit hl, hne, fun _ => hlayers ▸ hc.inv.commit_written hl⟩
    · cases h
  · cases h

lemma Consistent.flushDone (h : c.flushDone = some c') : c'.Consistent := by
  unfold CacheFile.flushDone at h
  split at h
  · rename_i hcom
    cases h
    exact ⟨by simpa [layers] using hc.inv.finish (hc.written hcom), hc.nonEmpty, nofun⟩
  · cases h

end

lemma restoreDomain_toBuffer (p : PendingWrites) (address : Addr) (domain : String) :
    (restoreDomain p address domain).toBuffer =
      p.toBuffer.takeBack address (slot address domain) (address.is6, domain) (seen address) := by
  unfold restoreDomain Buffer.takeBack
  rcases ho : p.fakeIPDomain.lookup address with _ | d
  · rcases ha : p.fakeIPAddress domain address.is6 with _ | x
    · rw [if_neg (by simp), if_neg (by simp), if_pos (by simp [toBuffer, ho, ha]), setDomain_toBuffer]
    · simp [toBuffer, ho, ha]
  · simp [toBuffer, ho]

lemma restorePendingLocked_toBuffer (pending writing : PendingWrites)
    (order : List (Sigma fun _ : Addr => String)) : (restorePendingLocked pending writing order).toBuffer =
      pending.toBuffer.restore (fun a i => (a.is6, i.2)) seen (pairs order) := by
  change (order.foldl (fun p e => restoreDomain p e.1 e.2) pending).toBuffer = _
  induction order generalizing pending with
  | nil => rfl
  | cons e order ih =>
    rw [List.foldl_cons, ih, restoreDomain_toBuffer]
    rfl

lemma Consistent.flushFail (hc : c.Consistent) (hkept : c.TombstonesKept)
    (h : c.flushFail order = some c') : c'.Consistent := by
  unfold CacheFile.flushFail at h
  split at h
  · rename_i w hw hcom
    split at h
    · rename_i hperm
      cases h
      have hwriting : c.layers.writing = w.toBuffer := by simp [layers, hw]
      have hl : ∀ a i, (a, i) ∈ pairs order ↔ c.layers.writing.owner a = some i := by
        rw [hwriting]
        exact mem_pairs hperm
      have hkept' : c.layers.TombstonesKept := by
        rintro ⟨v6, d⟩ hwp hp
        rw [hwriting] at hwp
        obtain ⟨x, hx, hinv⟩ := map_eq_some_iff.1 hwp
        obtain rfl : x = .invalid := by
          cases x <;> simp [seen, Addr.isValid] at hinv ⊢
        exact hkept w hw d v6 hx (map_eq_none_iff.1 hp)
      -- an entry of a usable address is looked for where it is put back
      have hr : ∀ e ∈ pairs order,
          (seen e.1 = some e.1 ∧ (e.1.is6, e.2.2) = e.2) ∨ seen e.1 = none := by
        intro e he
        obtain ⟨⟨a, d⟩, -, rfl⟩ := List.mem_map.1 he
        cases a <;> simp [seen, slot, Addr.isValid, Addr.is6, Addr.is4]
      have hseen : ∀ {i a}, c.layers.writing.place i = some (some a) → seen a = some a := by
        intro i a hp
        rw [hwriting] at hp
        obtain ⟨x, -, hx⟩ := map_eq_some_iff.1 hp
        rcases seen_cases x with h | h <;> rw [h] at hx
        · cases hx
          exact h
        · cases hx
      refine ⟨?_, hc.nonEmpty, fun h => absurd h (by simp [hcom])⟩
      simpa [layers, restorePendingLocked_toBuffer] using
        hc.inv.restore hkept' hl (pairs_nodup hperm) hr hseen
    · cases h
  · cases h

lemma empty_sound : Database.empty.toTable.Sound := by
  rintro ⟨v6, d⟩ a h
  cases v6 <;> cases h

lemma Consistent.opened_of (hc : c.Consistent) (drop : Bool) :
    (CacheFile.opened (if drop then .empty else c.db)).Consistent := by
  cases drop
  · exact .opened hc.inv.sound hc.nonEmpty
  · exact .opened empty_sound nofun

lemma Consistent.fakeIPReset (hc : c.Consistent) {ok : Bool} (h : c.fakeIPReset ok = some c') : c'.Consistent := by
  unfold CacheFile.fakeIPReset at h
  split at h
  · rename_i hw
    cases h
    have ho := hc.opened_of ok
    refine ⟨?_, ho.nonEmpty, fun _ => fun a i _ => .inl (by simp [layers, hw, Buffer.empty])⟩
    simpa [layers, CacheFile.opened, hw] using ho.inv
  · cases h

end CacheFile

/-! ## Runs -/

def KeepsTombstones (s : System) : Event → Prop
  | .flushFail _ => s.cache.TombstonesKept
  | _ => True

lemma create_consistent {s : System} (hs : s.cache.Consistent) (domain : String) (isIPv6 : Bool) :
    (s.create domain isIPv6).cache.Consistent := by
  unfold System.create
  split
  · exact hs
  split
  · exact hs
  split
  · exact hs.saveMetadata _
  · exact hs.queueFakeIP _ _

lemma step_consistent {s s' : System} {e : Event} (hs : s.cache.Consistent) (he : KeepsTombstones s e)
    (h : s.step e = some s') : s'.cache.Consistent := by
  cases e with
  | create domain isIPv6 =>
    obtain ⟨-, h⟩ := ite_none_right_eq_some.1 h
    cases h
    exact create_consistent hs domain isIPv6
  | createResume =>
    simp only [System.step, System.createResume] at h
    split at h
    · obtain ⟨-, h⟩ := ite_none_right_eq_some.1 h
      cases h
      exact hs.queueFakeIP _ _
    · cases h
  | reset ok =>
    obtain ⟨-, h⟩ := ite_none_right_eq_some.1 h
    obtain ⟨c, hc, rfl⟩ := map_eq_some_iff.1 h
    cases ok
    · exact hs.fakeIPReset hc
    · exact (hs.fakeIPReset hc).saveMetadata _
  | close =>
    obtain ⟨-, h⟩ := ite_none_right_eq_some.1 h
    cases h
    exact hs
  | closeSave =>
    obtain ⟨m, -, rfl⟩ := map_eq_some_iff.1 h
    exact hs.saveMetadata m
  | flushBegin =>
    obtain ⟨c, hc, rfl⟩ := map_eq_some_iff.1 h
    exact hs.flushBegin hc
  | flushCommit order =>
    obtain ⟨c, hc, rfl⟩ := map_eq_some_iff.1 h
    exact hs.flushCommit hc
  | flushDone =>
    obtain ⟨c, hc, rfl⟩ := map_eq_some_iff.1 h
    exact hs.flushDone hc
  | flushFail order =>
    obtain ⟨c, hc, rfl⟩ := map_eq_some_iff.1 h
    exact hs.flushFail he hc
  | restart inet4Range inet6Range ok =>
    cases h
    exact hs.opened_of _

lemma init_consistent (inet4Range inet6Range : Prefix) : (System.init inet4Range inet6Range).cache.Consistent :=
  .opened empty_sound nofun

/-- Whatever the store, its flushes and restarts do, as long as failed flushes
drop no tombstone still needed, the address found for a domain is mapped back
to that domain, and no two domains have the same address. -/
theorem directions_agree (inet4Range inet6Range : Prefix) {es : List Event} {s : System}
    (hrun : Machine.run System.step (System.init inet4Range inet6Range) es = some s)
    (hkept : Machine.Along System.step KeepsTombstones (System.init inet4Range inet6Range) es) :
    (∀ domain isIPv6 a, s.cache.fakeIPLoadDomain domain isIPv6 = some a → s.cache.fakeIPLoad a = some domain) ∧
      ∀ d₁ f₁ d₂ f₂ a, s.cache.fakeIPLoadDomain d₁ f₁ = some a → s.cache.fakeIPLoadDomain d₂ f₂ = some a → d₁ = d₂ := by
  have hs : s.cache.Consistent :=
    Machine.run_inv (I := fun s : System => s.cache.Consistent) (fun _ _ _ hs he h => step_consistent hs he h)
      (init_consistent ..) hkept hrun
  refine ⟨fun domain isIPv6 a h => hs.agree h, fun d₁ f₁ d₂ f₂ a h₁ h₂ => ?_⟩
  exact some.inj ((hs.agree h₁).symm.trans (hs.agree h₂))

def oneAddressRange : Prefix := ⟨.v4 0x0a000000#32, 30⟩
def onlyAddress : Addr := .v4 0x0a000002#32

/-- One domain is stored, after a first flush failed; then the ring wraps and
the address goes to another domain. -/
def wrapAround : List Event :=
  [.create "a.example" false, .flushBegin, .flushFail [], .flushBegin, .flushCommit [], .flushDone, .createResume,
    .flushBegin, .flushCommit [⟨onlyAddress, "a.example"⟩], .flushDone,
    .create "b.example" false, .flushBegin]

theorem directions_agree_after_wrap :
    ∃ s, Machine.run System.step (System.init oneAddressRange default) wrapAround = some s ∧
      s.cache.fakeIPLoadDomain "b.example" false = some onlyAddress ∧
      s.cache.fakeIPLoad onlyAddress = some "b.example" := by
  obtain ⟨s, hs⟩ : ∃ s, Machine.run System.step (System.init oneAddressRange default) wrapAround = some s :=
    ⟨_, rfl⟩
  have hload : s.cache.fakeIPLoadDomain "b.example" false = some onlyAddress := by
    have := congrArg (Option.map fun s => s.cache.fakeIPLoadDomain "b.example" false) hs
    exact (some.inj this).symm
  refine ⟨s, hs, hload, (directions_agree _ _ hs ?_).1 _ _ _ hload⟩
  simp only [wrapAround, Machine.Along, KeepsTombstones, true_and, and_true, implies_true]
  -- the buffer of the failed flush holds the reservation only
  intro s₁ h₁ s₂ h₂ w hw domain isIPv6 htomb
  cases h₁
  cases h₂
  cases hw
  cases isIPv6 <;> cases htomb

/-- When the write that takes the address away fails, the database's entry for
the first domain is found again. -/
theorem failed_flush_revives_domain : ∃ s, Machine.run System.step (System.init oneAddressRange default)
        (wrapAround ++ [.flushFail [⟨onlyAddress, "b.example"⟩]]) = some s ∧
      s.cache.fakeIPLoadDomain "a.example" false = some onlyAddress ∧
      s.cache.fakeIPLoad onlyAddress = some "b.example" := ⟨_, rfl, rfl, rfl⟩

end SingBox.FakeIP
