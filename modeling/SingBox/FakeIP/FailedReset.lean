import SingBox.FakeIP.CrashSafety
/-!
# A reset that fails

`FakeIPReset` clears the buffer before the transaction that drops the buckets.
If the transaction fails, `Reset` returns the error and the store goes on, but
what was only in the buffer is gone.
-/
namespace SingBox.FakeIP
open Option

/-- `Lookup` and `Create` answer as before for every address and every mapped domain, and the rings have not moved. -/
structure Unchanged (s s' : System) : Prop where
  lookup : ∀ address, s'.cache.fakeIPLoad address = s.cache.fakeIPLoad address
  create : ∀ domain isIPv6, (s.cache.fakeIPLoadDomain domain isIPv6).isSome →
    s'.answer domain isIPv6 = s.answer domain isIPv6
  store : s'.store = s.store

/-- The database has what the buffer has: the domain of every buffered address, and for every domain with a buffered
address the same one, unless it has none and the address is the next one of the ring. -/
structure Backed (s : System) : Prop where
  domain : ∀ address domain, s.cache.pending.fakeIPDomain.lookup address = some domain →
    s.cache.db.address address = some domain ∧ domain ≠ ""
  address : ∀ domain isIPv6 address, s.cache.pending.fakeIPAddress domain isIPv6 = some address →
    address.isValid = true → (s.cache.db.domainBucket (!isIPv6) domain).filter (·.isValid) = some address ∨
      (s.cache.db.domainBucket (!isIPv6) domain).filter (·.isValid) = none ∧
        (s.store.current isIPv6).isValid = true ∧ (s.store.allocate isIPv6).current isIPv6 = address

section
variable {s s' : System}

lemma failed_reset (h : s.step (.reset false) = some s') :
    s.cache.writing = none ∧ s' = { s with cache := { s.cache with pending := newPendingWrites } } := by
  simp only [System.step] at h
  split at h
  · cases hw : s.cache.writing with
    | some w => simp [System.reset, CacheFile.fakeIPReset, hw] at h
    | none =>
      have hreset : s.cache.fakeIPReset false = some { s.cache with pending := newPendingWrites } := by
        simp [CacheFile.fakeIPReset, hw]
      rw [System.reset, hreset] at h
      exact ⟨rfl, (some.inj h).symm⟩
  · cases h

lemma load_without_buffers {c : CacheFile} (hw : c.writing = none) :
    (∀ address, { c with pending := newPendingWrites }.fakeIPLoad address = (c.db.address address).filter (· ≠ "")) ∧
    ∀ domain isIPv6, { c with pending := newPendingWrites }.fakeIPLoadDomain domain isIPv6 =
      (c.db.domainBucket (!isIPv6) domain).filter (·.isValid) := by
  constructor
  · intro address
    simp [CacheFile.fakeIPLoad, newPendingWrites, hw]
  intro domain isIPv6
  cases isIPv6 <;> simp [CacheFile.fakeIPLoadDomain, newPendingWrites, PendingWrites.fakeIPAddress, hw]

lemma load_pending {c : CacheFile} (hw : c.writing = none) : (∀ address, c.fakeIPLoad address =
      (c.pending.fakeIPDomain.lookup address).or ((c.db.address address).filter (· ≠ ""))) ∧
    ∀ domain isIPv6, c.fakeIPLoadDomain domain isIPv6 =
      ((c.pending.fakeIPAddress domain isIPv6).or (c.db.domainBucket (!isIPv6) domain)).filter (·.isValid) := by
  constructor
  · intro address
    simp [CacheFile.fakeIPLoad, hw]
  intro domain isIPv6
  simp [CacheFile.fakeIPLoadDomain, hw]

end

/-- A failed reset changes no answer exactly if the database has what the buffer has. -/
theorem failed_reset_unchanged_iff (s s' : System) (h : s.step (.reset false) = some s') :
    Unchanged s s' ↔ Backed s := by
  obtain ⟨hw, rfl⟩ := failed_reset h
  obtain ⟨hlookup', hload'⟩ := load_without_buffers hw
  obtain ⟨hlookup, hload⟩ := load_pending hw
  constructor
  · intro hu
    constructor
    · intro address domain hpending
      have hsame := hu.lookup address
      rw [hlookup, hpending] at hsame
      have hdb := (hlookup' address).symm.trans hsame
      rw [some_or, filter_eq_some_iff] at hdb
      exact ⟨hdb.1, of_decide_eq_true hdb.2⟩
    · intro domain isIPv6 address hpending hvalid
      have hbefore : s.cache.fakeIPLoadDomain domain isIPv6 = some address := by
        rw [hload, hpending, some_or, filter_some, if_pos hvalid]
      have hanswer : s.answer domain isIPv6 = some address := by rw [System.answer, hbefore]
      have hsame := hu.create domain isIPv6 (by rw [hbefore]; rfl)
      rw [hanswer, System.answer] at hsame
      rw [hload'] at hsame
      cases hdb : (s.cache.db.domainBucket (!isIPv6) domain).filter (·.isValid) with
      | some address' =>
        rw [hdb] at hsame
        exact .inl hsame
      | none =>
        rw [hdb] at hsame
        dsimp only at hsame
        split at hsame
        next hcurrent => exact .inr ⟨rfl, hcurrent, some.inj hsame⟩
        · cases hsame
  · intro hb
    constructor
    · intro address
      rw [hlookup]
      refine (hlookup' address).trans ?_
      cases hpending : s.cache.pending.fakeIPDomain.lookup address with
      | none => rfl
      | some domain =>
        obtain ⟨hdb, hne⟩ := hb.domain address domain hpending
        rw [hdb, some_or, filter_some, if_pos (decide_eq_true hne)]
    · intro domain isIPv6 hsome
      rw [System.answer, System.answer]
      rw [hload']
      rw [hload] at hsome ⊢
      cases hpending : s.cache.pending.fakeIPAddress domain isIPv6 with
      | none => rfl
      | some address =>
        rw [hpending, some_or] at hsome
        have hvalid : address.isValid = true := by
          obtain ⟨x, hx⟩ := isSome_iff_exists.1 hsome
          obtain ⟨heq, hvalid⟩ := filter_eq_some_iff.1 hx
          cases heq
          exact hvalid
        rw [some_or, filter_some, if_pos hvalid]
        rcases hb.address domain isIPv6 address hpending hvalid with hdb | ⟨hdb, hcurrent, hnext⟩
        · rw [hdb]
        rw [hdb]
        rw [if_pos hcurrent, hnext]
    · rfl

/-- Once its address is in the database, a domain outlives a failed reset. -/
theorem failed_reset_after_flush :
    ∃ s s', Machine.run System.step (System.init exampleRange default) (createOne "a.example" ++
        [.flushBegin, .flushCommit [⟨.v4 0xc6120002#32, "a.example"⟩], .flushDone]) = some s ∧
      s.step (.reset false) = some s' ∧ s.cache.fakeIPLoad (.v4 0xc6120002#32) = some "a.example" ∧
      Unchanged s s' := by
  refine ⟨_, _, rfl, rfl, rfl, (failed_reset_unchanged_iff _ _ rfl).2 ⟨?_, ?_⟩⟩
  · intro address domain hpending
    cases hpending
  intro domain isIPv6 address hpending
  cases isIPv6 <;> cases hpending

/-- The domain's address is in the buffer only, and no longer found. -/
theorem failed_reset_forgets_domain :
    ∃ s s', Machine.run System.step (System.init exampleRange default) (createOne "a.example") = some s ∧
      s.step (.reset false) = some s' ∧ s.cache.fakeIPLoad (.v4 0xc6120002#32) = some "a.example" ∧
      s'.cache.fakeIPLoad (.v4 0xc6120002#32) = none ∧
      s.answer "a.example" false = some (.v4 0xc6120002#32) ∧ s'.answer "a.example" false = some (.v4 0xc6120003#32) :=
  ⟨_, _, rfl, rfl, rfl, rfl, rfl, rfl⟩

end SingBox.FakeIP
