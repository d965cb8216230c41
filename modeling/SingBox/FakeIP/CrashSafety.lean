import SingBox.FakeIP.Ring
/-!
# Addresses after a crash

A store saves metadata 1024 addresses ahead before it hands out addresses, so
after a crash the next store continues past them. That needs the metadata in
the database before the first address of the reservation goes out:
`FakeIPSaveMetadata` reports no failed flush, `Reset` drops metadata still
buffered, and `Close` saves a position that later addresses run past.
-/
namespace SingBox.FakeIP
open Option Machine Function
open FakeIP.System CacheFile Store
variable {c : CacheFile} {e : Event} {domain : String} {ok : Bool}

/-! ## Buffered metadata -/

namespace CacheFile

/-- The metadata of a flush whose transaction has not gone through. -/
def uncommitted (c : CacheFile) : Option FakeIPMetadata :=
  if c.committed then none else c.writing.bind (·.fakeIPMetadata)

/-- The newest metadata that is saved but not yet in the database. -/
def outstanding (c : CacheFile) : Option FakeIPMetadata := c.pending.fakeIPMetadata.or c.uncommitted

lemma setDomain_fakeIPMetadata (p : PendingWrites) (address : Addr) (domain : String) :
    (p.setDomain address domain).fakeIPMetadata = p.fakeIPMetadata := by
  unfold PendingWrites.setDomain PendingWrites.setAddress
  split <;> rfl

lemma queueFakeIP_frame (c : CacheFile) (address : Addr) (domain : String) :
    (c.queueFakeIP address domain).outstanding = c.outstanding ∧
      (c.queueFakeIP address domain).uncommitted = c.uncommitted ∧ (c.queueFakeIP address domain).db = c.db := by
  have hp : (c.queueFakeIP address domain).pending.fakeIPMetadata = c.pending.fakeIPMetadata := by
    unfold queueFakeIP
    rw [setDomain_fakeIPMetadata]
    split
    · unfold PendingWrites.setAddress
      split <;> rfl
    · rfl
  exact ⟨by rw [outstanding, hp]; rfl, rfl, rfl⟩

lemma restorePendingLocked_fakeIPMetadata (pending writing : PendingWrites)
    (order : List (Sigma fun _ : Addr => String)) : (restorePendingLocked pending writing order).fakeIPMetadata =
      pending.fakeIPMetadata.or writing.fakeIPMetadata := by
  have hfold : (order.foldl (fun p e => restoreDomain p e.1 e.2) pending).fakeIPMetadata =
      pending.fakeIPMetadata := by
    induction order generalizing pending with
    | nil => rfl
    | cons e order ih =>
      rw [List.foldl_cons, ih]
      unfold restoreDomain
      split
      · rfl
      split
      · rfl
      · exact setDomain_fakeIPMetadata ..
  simp only [restorePendingLocked, hfold]

variable {c c' : CacheFile} {db db' : Database} {order : List (Sigma fun _ : Addr => String)}

lemma flushBegin_frame (h : c.flushBegin = some c') :
    c'.outstanding = c.outstanding ∧ c'.uncommitted = c.pending.fakeIPMetadata ∧ c.uncommitted = none ∧
      c'.db = c.db := by
  unfold flushBegin at h
  split at h
  · rename_i hw
    cases h
    simp [outstanding, uncommitted, hw, newPendingWrites]
  · cases h

lemma putFakeIP_metadata {address : Addr}
    (h : db.putFakeIP address domain = some db') : db'.metadata = db.metadata := by
  unfold Database.putFakeIP at h
  split at h
  · obtain ⟨-, h⟩ := ite_none_left_eq_some.1 h
    cases h
    unfold Database.setDomainBucket
    split <;> rfl
  · cases h

lemma foldlM_putFakeIP_metadata
    (h : order.foldlM (fun db e => db.putFakeIP e.1 e.2) db = some db') : db'.metadata = db.metadata := by
  induction order generalizing db with
  | nil =>
    cases h
    rfl
  | cons e order ih =>
    rw [List.foldlM_cons] at h
    obtain ⟨db₁, h₁, h⟩ := bind_eq_some_iff.1 h
    rw [ih h, putFakeIP_metadata h₁]

lemma writePending_metadata {metadata : Option FakeIPMetadata} (h : db.writePending order metadata = some db') :
    db'.metadata = metadata.or db.metadata := by
  obtain ⟨db₁, h₁, h⟩ := bind_eq_some_iff.1 h
  cases metadata <;> cases h
  · exact foldlM_putFakeIP_metadata h₁
  · rfl

lemma flushCommit_frame (h : c.flushCommit order = some c') :
    c'.outstanding = c.pending.fakeIPMetadata ∧ c'.uncommitted = none ∧
      c.uncommitted = c.writing.bind (·.fakeIPMetadata) ∧ c'.db.metadata = c.uncommitted.or c.db.metadata := by
  unfold flushCommit at h
  split at h
  · rename_i w hw hcom
    split at h
    · obtain ⟨db, hdb, rfl⟩ := map_eq_some_iff.1 h
      simp [outstanding, uncommitted, hw, hcom, writePending_metadata hdb]
    · cases h
  · cases h

lemma flushDone_frame (h : c.flushDone = some c') :
    c'.outstanding = c.outstanding ∧ c'.uncommitted = c.uncommitted ∧ c'.db = c.db := by
  unfold flushDone at h
  split at h
  · rename_i hw hcom
    cases h
    simp [outstanding, uncommitted, hcom]
  · cases h

lemma flushFail_frame (h : c.flushFail order = some c') :
    c'.outstanding = c.outstanding ∧ c'.uncommitted = none ∧ c'.db = c.db := by
  unfold flushFail at h
  split at h
  · rename_i w hw hcom
    split at h
    · cases h
      simp [outstanding, uncommitted, hw, hcom, restorePendingLocked_fakeIPMetadata]
    · cases h
  · cases h

lemma fakeIPReset_frame (h : c.fakeIPReset ok = some c') :
    c'.outstanding = none ∧ c'.uncommitted = none ∧ c.uncommitted = none ∧
      c'.db = if ok then .empty else c.db := by
  unfold fakeIPReset at h
  split at h
  · rename_i hw
    cases h
    simp [outstanding, uncommitted, hw, newPendingWrites]
  · cases h

end CacheFile

/-! ## Where the store is in its ranges -/

namespace FakeIPMetadata

section
variable (m : FakeIPMetadata)

def range (isIPv6 : Bool) : Prefix := if isIPv6 then m.inet6Range else m.inet4Range
def current (isIPv6 : Bool) : Addr := if isIPv6 then m.inet6Current else m.inet4Current
def Fits (s : Store) : Prop := m.inet4Range = s.inet4Range ∧ m.inet6Range = s.inet6Range
def At (e : Bool → Nat) : Prop := ∀ f, m.current f = position (m.range f) (e f)

end

lemma Fits.range {m : FakeIPMetadata} {s : Store} (h : m.Fits s) (f : Bool) : m.range f = s.range f := by
  cases f
  · exact h.1
  · exact h.2

end FakeIPMetadata

lemma metadata_fits (s : Store) : s.metadata.Fits s := ⟨rfl, rfl⟩
lemma reservation_fits (s : Store) : s.reservation.Fits s := ⟨rfl, rfl⟩

variable {s s' : System} {d l p : Bool → Nat} {isIPv6 : Bool} {m : FakeIPMetadata}

section
variable {s : Store} (h : ∀ f, s.current f = position (s.range f) (p f))
include h

lemma metadata_at : s.metadata.At p := by
  intro f
  cases f
  · exact h false
  · exact h true

lemma reservation_at : s.reservation.At fun f => p f + reservedAddressCount := by
  have hf : ∀ f, s.reservation.current f = (advance (s.range f))^[reservedAddressCount] (s.current f) := by
    intro f
    cases f <;> simp [reservation, FakeIPMetadata.current, Store.current, Store.range]
  intro f
  rw [hf, h, advance_iterate_position, (reservation_fits s).range]

lemma resetCurrent_current (f : Bool) : s.resetCurrent.current f = position (s.range f) 0 := by
  have hf : s.resetCurrent.current f = if (s.range f).isValid then (s.range f).addr.next else s.current f := by
    cases f <;> rfl
  rw [hf, h]
  split
  · rename_i hv
    rw [position, if_pos hv]
    rfl
  · rename_i hv
    rw [position_of_not_isValid (by simpa using hv), position_of_not_isValid (by simpa using hv)]

end

lemma new_current (inet4Range inet6Range : Prefix) (f : Bool) :
    ((new inet4Range inet6Range).resetCurrent).current f =
      position ((new inet4Range inet6Range).range f) 0 := by
  cases f <;> rfl

lemma start_cases (s : Store) (metadata : Option FakeIPMetadata) : (∃ m, metadata = some m ∧ m.Fits s ∧
        s.start metadata = ({ s with inet4Current := m.inet4Current, inet6Current := m.inet6Current }, false)) ∨
      ((∀ m, metadata = some m → ¬m.Fits s) ∧ s.start metadata = (s.resetCurrent, true)) := by
  rcases metadata with _ | m
  · exact .inr ⟨nofun, rfl⟩
  by_cases h : m.Fits s
  · exact .inl ⟨m, rfl, h, if_pos h⟩
  · exact .inr ⟨fun m' hm' => some.inj hm' ▸ h, if_neg h⟩

lemma allocate_current {s : Store} (hv : (s.current isIPv6).isValid = true) (f : Bool) :
    (s.allocate isIPv6).current f =
      if f = isIPv6 then advance (s.range isIPv6) (s.current isIPv6) else s.current f := by
  have hadv : nextAddress (s.range isIPv6) (lastAddress (s.range isIPv6)) (s.current isIPv6) =
      advance (s.range isIPv6) (s.current isIPv6) := (if_pos hv).symm
  rw [← hadv]
  cases f <;> cases isIPv6 <;> rfl

lemma allocate_range (s : Store) (isIPv6 f : Bool) : (s.allocate isIPv6).range f = s.range f := by
  cases f <;> cases isIPv6 <;> rfl

lemma allocate_reservedCount (s : Store) (isIPv6 : Bool) :
    (s.allocate isIPv6).reservedCount = s.reservedCount - 1 := by
  cases isIPv6 <;> rfl

/-! ## What a step keeps -/

def System.reserved (s : System) : Nat := if s.creating.isSome then reservedAddressCount else s.store.reservedCount

/-- In each range, the store is at position `p`, the newest metadata it saved
names `l`, and a store started on the database would be at `d`. -/
structure Tracks (s : System) (p d l : Bool → Nat) : Prop where
  current : ∀ f, s.store.current f = position (s.store.range f) (p f)
  formed : ∀ m, s.cache.db.metadata = some m → ∃ e, m.At e
  durable : (∃ m, s.cache.db.metadata = some m ∧ m.Fits s.store ∧ m.At d) ∨
    ((∀ f, d f = 0) ∧ ∀ m, s.cache.db.metadata = some m → ¬m.Fits s.store)
  fresh : ∀ f, ∀ a ∈ s.fresh f, ∃ i, 0 < i ∧ i ≤ d f ∧ d f < i + 1024 ∧ a = position (s.store.range f) i
  saved : ∀ m, s.cache.outstanding = some m → m.Fits s.store ∧ m.At l
  settled : s.cache.outstanding = none → l = d
  uncommitted : ∀ m, s.cache.uncommitted = some m → m.Fits s.store ∧ ∃ e, m.At e
  closing : ∀ m, s.closing = some m → s.closed = true ∧ m.Fits s.store ∧ ∃ e, m.At e
  covered : s.closed = false → s.reserved ≠ 0 → ∀ f, p f + s.reserved ≤ l f ∧ l f ≤ p f + 1024
  creating : ∀ c, s.creating = some c → (s.store.current c.isIPv6).isValid = true

def Tracked (s : System) : Prop := ∃ p d l, Tracks s p d l

/-- An address may be handed out: all metadata saved is in the database, and
`Close` has not been called. -/
def System.Settled (s : System) : Prop := s.closed = false ∧ s.cache.outstanding = none

/-- Addresses are handed out in settled states only, and no `Reset` that fails
drops metadata. -/
def Safe (s : System) : Event → Prop
  | .create domain isIPv6 =>
    s.cache.fakeIPLoadDomain domain isIPv6 = none → (s.store.current isIPv6).isValid = true →
      s.store.reservedCount ≠ 0 → s.Settled
  | .createResume => s.Settled
  | .reset ok => ok = false → s.cache.outstanding = none
  | _ => True

lemma Tracks.cache (h : Tracks s p d l) (hout : c.outstanding = s.cache.outstanding)
    (hun : ∀ m, c.uncommitted = some m → m.Fits s.store ∧ ∃ e, m.At e)
    (hdb : c.db.metadata = s.cache.db.metadata) : Tracks { s with cache := c } p d l where
  __ := h
  formed := by rw [hdb]; exact h.formed
  durable := by rw [hdb]; exact h.durable
  saved := by rw [hout]; exact h.saved
  settled := by rw [hout]; exact h.settled
  uncommitted := hun

lemma Tracks.saveMetadata {e : Bool → Nat} (h : Tracks s p d l) (hm : m.Fits s.store) (he : m.At e)
    (hcov : s.closed = false → s.reserved ≠ 0 → ∀ f, p f + s.reserved ≤ e f ∧ e f ≤ p f + 1024) :
    Tracks { s with cache := s.cache.saveMetadata m } p d e where
  __ := h
  saved m' hm' := by
    cases hm'
    exact ⟨hm, he⟩
  settled := nofun
  covered := hcov

lemma allocate_fits (s : Store) (isIPv6 : Bool) : m.Fits (s.allocate isIPv6) ↔ m.Fits s := by
  cases isIPv6 <;> exact Iff.rfl

lemma Tracks.assign (h : Tracks s p d l) (hs : s.Settled)
    (hcreating : s.creating = none) (hcount : s.store.reservedCount ≠ 0)
    (hv : (s.store.current isIPv6).isValid = true) (domain : String) :
    Tracks (s.assign domain isIPv6) (update p isIPv6 (p isIPv6 + 1)) d l := by
  have hres : s.reserved = s.store.reservedCount := by simp [System.reserved, hcreating]
  have hcov : ∀ f, p f + s.store.reservedCount ≤ l f ∧ l f ≤ p f + 1024 := hres ▸ h.covered hs.1 (by rwa [hres])
  have hp : ∀ f, p f ≤ update p isIPv6 (p isIPv6 + 1) f ∧
      update p isIPv6 (p isIPv6 + 1) f ≤ p f + 1 := by
    intro f
    by_cases hf : f = isIPv6 <;> simp [hf]
  have hcur : ∀ f, (s.store.allocate isIPv6).current f =
      position (s.store.range f) (update p isIPv6 (p isIPv6 + 1) f) := by
    intro f
    rw [allocate_current hv]
    by_cases hf : f = isIPv6
    · subst hf
      rw [if_pos rfl, update_self, position_succ, h.current]
    · rw [if_neg hf, update_of_ne hf, h.current]
  obtain ⟨hout, hun, hdb⟩ := s.cache.queueFakeIP_frame ((s.store.allocate isIPv6).current isIPv6) domain
  have h := h.cache hout (by rw [hun]; exact h.uncommitted) (by rw [hdb])
  constructor
  case current =>
    intro f
    exact (hcur f).trans (by rw [← allocate_range s.store isIPv6 f]; rfl)
  case formed => exact h.formed
  case durable => simpa only [System.assign, allocate_fits] using h.durable
  case fresh =>
    intro f a ha
    change ∃ i, _ ∧ _ ∧ _ ∧ a = position ((s.store.allocate isIPv6).range f) i
    rw [allocate_range]
    by_cases hf : f = isIPv6
    · subst hf
      have ha : a ∈ s.fresh f ∨ a = (s.store.allocate f).current f := by simpa [System.assign] using ha
      rcases ha with ha | rfl
      · exact h.fresh f a ha
      have hd : l f = d f := congrFun (h.settled (hout.trans hs.2)) f
      refine ⟨p f + 1, by omega, ?_, ?_, ?_⟩
      · have := hcov f
        omega
      · have := hcov f
        omega
      · rw [hcur, update_self]
    · exact h.fresh f a (by simpa [System.assign, hf] using ha)
  case saved => simpa only [System.assign, allocate_fits] using h.saved
  case settled => exact h.settled
  case uncommitted => simpa only [System.assign, allocate_fits] using h.uncommitted
  case closing => simpa only [System.assign, allocate_fits] using h.closing
  case covered =>
    intro _ _ f
    have hres' : (s.assign domain isIPv6).reserved = s.store.reservedCount - 1 := by
      simp [System.reserved, System.assign, hcreating, allocate_reservedCount]
    rw [hres']
    have := hcov f
    have := hp f
    omega
  case creating =>
    intro c hc
    exact absurd hc (by simp [System.assign, hcreating])

lemma Tracks.create (h : Tracks s p d l) (hcreating : s.creating = none)
    (hsafe : Safe s (.create domain isIPv6)) : Tracked (s.create domain isIPv6) := by
  unfold System.create
  split
  · exact ⟨p, d, l, h⟩
  rename_i hload
  split
  · exact ⟨p, d, l, h⟩
  rename_i hv
  have hv : (s.store.current isIPv6).isValid = true := by simpa using hv
  split
  · rename_i hcount
    have hzero : s.reserved = 0 := by simp [reserved, hcreating, hcount]
    have h := h.saveMetadata (reservation_fits s.store) (reservation_at h.current) fun _ hne => absurd hzero hne
    refine ⟨p, d, _, h.current, h.formed, h.durable, h.fresh, h.saved, h.settled, h.uncommitted, h.closing, ?_, ?_⟩
    · intro _ _ f
      exact ⟨le_rfl, le_rfl⟩
    intro c hc
    cases hc
    exact hv
  · rename_i hcount
    exact ⟨_, d, l, h.assign (hsafe (by simpa using hload) hv hcount) hcreating hcount hv domain⟩

lemma Tracks.createResume (h : Tracks s p d l) (hs : s.Settled) (hstep : s.createResume = some s') : Tracked s' := by
  unfold System.createResume at hstep
  split at hstep
  · rename_i c hc hw
    obtain ⟨-, hstep⟩ := ite_none_right_eq_some.1 hstep
    cases hstep
    have hres : s.reserved = reservedAddressCount := by simp [reserved, hc]
    have hcov := h.covered hs.1 (by simp [hres, reservedAddressCount])
    rw [hres] at hcov
    have h' : Tracks { s with store := { s.store with reservedCount := reservedAddressCount }, creating := none } p d l :=
      { h with covered := fun _ _ f => hcov f, creating := nofun }
    have hv : (s.store.current c.isIPv6).isValid = true := h.creating c hc
    exact ⟨_, d, l, h'.assign hs rfl (by simp [reservedAddressCount]) hv c.domain⟩
  · cases hstep

lemma resetCurrent_range (s : Store) (f : Bool) : s.resetCurrent.range f = s.range f := by
  cases f <;> rfl

lemma Tracks.reset (h : Tracks s p d l) (hcreating : s.creating = none)
    (hsafe : Safe s (.reset ok)) (hstep : s.reset ok = some s') : Tracked s' := by
  obtain ⟨c, hc, rfl⟩ := map_eq_some_iff.1 hstep
  obtain ⟨hout, hun, -, hdb⟩ := fakeIPReset_frame hc
  cases ok
  · refine ⟨p, d, l, h.cache (hout.trans (hsafe rfl).symm) ?_ (by rw [hdb]; rfl)⟩
    rw [hun]
    exact nofun
  have hcur : ∀ f, s.store.resetCurrent.current f = position (s.store.resetCurrent.range f) 0 := by
    intro f
    rw [resetCurrent_current h.current, resetCurrent_range]
  have hnone : c.db.metadata = none := by rw [hdb]; rfl
  refine ⟨0, 0, 0, hcur, ?_, .inr ⟨fun _ => rfl, ?_⟩, nofun, ?_, nofun, ?_, h.closing, ?_, ?_⟩
  · intro m hm
    exact nomatch hnone.symm.trans hm
  · intro m hm
    exact nomatch hnone.symm.trans hm
  · intro m hm
    cases hm
    exact ⟨metadata_fits _, metadata_at hcur⟩
  · intro m hm
    exact nomatch hun.symm.trans hm
  · intro _ hne
    exact absurd (by simp [reserved, hcreating, resetCurrent]) hne
  · intro c' hc'
    exact nomatch hcreating.symm.trans hc'

lemma Tracks.flushCommit (h : Tracks s p d l)
    {order : List (Sigma fun _ : Addr => String)} (hc : s.cache.flushCommit order = some c) : Tracked { s with
      cache := c
      fresh := if (s.cache.writing.bind (·.fakeIPMetadata)).isSome then fun _ => [] else s.fresh } := by
  obtain ⟨hout, hun, hw, hdb⟩ := flushCommit_frame hc
  rw [← hw]
  have huncommitted : ∀ m, c.uncommitted = some m → m.Fits s.store ∧ ∃ e, m.At e := by
    rw [hun]
    exact nofun
  rcases hm : s.cache.uncommitted with _ | m
  · have hout' : c.outstanding = s.cache.outstanding := by
      rw [hout, outstanding, hm, or_none]
    exact ⟨p, d, l, h.cache hout' huncommitted (by rw [hdb, hm]; rfl)⟩
  obtain ⟨hfits, e, he⟩ := h.uncommitted m hm
  have hdb : c.db.metadata = some m := by rw [hdb, hm]; rfl
  have hformed : ∀ m', c.db.metadata = some m' → ∃ e, m'.At e := by
    intro m' hm'
    obtain rfl := some.inj (hdb.symm.trans hm')
    exact ⟨e, he⟩
  rcases hp : s.cache.pending.fakeIPMetadata with _ | m'
  · -- nothing newer is buffered: the database has the newest metadata
    have hat := (h.saved m (by rw [outstanding, hp, hm]; rfl)).2
    refine ⟨p, l, l, h.current, hformed, .inl ⟨m, hdb, hfits, hat⟩, nofun, ?_, fun _ => rfl, huncommitted,
      h.closing, h.covered, h.creating⟩
    intro m' hm'
    exact nomatch (hout.trans hp).symm.trans hm'
  · have hsaved := h.saved m' (by rw [outstanding, hp]; rfl)
    refine ⟨p, e, l, h.current, hformed, .inl ⟨m, hdb, hfits, he⟩, nofun, ?_, ?_, huncommitted,
      h.closing, h.covered, h.creating⟩
    · intro m'' hm''
      obtain rfl := some.inj ((hout.trans hp).symm.trans hm'')
      exact hsaved
    · intro hnone
      exact nomatch (hout.trans hp).symm.trans hnone

lemma Tracks.restart (h : Tracks s p d l) (inet4Range inet6Range : Prefix)
    (ok : Bool) : Tracked (s.restart inet4Range inet6Range ok) := by
  unfold System.restart
  rcases start_cases (Store.new inet4Range inet6Range) s.cache.db.metadata with
    ⟨m, hm, hfits, hstart⟩ | ⟨hno, hstart⟩
  · rw [hstart]
    -- positions that suit both the metadata and the addresses handed out before
    obtain ⟨e, he, hfresh⟩ : ∃ e, m.At e ∧ ∀ f, ∀ a ∈ s.fresh f,
        ∃ i, 0 < i ∧ i ≤ e f ∧ e f < i + 1024 ∧ a = position (m.range f) i := by
      rcases h.durable with ⟨m', hm', hfits', hat⟩ | ⟨hzero, hno⟩
      · obtain rfl := some.inj (hm.symm.trans hm')
        refine ⟨d, hat, fun f a ha => ?_⟩
        rw [hfits'.range]
        exact h.fresh f a ha
      obtain ⟨e, he⟩ := h.formed m hm
      refine ⟨e, he, fun f a ha => ?_⟩
      obtain ⟨i, hi, hid, -⟩ := h.fresh f a ha
      have := hzero f
      omega
    have hrange : ∀ f, (Store.new inet4Range inet6Range).range f = m.range f := fun f => (hfits.range f).symm
    have hcur : ∀ f, ({ Store.new inet4Range inet6Range with
        inet4Current := m.inet4Current, inet6Current := m.inet6Current } : Store).current f =
        position ((Store.new inet4Range inet6Range).range f) (e f) := by
      intro f
      rw [hrange, ← he f]
      cases f <;> rfl
    refine ⟨e, e, e, hcur, h.formed, .inl ⟨m, hm, hfits, he⟩, ?_, nofun, fun _ => rfl, nofun, nofun, ?_, nofun⟩
    · intro f a ha
      obtain ⟨i, h₁, h₂, h₃, rfl⟩ := hfresh f a ha
      exact ⟨i, h₁, h₂, h₃, by rw [← hrange]; rfl⟩
    · intro _ hne
      exact absurd rfl hne
  · rw [hstart]
    have hdb : ∀ m, (if (true && ok) = true then Database.empty else s.cache.db).metadata = some m →
        s.cache.db.metadata = some m := by
      cases ok
      · exact fun _ => id
      · exact nofun
    refine ⟨0, 0, 0, new_current inet4Range inet6Range, fun m hm => h.formed m (hdb m hm),
      .inr ⟨fun _ => rfl, fun m hm => hno m (hdb m hm)⟩, nofun, nofun, fun _ => rfl, nofun, nofun, ?_, nofun⟩
    intro _ hne
    exact absurd rfl hne

lemma step_tracked (hs : Tracked s) (hsafe : Safe s e) (hstep : s.step e = some s') : Tracked s' := by
  obtain ⟨p, d, l, h⟩ := hs
  cases e with
  | create domain isIPv6 =>
    obtain ⟨hnone, hstep⟩ := ite_none_right_eq_some.1 hstep
    cases hstep
    exact h.create (isNone_iff_eq_none.1 hnone) hsafe
  | createResume => exact h.createResume hsafe hstep
  | reset ok =>
    obtain ⟨hnone, hstep⟩ := ite_none_right_eq_some.1 hstep
    exact h.reset (isNone_iff_eq_none.1 hnone) hsafe hstep
  | close =>
    obtain ⟨-, hstep⟩ := ite_none_right_eq_some.1 hstep
    cases hstep
    refine ⟨p, d, l, h.current, h.formed, h.durable, h.fresh, h.saved, h.settled, h.uncommitted, ?_, nofun, h.creating⟩
    intro m hm
    cases hm
    exact ⟨rfl, metadata_fits _, p, metadata_at h.current⟩
  | closeSave =>
    obtain ⟨m, hm, rfl⟩ := map_eq_some_iff.1 hstep
    obtain ⟨hclosed, hfits, e, he⟩ := h.closing m hm
    have h := h.saveMetadata hfits he fun hopen => nomatch hclosed.symm.trans hopen
    exact ⟨p, d, e, h.current, h.formed, h.durable, h.fresh, h.saved, h.settled, h.uncommitted, nofun, h.covered,
      h.creating⟩
  | flushBegin =>
    obtain ⟨c, hc, rfl⟩ := map_eq_some_iff.1 hstep
    obtain ⟨hout, hun, hnone, hdb⟩ := flushBegin_frame hc
    have h := h.cache hout (fun m hm => ?_) (by rw [hdb])
    · refine ⟨p, d, l, h.current, h.formed, h.durable, h.fresh, h.saved, h.settled, h.uncommitted, h.closing, ?_, ?_⟩
      · simpa only [reserved, isSome_map] using h.covered
      intro c' hc'
      obtain ⟨c'', hc'', rfl⟩ := map_eq_some_iff.1 hc'
      exact h.creating c'' hc''
    · have hm := h.saved m (by rw [outstanding, hnone, or_none, ← hun, hm])
      exact ⟨hm.1, l, hm.2⟩
  | flushCommit order =>
    obtain ⟨c, hc, rfl⟩ := map_eq_some_iff.1 hstep
    exact h.flushCommit hc
  | flushDone =>
    obtain ⟨c, hc, rfl⟩ := map_eq_some_iff.1 hstep
    obtain ⟨hout, hun, hdb⟩ := flushDone_frame hc
    exact ⟨p, d, l, h.cache hout (by rw [hun]; exact h.uncommitted) (by rw [hdb])⟩
  | flushFail order =>
    obtain ⟨c, hc, rfl⟩ := map_eq_some_iff.1 hstep
    obtain ⟨hout, hun, hdb⟩ := flushFail_frame hc
    exact ⟨p, d, l, h.cache hout (by rw [hun]; exact nofun) (by rw [hdb])⟩
  | restart inet4Range inet6Range ok =>
    cases hstep
    exact h.restart inet4Range inet6Range ok

lemma init_tracked (inet4Range inet6Range : Prefix) : Tracked (init inet4Range inet6Range) :=
  ⟨0, 0, 0, new_current inet4Range inet6Range, nofun, .inr ⟨fun _ => rfl, nofun⟩, nofun, nofun, fun _ => rfl, nofun,
    nofun, fun _ hne => absurd rfl hne, nofun⟩

/-! ## After the restart -/

/-- Events of one life of a store, without `Reset`. -/
def Event.continues : Event → Prop
  | .reset _ => False
  | .restart .. => False
  | _ => True

/-- The addresses handed out so far are the next ones after `start`. -/
structure Continues (range : Bool → Prefix) (start : Bool → Addr) (s : System) : Prop where
  range_eq : ∀ f, s.store.range f = range f
  current : ∀ f, s.store.current f = (advance (range f))^[(s.handed f).length] (start f)
  handed : ∀ f, ∀ a ∈ s.handed f, ∃ j, 0 < j ∧ j ≤ (s.handed f).length ∧ a = (advance (range f))^[j] (start f)
  creating : ∀ c, s.creating = some c → (s.store.current c.isIPv6).isValid = true

section
variable {range : Bool → Prefix} {start : Bool → Addr} (h : Continues range start s)
include h

lemma Continues.assign
    (hcreating : s.creating = none) (hv : (s.store.current isIPv6).isValid = true) (domain : String) :
    Continues range start (s.assign domain isIPv6) := by
  have hcur : ∀ f, (s.store.allocate isIPv6).current f =
      (advance (range f))^[((s.assign domain isIPv6).handed f).length] (start f) := by
    intro f
    rw [allocate_current hv]
    by_cases hf : f = isIPv6
    · subst hf
      rw [if_pos rfl, h.current, h.range_eq]
      simp [assign, iterate_succ_apply']
    · rw [if_neg hf, h.current]
      simp [System.assign, hf]
  refine ⟨fun f => (allocate_range ..).trans (h.range_eq f), hcur, ?_, ?_⟩
  · intro f a ha
    by_cases hf : f = isIPv6
    · subst hf
      have ha : a ∈ s.handed f ∨ a = (s.store.allocate f).current f := by simpa [assign] using ha
      have hlen : ((s.assign domain f).handed f).length = (s.handed f).length + 1 := by simp [assign]
      rcases ha with ha | rfl
      · obtain ⟨j, hj, hle, rfl⟩ := h.handed f a ha
        exact ⟨j, hj, by omega, rfl⟩
      · exact ⟨_, by omega, le_rfl, hcur f⟩
    · have hsame : (s.assign domain isIPv6).handed f = s.handed f := by simp [System.assign, hf]
      rw [hsame] at ha ⊢
      exact h.handed f a ha
  · intro c hc
    exact absurd hc (by simp [System.assign, hcreating])

lemma step_continues (he : e.continues) (hstep : s.step e = some s') : Continues range start s' := by
  cases e with
  | create domain isIPv6 =>
    obtain ⟨hnone, hstep⟩ := ite_none_right_eq_some.1 hstep
    cases hstep
    unfold create
    split
    · exact h
    split
    · exact h
    rename_i hv
    have hv : (s.store.current isIPv6).isValid = true := by simpa using hv
    split
    · refine { h with creating := fun c hc => ?_ }
      cases hc
      exact hv
    · exact h.assign (isNone_iff_eq_none.1 hnone) hv domain
  | createResume =>
    simp only [step, createResume] at hstep
    split at hstep
    · rename_i c hc _
      obtain ⟨-, hstep⟩ := ite_none_right_eq_some.1 hstep
      cases hstep
      have h' : Continues range start
          { s with store := { s.store with reservedCount := reservedAddressCount }, creating := none } :=
        { h with creating := nofun }
      exact h'.assign rfl (h.creating c hc) c.domain
    · cases hstep
  | reset ok | restart inet4Range inet6Range ok => exact he.elim
  | close =>
    obtain ⟨-, hstep⟩ := ite_none_right_eq_some.1 hstep
    cases hstep
    exact { h with }
  | flushBegin =>
    obtain ⟨c, -, rfl⟩ := map_eq_some_iff.1 hstep
    refine { h with creating := fun c' hc' => ?_ }
    obtain ⟨c'', hc'', rfl⟩ := map_eq_some_iff.1 hc'
    exact h.creating c'' hc''
  | closeSave | flushCommit | flushDone | flushFail =>
    obtain ⟨c, -, rfl⟩ := map_eq_some_iff.1 hstep
    exact { h with }

end

lemma restart_continues (s : System) (inet4Range inet6Range : Prefix) (ok : Bool) :
    Continues (new inet4Range inet6Range).range (s.restart inet4Range inet6Range ok).store.current
      (s.restart inet4Range inet6Range ok) := by
  refine ⟨fun f => ?_, fun f => rfl, nofun, nofun⟩
  unfold restart
  rcases start_cases (new inet4Range inet6Range) s.cache.db.metadata with ⟨m, -, -, h⟩ | ⟨-, h⟩ <;>
    rw [h] <;> cases f <;> rfl

lemma Tracks.restart_current (h : Tracks s p d l) (ok f : Bool) :
    (s.restart s.store.inet4Range s.store.inet6Range ok).store.current f = position (s.store.range f) (d f) := by
  have hrange : (Store.new s.store.inet4Range s.store.inet6Range).range f = s.store.range f := by
    cases f <;> rfl
  unfold System.restart
  rcases start_cases (Store.new s.store.inet4Range s.store.inet6Range) s.cache.db.metadata with
    ⟨m, hm, hfits, hstart⟩ | ⟨hno, hstart⟩
  · rcases h.durable with ⟨m', hm', hfits', hat⟩ | ⟨-, hno⟩
    · obtain rfl := some.inj (hm.symm.trans hm')
      rw [hstart, ← hfits'.range, ← hat f]
      cases f <;> rfl
    · exact absurd hfits (hno m hm)
  · rcases h.durable with ⟨m, hm, hfits, -⟩ | ⟨hzero, -⟩
    · exact absurd hfits (hno m hm)
    rw [hstart, hzero, ← hrange]
    exact new_current ..

/-- After a run in which addresses were handed out in settled states only, a
crash and a restart: the durable position is at or past every address handed
out since metadata last became durable, and the addresses the new store hands
out are none of them, as long as the ring has room for the reservation and
the new addresses. -/
theorem restart_passes_handed_out (inet4Range inet6Range : Prefix) {es : List Event} {s : System}
    (hrun : run step (init inet4Range inet6Range) es = some s)
    (hsafe : Machine.Along step Safe (init inet4Range inet6Range) es)
    (ok : Bool) {es' : List Event} {t : System} (hcont : ∀ e ∈ es', e.continues)
    (hrun' : run step (s.restart s.store.inet4Range s.store.inet6Range ok) es' = some t)
    (isIPv6 : Bool) (hroom : 1024 + (t.handed isIPv6).length ≤ usable (s.store.range isIPv6)) :
    (∀ a ∈ s.fresh isIPv6, ∃ k < 1024, (advance (s.store.range isIPv6))^[k] a =
        (s.restart s.store.inet4Range s.store.inet6Range ok).store.current isIPv6) ∧
      ∀ a ∈ t.handed isIPv6, a ∉ s.fresh isIPv6 := by
  obtain ⟨p, d, l, h⟩ : Tracked s :=
    run_inv (fun _ _ _ hs he hstep => step_tracked hs he hstep) (init_tracked ..) hsafe hrun
  have ht := run_inv (P := fun _ e => e.continues) (fun _ _ _ hs he hstep => step_continues hs he hstep)
    (restart_continues s s.store.inet4Range s.store.inet6Range ok)
    (along_of_forall (fun e he _ => hcont e he) _) hrun'
  have hrange : (new s.store.inet4Range s.store.inet6Range).range isIPv6 = s.store.range isIPv6 := by
    cases isIPv6 <;> rfl
  constructor
  · intro a ha
    obtain ⟨i, -, hid, hdi, rfl⟩ := h.fresh isIPv6 a ha
    refine ⟨d isIPv6 - i, by omega, ?_⟩
    rw [advance_iterate_position, h.restart_current, show i + (d isIPv6 - i) = d isIPv6 by omega]
  intro a ha hfresh
  obtain ⟨i, hi, hid, hdi, rfl⟩ := h.fresh isIPv6 a hfresh
  obtain ⟨j, hj, hlen, heq⟩ := ht.handed isIPv6 _ ha
  rw [hrange, h.restart_current, advance_iterate_position] at heq
  exact position_ne _ hi (by omega) (by omega) heq

def exampleRange : Prefix := ⟨.v4 0xc6120000#32, 15⟩

/-- One domain is given its first address, the reservation flushed before. -/
def createOne (domain : String) : List Event :=
  [.create domain false, .flushBegin, .flushCommit [], .flushDone, .createResume]

theorem restart_passes_handed_out_example :
    ∃ s t, run step (init exampleRange default) (createOne "a.example") = some s ∧
      run step (s.restart s.store.inet4Range s.store.inet6Range true) (createOne "b.example") = some t ∧
      s.fresh false = [.v4 0xc6120002#32] ∧ (t.handed false).length = 1 ∧ .v4 0xc6120002#32 ∉ t.handed false := by
  have heval : ((run step (init exampleRange default) (createOne "a.example")).bind fun s =>
      (run step (s.restart s.store.inet4Range s.store.inet6Range true) (createOne "b.example")).map
        fun t => (s.fresh false, (t.handed false).length, usable (s.store.range false))) =
      some ([.v4 0xc6120002#32], 1, 131069) := by decide +kernel
  obtain ⟨s, hs, heval⟩ := bind_eq_some_iff.1 heval
  obtain ⟨t, ht, heval⟩ := map_eq_some_iff.1 heval
  obtain ⟨hfresh, hlen, hroom⟩ : s.fresh false = [.v4 0xc6120002#32] ∧ (t.handed false).length = 1 ∧
      usable (s.store.range false) = 131069 := by simpa using heval
  have hsafe : Machine.Along step Safe (init exampleRange default) (createOne "a.example") := by
    -- the reservation is durable when `Create` goes on
    refine ⟨fun _ _ hne => absurd rfl hne, fun s₁ h₁ => ⟨trivial, fun s₂ h₂ => ⟨trivial, fun s₃ h₃ => ⟨trivial,
      fun s₄ h₄ => ⟨?_, fun _ _ => trivial⟩⟩⟩⟩⟩
    cases h₁
    cases h₂
    cases h₃
    cases h₄
    exact ⟨rfl, rfl⟩
  have hcont : ∀ e ∈ createOne "b.example", e.continues := by simp [createOne, Event.continues]
  have h := restart_passes_handed_out exampleRange default hs hsafe true hcont ht false (by omega)
  refine ⟨s, t, hs, ht, hfresh, hlen, fun hmem => h.2 _ hmem ?_⟩
  rw [hfresh]
  exact List.mem_singleton.2 rfl

/-- The flush of the reservation fails, the address goes out all the same, and
the store started after the crash hands it out again. -/
theorem failed_reservation_repeats_address : ∃ s t, run step (init exampleRange default)
        [.create "a.example" false, .flushBegin, .flushFail [], .createResume] = some s ∧
      run step (s.restart s.store.inet4Range s.store.inet6Range true) (createOne "b.example") = some t ∧
      1024 + (t.handed false).length ≤ usable (s.store.range false) ∧
      .v4 0xc6120002#32 ∈ s.fresh false ∧ .v4 0xc6120002#32 ∈ t.handed false := by
  refine ⟨_, _, rfl, rfl, ?_, ?_, ?_⟩
  · decide
  · exact List.mem_singleton.2 rfl
  · exact List.mem_singleton.2 rfl

end SingBox.FakeIP
