import SingBox.Cachefile.DnsCache
import SingBox.FakeIP.CacheFile
import SingBox.Lib.Machine
import SingBox.Lib.Tally
/-!
# The counters of the write buffer

`pendingWrites` counts its entries and the bytes of their names and values, and
every operation on the buffer adjusts the two counters. They start and time
flushes. An operation under `flushAccess` waits for a running flush.
-/
namespace SingBox.Cachefile
open Tally

structure PendingWrites where
  dnsCache : Pending := ∅
  rdrc : AList fun _ : SaveCacheKey => Unit := ∅
  fakeIP : FakeIP.PendingWrites := FakeIP.newPendingWrites
  count : ℤ := 0
  size : ℤ := 0

/-- `len` of a string. -/
def len (s : String) : ℤ := s.utf8ByteSize
def dnsSize (e : Sigma fun _ : SaveCacheKey => SaveDNSCacheEntry) : ℤ := len e.1.questionName + e.2.value.length
def rdrcSize (e : Sigma fun _ : SaveCacheKey => Unit) : ℤ := len e.1.questionName
def fakeIPSize (e : Sigma fun _ : Addr => String) : ℤ := len e.2

namespace PendingWrites

def enqueueLocked (p : PendingWrites) (added : Bool) (sizeDelta : ℤ) : PendingWrites :=
  { p with count := if added then p.count + 1 else p.count, size := p.size + sizeDelta }

def queueDNSCache (p : PendingWrites) (key : SaveCacheKey) (entry : SaveDNSCacheEntry) : PendingWrites :=
  let oldEntry := p.dnsCache.lookup key
  { p with dnsCache := p.dnsCache.insert key entry }.enqueueLocked oldEntry.isNone
    (len key.questionName + entry.value.length - (oldEntry.map fun e : SaveDNSCacheEntry => (e.value.length : ℤ)).getD 0)

def queueRDRC (p : PendingWrites) (key : SaveCacheKey) : PendingWrites :=
  if (p.rdrc.lookup key).isSome then p
  else { p with rdrc := p.rdrc.insert key () }.enqueueLocked true (len key.questionName)

def dropAddress (p : FakeIP.PendingWrites) (is4 : Bool) : Option String → FakeIP.PendingWrites
  | some oldDomain => p.setAddress is4 oldDomain .invalid
  | none => p

section
variable (p : PendingWrites)

/-- `queueFakeIP`; `oldDomain` is what `FakeIPLoad` found before the buffer was locked. -/
def queueFakeIP (oldDomain : Option String) (address : Addr) (domain : String) : PendingWrites :=
  let pendingDomain := p.fakeIP.fakeIPDomain.lookup address
  { p with fakeIP := (dropAddress p.fakeIP address.is4 oldDomain).setDomain address domain }.enqueueLocked
    pendingDomain.isNone (len domain - len (pendingDomain.getD ""))

/-- `FakeIPSaveMetadata` up to its flush. -/
def fakeIPSaveMetadata (metadata : FakeIP.FakeIPMetadata) : PendingWrites :=
  { p with fakeIP := { p.fakeIP with fakeIPMetadata := some metadata } }.enqueueLocked
    p.fakeIP.fakeIPMetadata.isNone 0

/-- The part of `DeleteDNSCache` on the buffer. -/
def deleteDNSCache (key : SaveCacheKey) (rawMessage : List UInt8) : PendingWrites :=
  match p.dnsCache.lookup key with
  | some entry =>
    if (readValue entry.value).rawMessage ≠ rawMessage then p
    else { p with
      dnsCache := p.dnsCache.erase key
      count := p.count - 1
      size := p.size - (len key.questionName + entry.value.length) }
  | none => p

/-- The part of `ClearDNSCache` on the buffer. -/
def clearDNSCache : PendingWrites :=
  { p with
    dnsCache := ∅
    count := p.dnsCache.entries.foldl (fun n _ => n - 1) p.count
    size := p.dnsCache.entries.foldl (fun n e => n - dnsSize e) p.size }

/-- The part of `clearRDRC` on the buffer. -/
def clearRDRC : PendingWrites :=
  { p with
    rdrc := ∅
    count := p.rdrc.entries.foldl (fun n _ => n - 1) p.count
    size := p.rdrc.entries.foldl (fun n e => n - rdrcSize e) p.size }

/-- The part of `FakeIPReset` on the buffer. -/
def fakeIPReset : PendingWrites :=
  let count := p.fakeIP.fakeIPDomain.entries.foldl (fun n _ => n - 1) p.count
  { p with
    fakeIP := FakeIP.newPendingWrites
    count := if p.fakeIP.fakeIPMetadata.isSome then count - 1 else count
    size := p.fakeIP.fakeIPDomain.entries.foldl (fun n e => n - fakeIPSize e) p.size }

/-- One round of the first loop of `restorePendingLocked`. -/
def restoreDNS (e : Sigma fun _ : SaveCacheKey => SaveDNSCacheEntry) : PendingWrites :=
  if (p.dnsCache.lookup e.1).isSome then p
  else { p with
    dnsCache := p.dnsCache.insert e.1 e.2
    count := p.count + 1
    size := p.size + (len e.1.questionName + e.2.value.length) }

def restoreRDRC (e : Sigma fun _ : SaveCacheKey => Unit) : PendingWrites :=
  if (p.rdrc.lookup e.1).isSome then p
  else { p with rdrc := p.rdrc.insert e.1 (), count := p.count + 1, size := p.size + len e.1.questionName }

def restoreFakeIP (e : Sigma fun _ : Addr => String) : PendingWrites :=
  if (p.fakeIP.fakeIPDomain.lookup e.1).isSome then p
  else if (p.fakeIP.fakeIPAddress e.2 e.1.is6).isSome then p
  else { p with fakeIP := p.fakeIP.setDomain e.1 e.2, count := p.count + 1, size := p.size + len e.2 }

end

/-- `restorePendingLocked`, with the orders in which the maps of the buffer are walked. -/
def restorePendingLocked (p writing : PendingWrites) (dnsCache : List (Sigma fun _ : SaveCacheKey => SaveDNSCacheEntry))
    (rdrc : List (Sigma fun _ : SaveCacheKey => Unit)) (fakeIP : List (Sigma fun _ : Addr => String)) :
    PendingWrites :=
  let p := fakeIP.foldl restoreFakeIP (rdrc.foldl restoreRDRC (dnsCache.foldl restoreDNS p))
  if p.fakeIP.fakeIPMetadata.isNone && writing.fakeIP.fakeIPMetadata.isSome then
    { p with fakeIP := { p.fakeIP with fakeIPMetadata := writing.fakeIP.fakeIPMetadata }, count := p.count + 1 }
  else p

/-- The counters say what the buffer holds. -/
structure Accounted (p : PendingWrites) : Prop where
  count : p.count = total (fun _ => 1) p.dnsCache + total (fun _ => 1) p.rdrc +
    total (fun _ => 1) p.fakeIP.fakeIPDomain + if p.fakeIP.fakeIPMetadata.isSome then 1 else 0
  size : p.size = total dnsSize p.dnsCache + total rdrcSize p.rdrc + total fakeIPSize p.fakeIP.fakeIPDomain

variable {p : PendingWrites}

lemma queueDNSCache_accounted_iff (h : p.Accounted) (key : SaveCacheKey) (entry : SaveDNSCacheEntry) :
    (p.queueDNSCache key entry).Accounted ↔ p.dnsCache.lookup key = none ∨ key.questionName = "" := by
  have hcount : (p.queueDNSCache key entry).count = total (fun _ => 1) (p.queueDNSCache key entry).dnsCache +
      total (fun _ => 1) p.rdrc + total (fun _ => 1) p.fakeIP.fakeIPDomain +
        if p.fakeIP.fakeIPMetadata.isSome then 1 else 0 := by
    simp only [queueDNSCache, enqueueLocked, total_insert, weight]
    have := h.count
    cases p.dnsCache.lookup key <;> simp <;> omega
  have hsize : (p.queueDNSCache key entry).size = total dnsSize (p.queueDNSCache key entry).dnsCache +
      total rdrcSize p.rdrc + total fakeIPSize p.fakeIP.fakeIPDomain ↔
        p.dnsCache.lookup key = none ∨ key.questionName = "" := by
    have hname : len key.questionName = 0 ↔ key.questionName = "" := by simp [len]
    simp only [queueDNSCache, enqueueLocked, total_insert, weight, ← hname]
    have := h.size
    cases p.dnsCache.lookup key <;> simp [dnsSize] <;> omega
  rw [← hsize]
  exact ⟨fun ha => ha.size, fun hs => ⟨hcount, hs⟩⟩

lemma Accounted.queueRDRC (h : p.Accounted) (key : SaveCacheKey) : (p.queueRDRC key).Accounted := by
  rw [PendingWrites.queueRDRC]
  split
  · exact h
  next hnone =>
    have hnone : p.rdrc.lookup key = none := by simpa using hnone
    obtain ⟨hcount, hsize⟩ := h
    constructor
    · simp only [enqueueLocked, total_insert_of_lookup_none hnone, if_true]
      omega
    simp only [enqueueLocked, total_insert_of_lookup_none hnone, rdrcSize]
    omega

lemma setAddress_maps (p : FakeIP.PendingWrites) (is4 : Bool) (domain : String) (value : Addr) :
    (p.setAddress is4 domain value).fakeIPDomain = p.fakeIPDomain ∧
      (p.setAddress is4 domain value).fakeIPMetadata = p.fakeIPMetadata := by
  cases is4 <;> exact ⟨rfl, rfl⟩

lemma setDomain_maps (p : FakeIP.PendingWrites) (address : Addr) (domain : String) :
    (p.setDomain address domain).fakeIPDomain = p.fakeIPDomain.insert address domain ∧
      (p.setDomain address domain).fakeIPMetadata = p.fakeIPMetadata :=
  setAddress_maps ..

section
variable (h : p.Accounted)
include h

namespace Accounted

lemma queueFakeIP (oldDomain : Option String) (address : Addr) (domain : String) :
    (p.queueFakeIP oldDomain address domain).Accounted := by
  -- a tombstone is in no map that is counted
  obtain ⟨hdomain, hmetadata⟩ : (dropAddress p.fakeIP address.is4 oldDomain).fakeIPDomain = p.fakeIP.fakeIPDomain ∧
      (dropAddress p.fakeIP address.is4 oldDomain).fakeIPMetadata = p.fakeIP.fakeIPMetadata := by
    cases oldDomain with
    | none => exact ⟨rfl, rfl⟩
    | some old => exact setAddress_maps ..
  obtain ⟨hset, hset'⟩ := setDomain_maps (dropAddress p.fakeIP address.is4 oldDomain) address domain
  obtain ⟨hcount, hsize⟩ := h
  constructor
  · simp only [PendingWrites.queueFakeIP, enqueueLocked, hset, hset', hdomain, hmetadata, total_insert, weight]
    cases p.fakeIP.fakeIPDomain.lookup address <;> simp <;> omega
  simp only [PendingWrites.queueFakeIP, enqueueLocked, hset, hdomain, total_insert, weight]
  have hempty : len "" = 0 := rfl
  cases p.fakeIP.fakeIPDomain.lookup address <;> simp [fakeIPSize, hempty] <;> omega

lemma fakeIPSaveMetadata (metadata : FakeIP.FakeIPMetadata) :
    (p.fakeIPSaveMetadata metadata).Accounted := by
  obtain ⟨hcount, hsize⟩ := h
  constructor
  · simp only [PendingWrites.fakeIPSaveMetadata, enqueueLocked]
    cases hm : p.fakeIP.fakeIPMetadata <;> simp [hm] at hcount ⊢ <;> omega
  simp only [PendingWrites.fakeIPSaveMetadata, enqueueLocked]
  omega

lemma deleteDNSCache (key : SaveCacheKey) (rawMessage : List UInt8) :
    (p.deleteDNSCache key rawMessage).Accounted := by
  have hcount := h.count
  have hsize := h.size
  rw [PendingWrites.deleteDNSCache]
  split
  next entry hentry =>
    split
    · exact h
    constructor
    · simp only [total_erase, weight, hentry]
      omega
    simp only [total_erase, weight, hentry, dnsSize]
    omega
  · exact h

lemma clearDNSCache : p.clearDNSCache.Accounted := by
  obtain ⟨hcount, hsize⟩ := h
  constructor
  · have hloop : p.clearDNSCache.count = p.count - total (fun _ => 1) p.dnsCache := foldl_sub ..
    change p.clearDNSCache.count = 0 + total (fun _ => 1) p.rdrc + total (fun _ => 1) p.fakeIP.fakeIPDomain +
      if p.fakeIP.fakeIPMetadata.isSome then 1 else 0
    omega
  have hloop : p.clearDNSCache.size = p.size - total dnsSize p.dnsCache := foldl_sub ..
  rw [hloop]
  simp only [PendingWrites.clearDNSCache, total_empty]
  omega

lemma clearRDRC : p.clearRDRC.Accounted := by
  obtain ⟨hcount, hsize⟩ := h
  constructor
  · have hloop : p.clearRDRC.count = p.count - total (fun _ => 1) p.rdrc := foldl_sub ..
    change p.clearRDRC.count = total (fun _ => 1) p.dnsCache + 0 + total (fun _ => 1) p.fakeIP.fakeIPDomain +
      if p.fakeIP.fakeIPMetadata.isSome then 1 else 0
    omega
  have hloop : p.clearRDRC.size = p.size - total rdrcSize p.rdrc := foldl_sub ..
  rw [hloop]
  simp only [PendingWrites.clearRDRC, total_empty]
  omega

lemma fakeIPReset : p.fakeIPReset.Accounted := by
  have hcount := h.count
  have hsize := h.size
  have hnew : FakeIP.newPendingWrites.fakeIPDomain = ∅ ∧ FakeIP.newPendingWrites.fakeIPMetadata = none := ⟨rfl, rfl⟩
  constructor
  · have hloop : p.fakeIP.fakeIPDomain.entries.foldl (fun n _ => n - 1) p.count =
        p.count - total (fun _ => 1) p.fakeIP.fakeIPDomain := foldl_sub ..
    simp only [PendingWrites.fakeIPReset, hloop, hnew, total_empty]
    cases hm : p.fakeIP.fakeIPMetadata <;> simp [hm] at hcount ⊢ <;> omega
  have hloop : p.fakeIPReset.size = p.size - total fakeIPSize p.fakeIP.fakeIPDomain := foldl_sub ..
  rw [hloop]
  simp only [PendingWrites.fakeIPReset, hnew, total_empty]
  omega

lemma restoreDNS (e : Sigma fun _ : SaveCacheKey => SaveDNSCacheEntry) : (p.restoreDNS e).Accounted := by
  rw [PendingWrites.restoreDNS]
  split
  · exact h
  next hnone =>
    have hnone : p.dnsCache.lookup e.1 = none := by simpa using hnone
    obtain ⟨hcount, hsize⟩ := h
    constructor
    · simp only [total_insert_of_lookup_none hnone]
      omega
    simp only [total_insert_of_lookup_none hnone, dnsSize]
    omega

/-- A rejection is put back as it was queued. -/
lemma restoreRDRC (e : Sigma fun _ : SaveCacheKey => Unit) :
    (p.restoreRDRC e).Accounted := h.queueRDRC e.1

lemma restoreFakeIP (e : Sigma fun _ : Addr => String) : (p.restoreFakeIP e).Accounted := by
  rw [PendingWrites.restoreFakeIP]
  split
  · exact h
  next hnone =>
    split
    · exact h
    have hnone : p.fakeIP.fakeIPDomain.lookup e.1 = none := by simpa using hnone
    obtain ⟨hset, hset'⟩ := setDomain_maps p.fakeIP e.1 e.2
    obtain ⟨hcount, hsize⟩ := h
    constructor
    · simp only [hset, hset', total_insert_of_lookup_none hnone]
      omega
    simp only [hset, total_insert_of_lookup_none hnone, fakeIPSize]
    omega

end Accounted
end

lemma Accounted.foldl {α : Type*} {f : PendingWrites → α → PendingWrites}
    (hf : ∀ {p}, p.Accounted → ∀ a, (f p a).Accounted) (h : p.Accounted) (l : List α) : (l.foldl f p).Accounted := by
  induction l generalizing p with
  | nil => exact h
  | cons a l ih => exact ih (hf h a)

lemma Accounted.restorePendingLocked (h : p.Accounted) (writing : PendingWrites)
    (dnsCache : List (Sigma fun _ : SaveCacheKey => SaveDNSCacheEntry)) (rdrc : List (Sigma fun _ : SaveCacheKey => Unit))
    (fakeIP : List (Sigma fun _ : Addr => String)) :
    (p.restorePendingLocked writing dnsCache rdrc fakeIP).Accounted := by
  have hloops : (fakeIP.foldl PendingWrites.restoreFakeIP
      (rdrc.foldl PendingWrites.restoreRDRC (dnsCache.foldl PendingWrites.restoreDNS p))).Accounted :=
    .foldl (fun hp e => hp.restoreFakeIP e)
      (.foldl (fun hp e => hp.restoreRDRC e) (.foldl (fun hp e => hp.restoreDNS e) h dnsCache) rdrc) fakeIP
  rw [PendingWrites.restorePendingLocked]
  split
  next hm =>
    rw [Bool.and_eq_true, Option.isNone_iff_eq_none] at hm
    have hcount := hloops.count
    rw [hm.1] at hcount
    refine ⟨?_, hloops.size⟩
    simp only [hm.2, if_true]
    simp only [Option.isSome_none, Bool.false_eq_true, if_false] at hcount
    omega
  · exact hloops

end PendingWrites

/-! ## Runs -/

structure Buffers where
  pending : PendingWrites := {}
  writing : Option PendingWrites := none

inductive Operation where
  | queueDNSCache (key : SaveCacheKey) (entry : SaveDNSCacheEntry)
  | queueRDRC (key : SaveCacheKey)
  | queueFakeIP (oldDomain : Option String) (address : Addr) (domain : String)
  | fakeIPSaveMetadata (metadata : FakeIP.FakeIPMetadata)
  | deleteDNSCache (key : SaveCacheKey) (rawMessage : List UInt8)
  | clearDNSCache
  | clearRDRC
  | fakeIPReset
  | flushBegin
  | flushDone
  | flushFail (dnsCache : List (Sigma fun _ : SaveCacheKey => SaveDNSCacheEntry))
      (rdrc : List (Sigma fun _ : SaveCacheKey => Unit)) (fakeIP : List (Sigma fun _ : Addr => String))

namespace Buffers

/-- An operation that holds `flushAccess` for as long as it works on the buffer. -/
def exclusive (s : Buffers) (f : PendingWrites → PendingWrites) : Option Buffers :=
  if s.writing.isNone then some { s with pending := f s.pending } else none

def step (s : Buffers) : Operation → Option Buffers
  | .queueDNSCache key entry => some { s with pending := s.pending.queueDNSCache key entry }
  | .queueRDRC key => some { s with pending := s.pending.queueRDRC key }
  | .queueFakeIP oldDomain address domain =>
    some { s with pending := s.pending.queueFakeIP oldDomain address domain }
  | .fakeIPSaveMetadata metadata => some { s with pending := s.pending.fakeIPSaveMetadata metadata }
  | .deleteDNSCache key rawMessage => s.exclusive (·.deleteDNSCache key rawMessage)
  | .clearDNSCache => s.exclusive (·.clearDNSCache)
  | .clearRDRC => s.exclusive (·.clearRDRC)
  | .fakeIPReset => s.exclusive (·.fakeIPReset)
  | .flushBegin =>
    if s.writing.isNone then
      if s.pending.count = 0 then some s else some { pending := {}, writing := some s.pending }
    else none
  | .flushDone => s.writing.map fun _ => { s with writing := none }
  | .flushFail dnsCache rdrc fakeIP => s.writing.bind fun writing =>
    if dnsCache.Perm writing.dnsCache.entries ∧ rdrc.Perm writing.rdrc.entries ∧
        fakeIP.Perm writing.fakeIP.fakeIPDomain.entries then
      some { pending := s.pending.restorePendingLocked writing dnsCache rdrc fakeIP, writing := none }
    else none

/-- No buffered response is replaced, other than one of the empty name. -/
def Keeps (s : Buffers) : Operation → Prop
  | .queueDNSCache key _ => s.pending.dnsCache.lookup key = none ∨ key.questionName = ""
  | _ => True

lemma exclusive_accounted {s s' : Buffers} (f : PendingWrites → PendingWrites) (hf : (f s.pending).Accounted)
    (h : s.exclusive f = some s') : s'.pending.Accounted := by
  rw [exclusive] at h
  split at h
  · exact Option.some.inj h ▸ hf
  · cases h

lemma step_accounted {s s' : Buffers} {e : Operation} (h : s.pending.Accounted) (he : s.Keeps e)
    (hstep : s.step e = some s') : s'.pending.Accounted := by
  cases e with
  | queueDNSCache key entry =>
    cases hstep
    exact (PendingWrites.queueDNSCache_accounted_iff h key entry).2 he
  | queueRDRC key =>
    cases hstep
    exact h.queueRDRC key
  | queueFakeIP oldDomain address domain =>
    cases hstep
    exact h.queueFakeIP oldDomain address domain
  | fakeIPSaveMetadata metadata =>
    cases hstep
    exact h.fakeIPSaveMetadata metadata
  | deleteDNSCache key rawMessage => exact exclusive_accounted (·.deleteDNSCache key rawMessage) (h.deleteDNSCache key rawMessage) hstep
  | clearDNSCache => exact exclusive_accounted (·.clearDNSCache) h.clearDNSCache hstep
  | clearRDRC => exact exclusive_accounted (·.clearRDRC) h.clearRDRC hstep
  | fakeIPReset => exact exclusive_accounted (·.fakeIPReset) h.fakeIPReset hstep
  | flushBegin =>
    simp only [step] at hstep
    split at hstep
    · split at hstep
      · cases hstep
        exact h
      · cases hstep
        exact ⟨rfl, rfl⟩
    · cases hstep
  | flushDone =>
    obtain ⟨w, -, rfl⟩ := Option.map_eq_some_iff.1 hstep
    exact h
  | flushFail dnsCache rdrc fakeIP =>
    obtain ⟨w, -, hstep⟩ := Option.bind_eq_some_iff.1 hstep
    obtain ⟨-, hstep⟩ := Option.ite_none_right_eq_some.1 hstep
    cases hstep
    exact h.restorePendingLocked w dnsCache rdrc fakeIP

end Buffers

/-- As long as no buffered response is replaced, the counters say what the buffer holds. -/
theorem pending_accounted (es : List Operation) (s : Buffers) (hrun : Machine.run Buffers.step {} es = some s)
    (hes : Machine.Along Buffers.step Buffers.Keeps {} es) : s.pending.Accounted :=
  Machine.run_inv (fun _ _ _ hs he hstep => Buffers.step_accounted hs he hstep) ⟨rfl, rfl⟩ hes hrun

def sampleKey : SaveCacheKey := ⟨"udp", "a.example.", 1⟩

/-- A response is queued while a flush with an older one fails, and then deleted. -/
def failedFlush : List Operation :=
  [.queueDNSCache sampleKey (newEntry [1, 2] 0), .flushBegin, .queueDNSCache sampleKey (newEntry [3] 0),
    .flushFail [⟨sampleKey, newEntry [1, 2] 0⟩] [] [], .deleteDNSCache sampleKey [3]]

theorem pending_accounted_failed_flush :
    ∃ s, Machine.run Buffers.step {} failedFlush = some s ∧ s.pending.Accounted := by
  obtain ⟨s, hs⟩ : ∃ s, Machine.run Buffers.step {} failedFlush = some s := ⟨_, rfl⟩
  refine ⟨s, hs, pending_accounted failedFlush s hs ⟨.inl rfl, fun s₁ h₁ => ⟨trivial, fun s₂ h₂ => ⟨?_, fun s₃ h₃ =>
    ⟨trivial, fun s₄ h₄ => ⟨trivial, fun s₅ h₅ => trivial⟩⟩⟩⟩⟩⟩
  cases h₁
  cases h₂
  exact .inl rfl

/-- A response that replaces a buffered one: the name is counted again. -/
theorem replaced_response_counted_twice : ∃ s, Machine.run Buffers.step {}
    [.queueDNSCache sampleKey (newEntry [1, 2] 0), .queueDNSCache sampleKey (newEntry [3] 0)] = some s ∧
    s.pending.count = 1 ∧ s.pending.size = 29 ∧
    Tally.total dnsSize s.pending.dnsCache + Tally.total rdrcSize s.pending.rdrc +
      Tally.total fakeIPSize s.pending.fakeIP.fakeIPDomain = 19 :=
  ⟨_, rfl, by decide +kernel, by decide +kernel, by decide +kernel⟩

end SingBox.Cachefile
