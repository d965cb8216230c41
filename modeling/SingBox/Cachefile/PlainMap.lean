import SingBox.Cachefile.DnsCache
import SingBox.Lib.Lists
import SingBox.Lib.Machine
/-!
# The cache file as a plain map of DNS responses

Beside the cache file runs the plain map it stands for: a save writes an
entry, a delete removes the entry when its message is the given one, a clear
removes all. Each call acts on the plain map at one moment between its start
and its end. A delete or clear acts on a key when it takes the key out of the
buffer, else at its commit; a save that arrives before the commit comes after
it.

A load is right when it returns what the plain map held at some moment of it.
-/
namespace SingBox.Cachefile
open List Option CacheFile

/-! ## Reading what was written -/

variable {k k' : SaveCacheKey} {b b' : Bucket}

lemma cacheEntryKey_inj (h : cacheEntryKey k = cacheEntryKey k') :
    k.questionName = k'.questionName ∧ k.qType = k'.qType := by
  obtain ⟨ht, hn⟩ := append_inj h (by simp)
  constructor
  · exact String.toByteArray_inj.1 (ByteArray.ext (Array.toList_inj.1 hn))
  have hlt (t : UInt16) : t.toNat < 256 ^ 2 := t.toNat_lt
  have := congrArg Bytes.ofBigEndian ht
  rwa [Bytes.ofBigEndian_bigEndian (hlt _), Bytes.ofBigEndian_bigEndian (hlt _), UInt16.toNat_inj] at this

@[simp] lemma getCacheEntry_setCacheEntry_self (b : Bucket) (k : SaveCacheKey) (v : Option (List UInt8)) :
    getCacheEntry (setCacheEntry b k v) k = v := by
  simp [getCacheEntry, setCacheEntry]

lemma getCacheEntry_setCacheEntry_of_ne (b : Bucket) (h : k' ≠ k) (v : Option (List UInt8)) :
    getCacheEntry (setCacheEntry b k v) k' = getCacheEntry b k' := by
  rw [getCacheEntry, setCacheEntry, getCacheEntry]
  by_cases ht : k'.transportName = k.transportName
  · have hkey : cacheEntryKey k' ≠ cacheEntryKey k := by
      intro hkey
      obtain ⟨hn, hq⟩ := cacheEntryKey_inj hkey
      apply h
      cases k
      cases k'
      simp_all
    rw [ht, Function.update_self, Function.update_of_ne hkey]
  · rw [Function.update_of_ne ht]

section
variable {l : List (Sigma fun _ : SaveCacheKey => SaveDNSCacheEntry)}

lemma foldlM_putCacheEntry
    (hl : l.NodupKeys) (h : l.foldlM (fun bucket e => putCacheEntry bucket e.1 e.2.value) b = some b')
    (k : SaveCacheKey) : getCacheEntry b' k = ((l.dlookup k).map (·.value)).or (getCacheEntry b k) := by
  induction l generalizing b with
  | nil =>
    cases h
    simp
  | cons e l ih =>
    obtain ⟨hnot, hl⟩ := nodupKeys_cons.1 hl
    rw [foldlM_cons] at h
    obtain ⟨b₁, hput, h⟩ := bind_eq_some_iff.1 h
    rw [ih hl h]
    simp only [putCacheEntry, ite_none_left_eq_some, some.injEq] at hput
    obtain ⟨-, rfl⟩ := hput
    by_cases hk : k = e.1
    · subst hk
      rw [dlookup_eq_none.2 hnot, dlookup_cons_eq]
      simp
    · rw [getCacheEntry_setCacheEntry_of_ne _ hk, dlookup_cons_ne _ _ (by simpa using hk)]

lemma writePending_get {p : Pending} (h : writePending b p = some b') (k : SaveCacheKey) :
    getCacheEntry b' k = ((p.lookup k).map (·.value)).or (getCacheEntry b k) :=
  foldlM_putCacheEntry p.nodupKeys h k

lemma foldl_restore (hl : l.NodupKeys) (p : Pending) (k : SaveCacheKey) :
    (l.foldl (fun pending e => if (pending.lookup e.1).isSome then pending else pending.insert e.1 e.2) p).lookup k =
      (p.lookup k).or (l.dlookup k) := by
  induction l generalizing p with
  | nil => simp
  | cons e l ih =>
    obtain ⟨hnot, hl⟩ := nodupKeys_cons.1 hl
    rw [foldl_cons, ih hl]
    by_cases hk : k = e.1
    · subst hk
      rw [dlookup_eq_none.2 hnot, dlookup_cons_eq]
      cases hp : p.lookup e.1 <;> simp [hp]
    rw [dlookup_cons_ne _ _ (by simpa using hk)]
    split
    · rfl
    · rw [AList.lookup_insert_ne hk]

end

lemma restorePendingLocked_lookup (p w : Pending) (k : SaveCacheKey) :
    (restorePendingLocked p w).lookup k = (p.lookup k).or (w.lookup k) :=
  foldl_restore w.nodupKeys p k

/-! ## The plain map beside the cache file -/

/-- A load past its look at the buffers: what the plain map held for its key since it began. -/
structure Load where
  id : Nat
  key : SaveCacheKey
  observed : List (Option LoadedEntry)

/-- What a load returned, and what the plain map held for its key during the load. -/
structure Answer where
  key : SaveCacheKey
  result : Option LoadedEntry
  observed : List (Option LoadedEntry)
  deriving DecidableEq

structure System where
  file : CacheFile
  current : SaveCacheKey → Option LoadedEntry
  loads : List Load
  answers : List Answer

inductive Event where
  | save (key : SaveCacheKey) (rawMessage : List UInt8) (expireAt : Int64)
  | lookBuffers (id : Nat) (key : SaveCacheKey)
  | viewDatabase (id : Nat)
  | deleteBegin (key : SaveCacheKey) (rawMessage : List UInt8)
  | deleteCommit (ok : Bool)
  | clearBegin
  | clearCommit
  | flushBegin
  | flushCommit
  | flushFail
  | flushDone

namespace System

def opened (db : Bucket) : System :=
  { file := .opened db, current := fun k => readContent (getCacheEntry db k), loads := [], answers := [] }

variable (s : System)

/-- The plain map takes a new value where `next` has one, in sight of the loads. -/
def change (next : SaveCacheKey → Option (Option LoadedEntry)) : System :=
  { s with
    current := fun k => (next k).getD (s.current k)
    loads := s.loads.map fun l => { l with observed := (next l.key).toList ++ l.observed } }

/-- The plain map's save, delete and clear; the last on the keys of `p`. -/
def saveNow (key : SaveCacheKey) (entry : LoadedEntry) : System :=
  s.change fun k => if k = key then some (some entry) else none

def deleteNow (key : SaveCacheKey) (rawMessage : List UInt8) : System :=
  s.change fun k => if k = key ∧ (s.current key).any (·.rawMessage = rawMessage) then some none else none

def clearNow (p : SaveCacheKey → Bool) : System :=
  s.change fun k => if p k then some none else none

/-- A delete or clear that runs and has left a key to its commit acts before a save of the key. -/
def settle (key : SaveCacheKey) : System :=
  if (s.file.pending.lookup key).isSome then s
  else match s.file.holder with
    | .delete k rawMessage _ => if k = key then s.deleteNow key rawMessage else s
    | .clear _ => s.clearNow (· = key)
    | _ => s

def step : Event → Option System
  | .save key rawMessage expireAt =>
    some { (s.settle key).saveNow key ⟨rawMessage, expireAt⟩ with
      file := s.file.queueDNSCache key (newEntry rawMessage expireAt) }
  | .lookBuffers id key =>
    match s.file.lookBuffers key with
    | some entry => some { s with answers := ⟨key, some entry, [s.current key]⟩ :: s.answers }
    | none => some { s with loads := ⟨id, key, [s.current key]⟩ :: s.loads }
  | .viewDatabase id =>
    match s.loads.find? (·.id = id) with
    | some l => some { s with
        loads := s.loads.filter (·.id ≠ id)
        answers := ⟨l.key, s.file.viewDatabase l.key, l.observed⟩ :: s.answers }
    | none => none
  | .deleteBegin key rawMessage =>
    (s.file.deleteBegin key rawMessage).map fun file =>
      { (if (s.file.pending.lookup key).isSome then s.deleteNow key rawMessage else s) with file := file }
  | .deleteCommit ok =>
    (s.file.deleteCommit ok).map fun file =>
      { (match s.file.holder with
        | .delete key rawMessage _ =>
          if (s.file.pending.lookup key).isSome then s else s.deleteNow key rawMessage
        | _ => s) with file := file }
  | .clearBegin =>
    s.file.clearBegin.map fun file => { s.clearNow (fun k => (s.file.pending.lookup k).isSome) with file := file }
  | .clearCommit =>
    s.file.clearCommit.map fun file => { s.clearNow (fun k => (s.file.pending.lookup k).isNone) with file := file }
  | .flushBegin => s.file.flushBegin.map fun file => { s with file := file }
  | .flushCommit => s.file.flushCommit.map fun file => { s with file := file }
  | .flushFail => s.file.flushFail.map fun file => { s with file := file }
  | .flushDone => s.file.flushDone.map fun file => { s with file := file }

end System

/-! ## What every step keeps -/

namespace CacheFile

/-- A delete or clear that runs took the key out of the buffer. -/
@[simp] def dropped (c : CacheFile) (key : SaveCacheKey) : Bool :=
  match c.holder with
  | .delete k _ dropped => dropped && k = key
  | .clear dropped => (dropped.lookup key).isSome
  | _ => false

/-- A delete or clear that runs will take the key out of the database. -/
def removing (c : CacheFile) (key : SaveCacheKey) : Bool :=
  match c.holder with
  | .delete k rawMessage _ => k = key && c.stored key rawMessage
  | .clear _ => true
  | _ => false

/-- What a reader of all layers sees, the database not counting for a key that was dropped. -/
def shown (c : CacheFile) (key : SaveCacheKey) : Option LoadedEntry :=
  (c.lookBuffers key).or (if c.dropped key then none else c.viewDatabase key)

end CacheFile

/-- A running load has seen all that its look at the database may find. -/
structure Load.Seen (l : Load) (c : CacheFile) (current : Option LoadedEntry) : Prop where
  current : current ∈ l.observed
  db : c.viewDatabase l.key ∈ l.observed
  writing : ∀ e, c.writing.lookup l.key = some e → some (readValue e.value) ∈ l.observed
  removed : c.removing l.key = true → (c.pending.lookup l.key).isSome → none ∈ l.observed

structure System.Inv (s : System) : Prop where
  current : ∀ k, s.current k = s.file.shown k
  seen : ∀ l ∈ s.loads, l.Seen s.file (s.current l.key)
  committed : ∀ w, s.file.holder = .flush w true →
    ∀ k e, w.lookup k = some e → s.file.viewDatabase k = some (readValue e.value)
  answered : ∀ a ∈ s.answers, a.result ∈ a.observed

/-- A step that does not uncover an entry of the database: no load looks at a
key between the two parts of a delete or clear that dropped it while the
database still has an entry for it, and when a delete commits, the database
holds nothing for its key but what the transaction removes, or what a delete
of another message may leave. -/
def System.Covered (s : System) : Event → Prop
  | .lookBuffers _ key =>
    s.file.lookBuffers key = none → s.file.dropped key = true → s.file.viewDatabase key = none
  | .deleteCommit ok =>
    match s.file.holder with
    | .delete key rawMessage dropped =>
      s.file.pending.lookup key = none →
        (dropped = true → s.file.viewDatabase key = none ∨ s.file.stored key rawMessage = true) ∧
          (ok = false → s.file.stored key rawMessage = false)
    | _ => True
  | _ => True

instance (s : System) (e : Event) : Decidable (s.Covered e) :=
  match e with
  | .lookBuffers _ key => inferInstanceAs (Decidable
      (s.file.lookBuffers key = none → s.file.dropped key = true → s.file.viewDatabase key = none))
  | .deleteCommit ok =>
    match h : s.file.holder with
    | .delete key rawMessage dropped => decidable_of_iff
        (s.file.pending.lookup key = none →
          (dropped = true → s.file.viewDatabase key = none ∨ s.file.stored key rawMessage = true) ∧
            (ok = false → s.file.stored key rawMessage = false)) (by simp only [System.Covered, h])
    | .free | .flush _ _ | .clear _ => isTrue (by simp only [System.Covered, h])
  | .save _ _ _ | .viewDatabase _ | .deleteBegin _ _ | .clearBegin | .clearCommit
  | .flushBegin | .flushCommit | .flushFail | .flushDone => isTrue trivial

namespace System
variable {next : SaveCacheKey → Option (Option LoadedEntry)} {l : Load} {id : Nat}

lemma mem_change_loads {s : System}
    (h : l ∈ (s.change next).loads) : ∃ l₀ ∈ s.loads, l.key = l₀.key ∧ (∀ x ∈ l₀.observed, x ∈ l.observed) ∧
      ∀ v, next l₀.key = some v → v ∈ l.observed := by
  obtain ⟨l₀, hl₀, rfl⟩ := mem_map.1 h
  refine ⟨l₀, hl₀, rfl, fun x hx => mem_append_right _ hx, fun v hv => ?_⟩
  simp [hv]

lemma change_current (s : System) (next : SaveCacheKey → Option (Option LoadedEntry)) (k : SaveCacheKey) :
    (s.change next).current k = (next k).getD (s.current k) := rfl

lemma seen_change {s : System} (hs : ∀ l ∈ s.loads, s.current l.key ∈ l.observed)
    (next : SaveCacheKey → Option (Option LoadedEntry)) :
    ∀ l ∈ (s.change next).loads, (s.change next).current l.key ∈ l.observed := by
  intro l hl
  obtain ⟨l₀, hl₀, hkey, hmono, hnew⟩ := mem_change_loads hl
  rw [change_current, hkey]
  cases hn : next l₀.key with
  | none => exact hmono _ (hs l₀ hl₀)
  | some v => exact hnew v hn

variable {s s' : System} {key : SaveCacheKey}

lemma Inv.currents (h : s.Inv) : ∀ l ∈ s.loads, s.current l.key ∈ l.observed := fun l hl => (h.seen l hl).current

/-- What `settle` leaves of the loads: a delete or clear that will remove the key has been seen. -/
lemma mem_settle_loads (h : s.Inv) (hl : l ∈ (s.settle key).loads) :
    ∃ l₀ ∈ s.loads, l.key = l₀.key ∧ (∀ x ∈ l₀.observed, x ∈ l.observed) ∧
      (l₀.key = key → s.file.removing key = true → none ∈ l.observed) := by
  unfold settle at hl
  split at hl
  · rename_i hp
    refine ⟨l, hl, rfl, fun _ hx => hx, ?_⟩
    rintro rfl hr
    exact (h.seen l hl).removed hr hp
  rename_i hp
  have hp : s.file.pending.lookup key = none := by simpa using hp
  split at hl
  · rename_i k rawMessage d hh
    split at hl
    · rename_i hk
      subst hk
      obtain ⟨l₀, hl₀, hkey, hmono, hnew⟩ := mem_change_loads hl
      refine ⟨l₀, hl₀, hkey, hmono, ?_⟩
      rintro rfl hr
      have hst : s.file.stored l₀.key rawMessage = true := by simpa [removing, hh] using hr
      have hcur := h.current l₀.key
      simp only [shown, lookBuffers, writing, dropped, hh, hp] at hcur
      cases d with
      | true =>
        -- the plain map already lost the entry when the buffer did
        have : s.current l₀.key = none := by simpa using hcur
        exact hmono _ (this ▸ (h.seen l₀ hl₀).current)
      | false =>
        have : s.current l₀.key = s.file.viewDatabase l₀.key := by simpa using hcur
        refine hnew none ?_
        rw [this]
        exact if_pos ⟨rfl, hst⟩
    · rename_i hk
      refine ⟨l, hl, rfl, fun _ hx => hx, fun _ hr => ?_⟩
      simp [removing, hh, hk] at hr
  · obtain ⟨l₀, hl₀, hkey, hmono, hnew⟩ := mem_change_loads hl
    exact ⟨l₀, hl₀, hkey, hmono, fun hk _ => hnew none (by simp [hk])⟩
  · rename_i hd hc
    refine ⟨l, hl, rfl, fun _ hx => hx, fun _ hr => ?_⟩
    unfold removing at hr
    split at hr
    · rename_i hh
      exact absurd hh (hd _ _ _)
    · rename_i hh
      exact absurd hh (hc _)
    · cases hr

lemma settle_current_of_ne (hk : k ≠ key) : (s.settle key).current k = s.current k := by
  unfold settle
  split
  · rfl
  split
  · split
    · simp [deleteNow, change_current, hk]
    · rfl
  · simp [clearNow, change_current, hk]
  · rfl

lemma settle_answers : (s.settle key).answers = s.answers := by
  unfold settle
  split
  · rfl
  split
  · split <;> rfl
  · rfl
  · rfl

lemma settle_currents (h : s.Inv) : ∀ l ∈ (s.settle key).loads, (s.settle key).current l.key ∈ l.observed := by
  unfold settle
  split
  · exact h.currents
  split
  · split
    · exact seen_change h.currents _
    · exact h.currents
  · exact seen_change h.currents _
  · exact h.currents

lemma save_inv (h : s.Inv) (rawMessage : List UInt8) (expireAt : Int64) :
    Inv { (s.settle key).saveNow key ⟨rawMessage, expireAt⟩ with
      file := s.file.queueDNSCache key (newEntry rawMessage expireAt) } where
  current k := by
    rw [saveNow, change_current]
    by_cases hk : k = key
    · subst hk
      simp [shown, lookBuffers, queueDNSCache]
    rw [if_neg hk, getD_none, settle_current_of_ne hk, h.current]
    simp [shown, lookBuffers, queueDNSCache, AList.lookup_insert_ne hk]
    rfl
  seen := by
    intro l (hl : l ∈ ((s.settle key).saveNow key ⟨rawMessage, expireAt⟩).loads)
    have hcur := seen_change (settle_currents h) _ l hl
    obtain ⟨l₁, hl₁, hkey₁, hmono₁, -⟩ := mem_change_loads hl
    obtain ⟨l₀, hl₀, hkey₀, hmono₀, hrem⟩ := mem_settle_loads h hl₁
    have hkey : l.key = l₀.key := hkey₁.trans hkey₀
    have hseen := h.seen l₀ hl₀
    refine ⟨hcur, ?_, ?_, ?_⟩
    · exact hmono₁ _ (hmono₀ _ (hkey ▸ hseen.db))
    · exact fun e he => hmono₁ _ (hmono₀ _ (hseen.writing e (hkey ▸ he)))
    intro hr hp
    rw [hkey] at hr hp
    by_cases hk : l₀.key = key
    · exact hmono₁ _ (hrem hk (hk ▸ hr))
    simp only [queueDNSCache, AList.lookup_insert_ne hk] at hp
    exact hmono₁ _ (hmono₀ _ (hseen.removed hr hp))
  committed := h.committed
  answered := settle_answers (s := s) ▸ h.answered

lemma lookBuffers_inv (h : s.Inv) (hc : s.Covered (.lookBuffers id key))
    (hs : s.step (.lookBuffers id key) = some s') : s'.Inv := by
  simp only [step] at hs
  split at hs
  · rename_i entry he
    cases hs
    refine { h with answered := fun a ha => ?_ }
    rcases mem_cons.1 ha with rfl | ha
    · simp [h.current, shown, he]
    · exact h.answered a ha
  · rename_i he
    cases hs
    refine { h with seen := fun l hl => ?_ }
    rcases mem_cons.1 hl with rfl | hl
    · have hpw : s.file.pending.lookup key = none ∧ s.file.writing.lookup key = none := by
        simpa [lookBuffers] using he
      refine ⟨mem_singleton_self _, ?_, ?_, ?_⟩
      · rw [mem_singleton, h.current, shown, he, none_or]
        split
        · rename_i hd
          exact hc he hd
        · rfl
      · intro e hw
        rw [hpw.2] at hw
        cases hw
      · intro _ hp
        rw [hpw.1] at hp
        cases hp
    · exact h.seen l hl

lemma viewDatabase_inv (h : s.Inv) (hs : s.step (.viewDatabase id) = some s') : s'.Inv := by
  simp only [step] at hs
  split at hs
  · rename_i l hl
    cases hs
    refine ⟨h.current, fun l hl => h.seen l (mem_of_mem_filter hl), h.committed, fun a ha => ?_⟩
    rcases mem_cons.1 ha with rfl | ha
    · exact (h.seen l (mem_of_find?_eq_some hl)).db
    · exact h.answered a ha
  · cases hs

variable {c : CacheFile} {rawMessage : List UInt8}

/-- A step that changes the plain map by `next` and leaves the cache file at `c`, no flush running. -/
lemma inv_of_change (h : s.Inv)
    (hflush : ∀ w, c.holder ≠ .flush w true) (hcurrent : ∀ k, (s.change next).current k = c.shown k)
    (hdb : ∀ l ∈ s.loads, next l.key = some (c.viewDatabase l.key) ∨ c.viewDatabase l.key ∈ l.observed)
    (hwriting : ∀ l ∈ s.loads, ∀ e, c.writing.lookup l.key = some e → some (readValue e.value) ∈ l.observed)
    (hremoved : ∀ l ∈ s.loads, c.removing l.key = true → (c.pending.lookup l.key).isSome → none ∈ l.observed) :
    Inv { s.change next with file := c } := by
  refine ⟨hcurrent, fun l hl => ?_, fun w hw => absurd hw (hflush w), h.answered⟩
  have hcur := seen_change h.currents next l hl
  obtain ⟨l₀, hl₀, hkey, hmono, hnew⟩ := mem_change_loads hl
  refine ⟨hcur, ?_, ?_, ?_⟩
  · rw [hkey]
    rcases hdb l₀ hl₀ with hn | ho
    · exact hnew _ hn
    · exact hmono _ ho
  · exact fun e he => hmono _ (hwriting l₀ hl₀ e (hkey ▸ he))
  · exact fun hr hp => hmono _ (hremoved l₀ hl₀ (hkey ▸ hr) (hkey ▸ hp))

lemma deleteNow_current_self : (s.deleteNow key rawMessage).current key =
      if (s.current key).any (·.rawMessage = rawMessage) then none else s.current key := by
  by_cases h : (s.current key).any (·.rawMessage = rawMessage) <;> simp [deleteNow, change_current, h]

lemma deleteNow_current_of_ne (hk : k ≠ key) :
    (s.deleteNow key rawMessage).current k = s.current k := by
  simp [deleteNow, change_current, hk]

lemma deleteBegin_inv (h : s.Inv) (hs : s.step (.deleteBegin key rawMessage) = some s') : s'.Inv := by
  obtain ⟨c, hc, rfl⟩ := map_eq_some_iff.1 hs
  simp only [deleteBegin] at hc
  split at hc
  · rename_i hh
    have hw : s.file.writing = ∅ := by simp [writing, hh]
    split at hc
    · rename_i entry he
      have hcur : s.current key = some (readValue entry.value) := by
        simp [h.current, shown, lookBuffers, he]
      simp only [he, isSome_some, if_true]
      split at hc
      · -- another message: the plain map keeps its entry as well
        rename_i hne
        cases hc
        refine inv_of_change h (by simp [hh]) (fun k => ?_) (fun l hl => .inr (h.seen l hl).db)
          (fun l hl => (h.seen l hl).writing) (fun l hl => (h.seen l hl).removed)
        rw [← h.current]
        by_cases hk : k = key
        · subst hk
          exact deleteNow_current_self.trans (if_neg (by simpa [hcur] using hne))
        · exact deleteNow_current_of_ne hk
      · rename_i heq
        cases hc
        have heq : (readValue entry.value).rawMessage = rawMessage := by simpa using heq
        refine inv_of_change h (by simp) (fun k => ?_) ?_ ?_ ?_
        · by_cases hk : k = key
          · subst hk
            refine (deleteNow_current_self.trans (if_pos (by simpa [hcur] using heq))).trans ?_
            simp [shown, lookBuffers, writing]
          refine (deleteNow_current_of_ne hk).trans ((h.current k).trans ?_)
          simp [shown, lookBuffers, writing, hh, Ne.symm hk, AList.lookup_erase_ne hk]
          rfl
        · exact fun l hl => .inr (h.seen l hl).db
        · simp [writing]
        · intro l _ hr hp
          have hk : key = l.key := by simpa using (Bool.and_eq_true_iff.1 hr).1
          simp [hk] at hp
    · rename_i he
      cases hc
      simp only [he, isSome_none, Bool.false_eq_true, if_false]
      refine ⟨fun k => ?_, fun l hl => ⟨(h.seen l hl).current, (h.seen l hl).db, ?_, ?_⟩, nofun, h.answered⟩
      · rw [h.current]
        simp [shown, lookBuffers, writing, hh]
        rfl
      · simp [writing]
      intro hr hp
      have hk : key = l.key := by simpa using (Bool.and_eq_true_iff.1 hr).1
      rw [← hk] at hp
      simp [he] at hp
  · cases hc

lemma deleteCommit_view {ok dropped : Bool}
    (hh : s.file.holder = .delete key rawMessage dropped) (hc : s.file.deleteCommit ok = some c) :
    c.pending = s.file.pending ∧ c.holder = .free ∧
      (∀ k ≠ key, c.viewDatabase k = s.file.viewDatabase k) ∧
      c.viewDatabase key = if ok && s.file.stored key rawMessage then none else s.file.viewDatabase key := by
  simp only [deleteCommit, hh] at hc
  split at hc
  · rename_i hst
    cases hc
    refine ⟨rfl, rfl, fun k hk => ?_, ?_⟩
    · simp [viewDatabase, getCacheEntry_setCacheEntry_of_ne _ hk]
    simp only [hst, if_true]
    simp [viewDatabase, readContent]
  · rename_i hst
    cases hc
    exact ⟨rfl, rfl, fun _ _ => rfl, (if_neg hst).symm⟩

lemma shown_free (hh : c.holder = .free) (k : SaveCacheKey) :
    c.shown k = ((c.pending.lookup k).map fun e => readValue e.value).or (c.viewDatabase k) := by
  simp [shown, lookBuffers, writing, hh]

lemma shown_delete {dropped : Bool} (hh : c.holder = .delete key rawMessage dropped) (k : SaveCacheKey) :
    c.shown k = ((c.pending.lookup k).map fun e => readValue e.value).or
      (if dropped = true ∧ key = k then none else c.viewDatabase k) := by
  simp [shown, lookBuffers, writing, hh]

section
variable (h : s.Inv)
include h

lemma deleteCommit_inv {ok : Bool} (hc : s.Covered (.deleteCommit ok))
    (hs : s.step (.deleteCommit ok) = some s') : s'.Inv := by
  obtain ⟨c, hcommit, rfl⟩ := map_eq_some_iff.1 hs
  cases hh : s.file.holder with
  | free | flush w b | clear d => simp [deleteCommit, hh] at hcommit
  | delete key rawMessage dropped =>
  simp only [Covered, hh] at hc
  obtain ⟨hpend, hfree, hne, hself⟩ := deleteCommit_view hh hcommit
  have hwriting : c.writing = ∅ := by simp [writing, hfree]
  have hremoving (k) : c.removing k = false := by simp [removing, hfree]
  have hother (k) (hk : k ≠ key) : s.current k = c.shown k := by
    rw [h.current, shown_delete hh, shown_free hfree, hpend, hne k hk, if_neg (fun hd => hk hd.2.symm)]
  cases hp : s.file.pending.lookup key with
  | some e =>
    -- a save came in between: the plain map keeps it, as the buffer does
    simp only [hp, isSome_some, if_true]
    refine ⟨fun k => ?_, fun l hl => ⟨(h.seen l hl).current, ?_, by simp [hwriting], by simp [hremoving]⟩,
      by simp [hfree], h.answered⟩
    · by_cases hk : k = key
      · subst hk
        simp [h.current, shown_delete hh, shown_free hfree, hpend, hp]
      · exact hother k hk
    by_cases hk : l.key = key
    · rw [hk, hself]
      split
      · rename_i hst
        have hr : s.file.removing l.key = true := by
          simpa [removing, hh, hk] using (Bool.and_eq_true_iff.1 hst).2
        exact (h.seen l hl).removed hr (by rw [hk, hp]; rfl)
      · exact hk ▸ (h.seen l hl).db
    · rw [hne _ hk]
      exact (h.seen l hl).db
  | none =>
    simp only [hp, isSome_none, Bool.false_eq_true, if_false]
    obtain ⟨hcover, hok⟩ := hc hp
    have hcur : s.current key = if dropped then none else s.file.viewDatabase key := by
      simp [h.current, shown_delete hh, hp]
    have hany : (s.current key).any (·.rawMessage = rawMessage) = (!dropped && s.file.stored key rawMessage) := by
      cases dropped <;> simp [hcur, stored]
    refine inv_of_change h (by simp [hfree]) (fun k => ?_) (fun l hl => ?_) (by simp [hwriting]) (by simp [hremoving])
    · by_cases hk : k = key
      · subst hk
        refine deleteNow_current_self.trans ?_
        rw [hany, hcur, shown_free hfree, hpend, hp, map_none, none_or, hself]
        cases hst : s.file.stored k rawMessage with
        | true =>
          have : ok = true := by cases ok <;> simp_all
          cases dropped <;> simp [this]
        | false =>
          cases dropped with
          | true => simpa [hst, eq_comm] using hcover
          | false => simp
      · exact (deleteNow_current_of_ne hk).trans (hother k hk)
    · by_cases hk : l.key = key
      · rw [hk, hself, hany]
        cases hst : s.file.stored key rawMessage with
        | true =>
          have : ok = true := by cases ok <;> simp_all
          cases dropped with
          | true =>
            right
            have hseen := (h.seen l hl).current
            rw [hk, hcur] at hseen
            simpa [this] using hseen
          | false => simp [this]
        | false =>
          right
          simpa [hk] using (h.seen l hl).db
      · rw [hne _ hk]
        exact .inr (h.seen l hl).db

lemma clearBegin_inv (hs : s.step .clearBegin = some s') : s'.Inv := by
  obtain ⟨c, hc, rfl⟩ := map_eq_some_iff.1 hs
  simp only [clearBegin] at hc
  split at hc
  · rename_i hh
    cases hc
    refine inv_of_change h (by simp) (fun k => ?_) (fun l hl => .inr (h.seen l hl).db) (by simp [writing])
      (by simp)
    rw [change_current, h.current]
    cases hp : s.file.pending.lookup k <;>
      simp [shown, lookBuffers, writing, hh, hp]
    rfl
  · cases hc

lemma clearCommit_inv (hs : s.step .clearCommit = some s') : s'.Inv := by
  obtain ⟨c, hc, rfl⟩ := map_eq_some_iff.1 hs
  simp only [clearCommit] at hc
  split at hc
  · rename_i d hh
    cases hc
    refine inv_of_change h (by simp) (fun k => ?_) (fun l hl => ?_) (by simp [writing])
      (by simp [removing])
    · rw [change_current, h.current]
      cases hp : s.file.pending.lookup k <;>
        simp [shown, lookBuffers, writing, viewDatabase, getCacheEntry, readContent, hh, hp]
    cases hp : s.file.pending.lookup l.key with
    | none => exact .inl (if_pos (by simp [hp]))
    | some e => exact .inr ((h.seen l hl).removed (by simp [removing, hh]) (by simp [hp]))
  · cases hc

lemma flushBegin_inv (hs : s.step .flushBegin = some s') : s'.Inv := by
  obtain ⟨c, hc, rfl⟩ := map_eq_some_iff.1 hs
  simp only [flushBegin] at hc
  split at hc
  · rename_i hh
    cases hc
    refine ⟨fun k => ?_, fun l hl => ⟨(h.seen l hl).current, (h.seen l hl).db, fun e he => ?_, ?_⟩, ?_, h.answered⟩
    · rw [h.current]
      simp [shown, lookBuffers, writing, hh]
      rfl
    · have hcur := (h.seen l hl).current
      have he : s.file.pending.lookup l.key = some e := he
      simpa [h.current, shown, lookBuffers, he] using hcur
    · simp
    · simp
  · cases hc

lemma flushCommit_inv (hs : s.step .flushCommit = some s') : s'.Inv := by
  obtain ⟨c, hc, rfl⟩ := map_eq_some_iff.1 hs
  simp only [flushCommit] at hc
  split at hc
  · rename_i w hh
    obtain ⟨db, hdb, rfl⟩ := map_eq_some_iff.1 hc
    have hget := writePending_get hdb
    have hsome (k e) (he : w.lookup k = some e) : readContent (getCacheEntry db k) = some (readValue e.value) := by
      rw [hget, he]
      exact readContent_value e
    have hnone (k) (he : w.lookup k = none) : getCacheEntry db k = getCacheEntry s.file.db k := by simp [hget, he]
    have hw : s.file.writing = w := by simp [writing, hh]
    refine ⟨fun k => ?_, fun l hl => ⟨(h.seen l hl).current, ?_, fun e he => ?_, ?_⟩, ?_, h.answered⟩
    · rw [h.current]
      cases he : w.lookup k <;>
        simp [shown, lookBuffers, writing, viewDatabase, hh, he, hnone]
    · show readContent (getCacheEntry db l.key) ∈ l.observed
      cases he : w.lookup l.key with
      | none =>
        rw [hnone _ he]
        exact (h.seen l hl).db
      | some e =>
        rw [hsome _ _ he]
        exact (h.seen l hl).writing e (hw ▸ he)
    · exact (h.seen l hl).writing e (hw ▸ he)
    · simp [removing]
    · rintro w' hw' k e he
      obtain rfl : w = w' := by simpa using hw'
      exact hsome k e he
  · cases hc

lemma flushFail_inv (hs : s.step .flushFail = some s') : s'.Inv := by
  obtain ⟨c, hc, rfl⟩ := map_eq_some_iff.1 hs
  simp only [flushFail] at hc
  split at hc
  · rename_i w hh
    cases hc
    refine ⟨fun k => ?_, fun l hl => ⟨(h.seen l hl).current, (h.seen l hl).db, ?_, ?_⟩, nofun, h.answered⟩
    · rw [h.current]
      simp [shown, lookBuffers, writing, hh, restorePendingLocked_lookup]
      rfl
    · simp [writing]
    · simp [removing]
  · cases hc

lemma flushDone_inv (hs : s.step .flushDone = some s') : s'.Inv := by
  obtain ⟨c, hc, rfl⟩ := map_eq_some_iff.1 hs
  simp only [flushDone] at hc
  split at hc
  · rename_i w hh
    cases hc
    refine ⟨fun k => ?_, fun l hl => ⟨(h.seen l hl).current, (h.seen l hl).db, ?_, ?_⟩, nofun, h.answered⟩
    · rw [h.current]
      cases he : w.lookup k with
      | none =>
        simp [shown, lookBuffers, writing, hh, he]
        rfl
      | some e =>
        -- the database holds what the transaction wrote
        have hdb := h.committed w hh k e he
        simp only [viewDatabase] at hdb
        cases hp : s.file.pending.lookup k <;>
          simp [shown, lookBuffers, writing, viewDatabase, hh, he, hp, hdb]
    · simp [writing]
    · simp [removing]
  · cases hc

lemma step_inv {e : Event} (hc : s.Covered e) (hs : s.step e = some s') : s'.Inv := by
  cases e with
  | save key rawMessage expireAt =>
    cases hs
    exact save_inv h rawMessage expireAt
  | lookBuffers id key => exact lookBuffers_inv h hc hs
  | viewDatabase id => exact viewDatabase_inv h hs
  | deleteBegin key rawMessage => exact deleteBegin_inv h hs
  | deleteCommit ok => exact deleteCommit_inv h hc hs
  | clearBegin => exact clearBegin_inv h hs
  | clearCommit => exact clearCommit_inv h hs
  | flushBegin => exact flushBegin_inv h hs
  | flushCommit => exact flushCommit_inv h hs
  | flushFail => exact flushFail_inv h hs
  | flushDone => exact flushDone_inv h hs

end

lemma opened_inv (db : Bucket) : (opened db).Inv :=
  ⟨fun k => (shown_free (c := .opened db) rfl k).symm, nofun, nofun, nofun⟩

end System

/-! ## The cache file is a plain map -/

/-- In every run that uncovers no entry of the database, each load returns what
the plain map held at some moment of the load, and whenever a flush is through
or nothing runs, the database holds the plain map's entry of every key that is
not buffered. -/
theorem dns_cache_is_plain_map (db : Bucket) (es : List Event) (s : System)
    (hrun : Machine.run System.step (.opened db) es = some s)
    (hcovered : Machine.Along System.step System.Covered (.opened db) es) : (∀ a ∈ s.answers, a.result ∈ a.observed) ∧
      ((s.file.holder = .free ∨ ∃ w, s.file.holder = .flush w true) →
        ∀ k, s.file.pending.lookup k = none → s.file.viewDatabase k = s.current k) := by
  have h : s.Inv := Machine.run_inv (fun _ _ _ hi hc hs => System.step_inv hi hc hs) (System.opened_inv db) hcovered hrun
  refine ⟨h.answered, ?_⟩
  rintro (hh | ⟨w, hh⟩) k hp
  · rw [h.current, System.shown_free hh, hp, map_none, none_or]
  rw [h.current]
  cases he : w.lookup k with
  | none => simp [shown, lookBuffers, writing, hh, hp, he]
  | some e =>
    rw [h.committed w hh k e he]
    simp [shown, lookBuffers, writing, hh, hp, he]

/-- A save during a flush that fails, a second flush, and a delete of what it stored. -/
def overlappedFlush : List Event :=
  let key : SaveCacheKey := ⟨"local", "example.com.", 1⟩
  [.save key [1] 60, .flushBegin, .save key [2] 120, .flushFail, .lookBuffers 0 key, .flushBegin, .flushCommit,
    .flushDone, .lookBuffers 1 key, .save key [3] 180, .viewDatabase 1, .deleteBegin key [2], .lookBuffers 2 key]

theorem dns_cache_is_plain_map_overlapped :
    ∃ s, Machine.run System.step (.opened fun _ _ => none) overlappedFlush = some s ∧
      s.answers.map (·.result) = [some ⟨[3], 180⟩, some ⟨[2], 120⟩, some ⟨[2], 120⟩] ∧
      ∀ a ∈ s.answers, a.result ∈ a.observed := by
  refine Machine.exists_end (by decide +kernel) fun s hs => ?_
  exact (dns_cache_is_plain_map _ overlappedFlush s hs (by decide +kernel)).1

/-- A newer response is buffered over a stored one and then deleted: the stored one is back. -/
def uncoveredDelete : List Event :=
  let key : SaveCacheKey := ⟨"local", "example.com.", 1⟩
  [.save key [1] 60, .flushBegin, .flushCommit, .flushDone, .save key [2] 120, .deleteBegin key [2],
    .deleteCommit true, .lookBuffers 0 key, .viewDatabase 0]

theorem delete_uncovers_older : (Machine.run System.step (.opened fun _ _ => none) uncoveredDelete).map (·.answers) =
      some [⟨⟨"local", "example.com.", 1⟩, some ⟨[1], 60⟩, [none]⟩] := by
  decide +kernel

end SingBox.Cachefile
