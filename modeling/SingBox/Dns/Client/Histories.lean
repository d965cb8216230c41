import SingBox.Dns.Client.Filters
import SingBox.Dns.Client.Persistence
/-!
# Histories of the two caches

A client with the memory cache and one with the cache file in lockstep. Every
event that treats their caches alike (`Exchanges.Comparable`) is a step of both
and leaves them in agreement.
-/
namespace SingBox.Dns
open Option Machine Client
open Exchanges
variable {key : DnsCacheKey} {reply : TransportReply} {question : Question}

namespace Exchanges

/-- A look at the two caches that can be compared: no response was stored under
another key with the same entry in the cache file, and the whole seconds of the
cache file do not change the age of the response found. -/
def ComparableAt (s : Exchanges) (key : DnsCacheKey) (now : Int) : Prop :=
  (∀ st ∈ s.stored, st.key.saveKey = key.saveKey → st.key = key) ∧
    ∀ st ∈ s.latest key, s.client.options.disableExpire = true ∨
      age s.client.options now (st.memoryExpiry s.client.lib) = age s.client.options now st.fileExpiry

def CanPack (s : Exchanges) (question : Question) (call : Call) (answer : Msg) : Prop :=
  (s.client.lib.pack (s.client.applyResponseOptions question answer call.options).1).isSome

/-- Events a memory cache and a cache file can be compared along. The clock does
not run backwards, and the memory cache drops nothing to make room. -/
def Comparable (s : Exchanges) : ClientEvent → Prop
  | .exchange _ call r => s.clock ≤ r.now ∧
      ∀ question ∈ call.message.question.head?, s.ComparableAt (s.client.keyOf call question r) r.now
  | .retry id r => s.clock ≤ r.now ∧ ∀ call ∈ s.waiting id,
      ∀ question ∈ call.message.question.head?, s.ComparableAt (s.client.keyOf call question r) r.now
  | .reply id r reply => s.clock ≤ r.now ∧ ∀ op ∈ s.asking id,
      ∀ answer ∈ (exchangeToTransport op.message reply).toOption, s.CanPack op.question op.call answer
  | .lookup call name qType r => s.clock ≤ r.now ∧ s.ComparableAt
      (s.client.keyOf { call with message := lookupMessage name qType } { name := name, qtype := qType } r) r.now
  | .refreshed key r reply => s.clock ≤ r.now ∧ ∀ f ∈ s.backgroundRefresh.find? (·.key = key),
      ∀ answer ∈ (exchangeToTransport f.message reply).toOption, s.CanPack f.key.question f.call answer
  | .cleanup now => s.clock ≤ now
  | .evict _ => False
  | .cancel _ | .evictIndex _ | .forget _ | .clearCache => True

instance (s : Exchanges) (key : DnsCacheKey) (now : Int) : Decidable (s.ComparableAt key now) :=
  inferInstanceAs (Decidable (_ ∧ _))

instance (s : Exchanges) (question : Question) (call : Call) (answer : Msg) :
    Decidable (s.CanPack question call answer) :=
  inferInstanceAs (Decidable (_ = true))

instance (s : Exchanges) (e : ClientEvent) : Decidable (s.Comparable e) :=
  match e with
  | .exchange .. | .retry .. | .reply .. | .lookup .. | .refreshed .. => inferInstanceAs (Decidable (_ ∧ _))
  | .cleanup now => inferInstanceAs (Decidable (_ ≤ _))
  | .evict _ => isFalse id
  | .cancel _ | .evictIndex _ | .forget _ | .clearCache => isTrue trivial

lemma newCacheKey_message (c : Client) (call : Call) (question : Question) (r : Reading) :
    newCacheKey c.options.clientSubnet call.transport question call.message call.options r =
      c.keyOf call question r := by
  simp only [keyOf, newCacheKey, prepareExchangeMessage]
  split
  · rfl
  · split <;> rfl

end Exchanges

namespace Agree
open Exchanges (ComparableAt CanPack)
variable {subnet : Prefix} {a b : Exchanges}
variable (h : Agree subnet a b)
include h

lemma latest_own {call : Call} (hkey : key.Of subnet call) :
    Source.Own subnet call (.cached key (a.latest key)) := by
  refine ⟨hkey, fun st hlatest => ?_⟩
  obtain ⟨hd, -⟩ := h.memory
  obtain rfl : st.key = key := by
    simpa [latest, sameEntry, hd] using List.find?_some hlatest
  exact ⟨rfl, h.keyed.stored st (mem_of_latest hlatest).1⟩

section
variable (ha : a.Inv {}) (hb : b.Inv {}) (id : Nat) {call : Call} {r : Reading} (hclock : a.clock = r.now)
include ha hb hclock

/-- What the two caches give for a key: nothing, or the same response with the same staleness. -/
lemma loaded (hc : a.ComparableAt key r.now) :
    ∃ la ca lb cb, a.client.loadResponse key r.now = (la, ca) ∧ b.client.loadResponse key r.now = (lb, cb) ∧
      Agree subnet { a with client := ca } { b with client := cb } ∧ ((la = none ∧ lb = none) ∨
        ∃ m m' isStale, la = some (m, isStale) ∧ lb = some (m', isStale) ∧ m.Same m') := by
  obtain ⟨hagree, hdec, hsame⟩ := h.loadResponse ha hb hclock hc.1 hc.2
  generalize a.client.loadResponse key r.now = pa, b.client.loadResponse key r.now = pb at hagree hdec hsame ⊢
  obtain ⟨la, ca⟩ := pa
  refine ⟨la, ca, pb.1, pb.2, rfl, rfl, hagree, ?_⟩
  cases la with
  | none => exact .inl ⟨rfl, map_eq_none_iff.1 hdec.symm⟩
  | some p =>
    obtain ⟨⟨m', isStale⟩, hm', rfl⟩ := map_eq_some_iff.1 hdec.symm
    exact .inr ⟨p.1, m', p.2, rfl, hm', hsame p.1 m' p.2 rfl hm'⟩

lemma lookCache (hq : call.message.question.head? = some question)
    (hc : a.ComparableAt (a.client.keyOf call question r) r.now) :
    Agree subnet (a.lookCache id call question r) (b.lookCache id call question r) := by
  have hkey := h.clientSubnet ▸ a.client.keyOf_of r hq
  have hown := h.latest_own hkey
  obtain ⟨la, ca, lb, cb, hla, hlb, hagree, hcases⟩ := h.loaded ha hb hclock hc
  unfold Exchanges.lookCache
  simp only [h.options, h.cacheLock, Call.timeout, h.latest hc.1, hla, hlb, show newCacheKey
    a.client.options.clientSubnet call.transport question (prepareExchangeMessage a.client.options.clientSubnet
      call.message call.options) call.options r = a.client.keyOf call question r from rfl]
  generalize a.client.keyOf call question r = key at *
  have hag (l) : Agree subnet { a with client := ca, cacheLock := l } { b with client := cb, cacheLock := l } := hagree.lock rfl
  have hjoin (lock exchangeKey owner l) := (hag l).joinLock id ⟨call, prepareExchangeMessage
    a.client.options.clientSubnet call.message call.options, question, some key, lock⟩ exchangeKey owner
    fun _ hk => some.inj hk ▸ hkey
  obtain ⟨rfl, rfl⟩ | ⟨m, m', isStale, rfl, rfl, hm⟩ := hcases
  · exact hjoin _ _ _ _
  dsimp only
  have hid : Msg.Same { m with id := (prepareExchangeMessage a.client.options.clientSubnet call.message
      call.options).id } { m' with id := (prepareExchangeMessage a.client.options.clientSubnet call.message
      call.options).id } := (setId_same _ _).trans (hm.trans (setId_same _ _).symm)
  split
  · exact (((hag _).backgroundRefreshDNS _ hkey).unlock _).deliver hid hown
  split
  · exact ((hag _).unlock _).deliver hid hown
  · exact hjoin _ _ _ _

lemma questionCache (hq : call.message.question.head? = some question)
    (hc : a.ComparableAt (a.client.keyOf call question r) r.now) :
    Agree subnet (a.questionCache call question r) (b.questionCache call question r) := by
  have hkey := h.clientSubnet ▸ a.client.keyOf_of r hq
  have hown := h.latest_own hkey
  obtain ⟨la, ca, lb, cb, hla, hlb, hagree, hcases⟩ := h.loaded ha hb hclock hc
  have hoptions : cb.options = ca.options := hagree.options
  unfold Exchanges.questionCache
  simp only [h.options, newCacheKey_message, h.latest hc.1, hla, hlb]
  generalize a.client.keyOf call question r = key at *
  obtain ⟨rfl, rfl⟩ | ⟨m, m', isStale, rfl, rfl, hm⟩ := hcases
  · exact hagree
  dsimp only
  rw [hoptions]
  split
  · split
    · exact hagree
    · exact (hagree.backgroundRefreshDNS _ hkey).deliver hm hown
  · exact hagree.deliver hm hown

lemma beginExchange (hc : ∀ question ∈ call.message.question.head?,
      a.ComparableAt (a.client.keyOf call question r) r.now) :
    Agree subnet (a.beginExchange id call r) (b.beginExchange id call r) := by
  unfold Exchanges.beginExchange
  rw [h.options]
  split
  · exact h.deliver (.refl _) trivial
  rename_i question hq
  split
  · exact h.deliver (.refl _) trivial
  split
  · exact h.askTransport id _ fun _ hk => by cases hk
  · exact h.lookCache ha hb id hclock hq (hc question hq)

end

section
variable {op : Operation} (r : Reading) (hop : ∀ key ∈ op.cacheKey, key.Of subnet op.call)
include hop

lemma finishExchange {answer : Msg} (hpack : a.CanPack op.question op.call answer) :
    Agree subnet (a.finishExchange op answer r) (b.finishExchange op answer r) := by
  have hkeyOf : ∀ key, (if isBadRcode answer then none else op.cacheKey) = some key → op.cacheKey = some key := by
    cases isBadRcode answer <;> simp
  unfold Exchanges.finishExchange
  rw [h.applyResponseOptions]
  dsimp only
  generalize (if isBadRcode answer then none else op.cacheKey) = cacheKey at hkeyOf ⊢
  split
  · split
    · exact (h.reject _ _ _).deliver rfl trivial
    · exact h.deliver rfl trivial
  split
  · rename_i key hkey
    obtain ⟨key₀, hkey₀, hfinish⟩ := bind_eq_some_iff.1 hkey
    exact (h.store _ _ _ (finishCacheKey_of (hop key₀ (hkeyOf key₀ hkey₀)) hfinish) hpack).deliver (.refl _) trivial
  · exact h.deliver (.refl _) trivial

lemma receive
    (hpack : ∀ answer ∈ (exchangeToTransport op.message reply).toOption, a.CanPack op.question op.call answer) :
    Agree subnet (a.receive op r reply) (b.receive op r reply) := by
  unfold Exchanges.receive
  split
  · exact (h.unlock _).deliver rfl trivial
  rename_i answer ha
  exact (h.finishExchange r hop (hpack answer (by rw [ha]; rfl))).unlock _

end

lemma finishRefresh {f : Refresh} (r : Reading) (hf : f.key.Of subnet f.call)
    (hpack : ∀ answer ∈ (exchangeToTransport f.message reply).toOption, a.CanPack f.key.question f.call answer) :
    Agree subnet (a.finishRefresh f r reply) (b.finishRefresh f r reply) := by
  unfold Exchanges.finishRefresh
  split
  · exact h
  rename_i answer ha
  rw [h.applyResponseOptions]
  split
  · exact h.reject _ _ _
  split
  · exact h
  split
  · exact h
  rename_i key hkey
  exact h.store _ _ _ (finishCacheKey_of hf hkey) (hpack answer (by rw [ha]; rfl))

lemma cleanupDNSCache {now : Int} (hclock : a.clock = now) :
    Agree subnet { a with client := a.client.cleanupDNSCache now } { b with client := b.client.cleanupDNSCache now } := by
  obtain ⟨hd, cache, hc, hcache⟩ := h.memory
  obtain ⟨store, hs, hstore⟩ := h.file
  refine { h with
    keyed := { h.keyed with }
    memory := ⟨by simp [Client.cleanupDNSCache, hd], cache, hc, hcache⟩
    file := ⟨_, by simp only [Client.cleanupDNSCache, hs, map_some]; rfl, fun k => ?_⟩ }
  have hkept := hstore k
  show FileKept a.client.options a.client.lib a.clock (Option.filter _ (store k)) _
  cases hk : store k with
  | none =>
    rw [hk] at hkept
    exact hkept
  | some entry =>
    rw [hk] at hkept
    obtain ⟨st, hl, hpack, hexp⟩ := Kept.of_some hkept
    rw [hl, filter_some]
    split
    · exact .inl ⟨entry, rfl, hpack, hexp⟩
    rename_i hover
    simp only [Bool.or_eq_true, decide_eq_true_eq, not_or, Bool.not_eq_true, not_le, h.options] at hover
    refine .inr ⟨rfl, hover.1, ?_⟩
    rw [hclock, age, map_eq_none_iff, lifetime, Stored.fileExpiry, ← hexp,
      if_pos (by have := hover.2; omega), if_neg]
    simp only [Bool.and_eq_true, decide_eq_true_eq, not_and, not_lt]
    have := hover.2
    omega

lemma clearCache :
    Agree subnet { a with client := a.client.clearCache, stored := [] } { b with client := b.client.clearCache, stored := [] } := by
  obtain ⟨hd, cache, hc, -⟩ := h.memory
  obtain ⟨store, hs, -⟩ := h.file
  exact { h with
    stored := rfl
    keyed := { h.keyed with stored := fun _ hmem => absurd hmem List.not_mem_nil }
    memory := ⟨by simp [Client.clearCache, hd], _, by simp only [Client.clearCache, hc, map_some],
      fun _ => rfl⟩
    file := ⟨_, by simp only [Client.clearCache, hs, map_some], fun _ => rfl⟩ }

lemma find (id : Nat) : b.find id = a.find id := by simp [Exchanges.find, h.inFlight]

lemma step (ha : a.Inv {}) (hb : b.Inv {}) {e : ClientEvent} {a' : Exchanges} (hc : a.Comparable e)
    (hs : a.step e = some a') : ∃ b', b.step e = some b' ∧ Agree subnet a' b' := by
  cases e with
  | exchange id call r =>
    simp only [Exchanges.step, ite_none_left_eq_some, some.injEq] at hs
    obtain ⟨hfree, rfl⟩ := hs
    refine ⟨_, by simp only [Exchanges.step, h.find, hfree]; rfl, ?_⟩
    exact (h.readClock hc.1).beginExchange (ha.readClock _) (hb.readClock _) id rfl hc.2
  | retry id r =>
    simp only [Exchanges.step] at hs
    split at hs
    · rename_i call cond hf
      split at hs
      · rename_i hrel
        cases hs
        have hrelB : b.released cond = true := by
          unfold released at hrel ⊢
          rwa [h.cacheLock]
        refine ⟨_, by simp only [Exchanges.step, h.find, hf, hrelB, if_true]; rfl, ?_⟩
        exact ((h.readClock hc.1).drop id).beginExchange ((ha.readClock _).drop id) ((hb.readClock _).drop id) id rfl
          (hc.2 call (by simp [waiting, hf]))
      · cases hs
    · cases hs
  | cancel id =>
    simp only [Exchanges.step] at hs
    split at hs
    · rename_i call cond hf
      cases hs
      refine ⟨_, by simp only [Exchanges.step, h.find, hf]; rfl, ?_⟩
      exact (h.drop id).deliver rfl trivial
    · cases hs
  | reply id r reply =>
    simp only [Exchanges.step] at hs
    split at hs
    · rename_i op hf
      cases hs
      refine ⟨_, by simp only [Exchanges.step, h.find, hf]; rfl, ?_⟩
      exact ((h.readClock hc.1).drop id).receive r (h.keyed.asking id op (mem_of_find hf))
        (hc.2 op (by simp [asking, hf]))
    · cases hs
  | lookup call name qType r =>
    simp only [Exchanges.step, ite_none_left_eq_some, some.injEq] at hs
    obtain ⟨hcache, rfl⟩ := hs
    refine ⟨_, by simp only [Exchanges.step, h.options, hcache]; rfl, ?_⟩
    exact (h.readClock hc.1).questionCache (ha.readClock _) (hb.readClock _) rfl rfl hc.2
  | refreshed key r reply =>
    simp only [Exchanges.step] at hs
    split at hs
    · rename_i f hf
      cases hs
      refine ⟨_, by simp only [Exchanges.step, h.backgroundRefresh, hf]; rfl, ?_⟩
      have h' : Agree subnet { a.readClock r.now with backgroundRefresh := a.backgroundRefresh.filter (·.key ≠ key) }
          { b.readClock r.now with backgroundRefresh := a.backgroundRefresh.filter (·.key ≠ key) } :=
        { h.readClock hc.1 with
          backgroundRefresh := rfl
          keyed := { h.keyed with refresh := fun f hmem => h.keyed.refresh f (List.mem_of_mem_filter hmem) }
          memory := (h.readClock hc.1).memory
          file := (h.readClock hc.1).file }
      exact h'.finishRefresh r (h.keyed.refresh f (List.mem_of_find?_eq_some hf)) (hc.2 f hf)
    · cases hs
  | evict key => exact hc.elim
  | evictIndex key =>
    cases hs
    exact ⟨_, rfl, { h with keyed := { h.keyed with }, memory := h.memory, file := h.file }⟩
  | cleanup now =>
    cases hs
    exact ⟨_, rfl, (h.readClock hc).cleanupDNSCache rfl⟩
  | forget key =>
    cases hs
    exact ⟨_, rfl, { h with
      rdrc := by simp [h.rdrc], keyed := { h.keyed with }, memory := h.memory, file := h.file }⟩
  | clearCache =>
    cases hs
    exact ⟨_, rfl, h.clearCache⟩

omit h in
lemma start {options : ClientOptions} (hcache : options.disableCache = false) (lib : Library) (storeRDRC : Bool) :
    Agree options.clientSubnet { client := .start options lib false storeRDRC }
      { client := .start options lib true storeRDRC } where
  clientSubnet := rfl
  options := rfl
  lib := rfl
  rdrc := rfl
  clock := rfl
  cacheLock := rfl
  inFlight := rfl
  backgroundRefresh := rfl
  stored := rfl
  rejected := rfl
  returned := .nil
  keyed := ⟨by simp, by simp, by simp, by simp⟩
  memory := ⟨rfl, fun _ => none, by simp [Client.start, hcache], fun _ => rfl⟩
  file := ⟨fun _ => none, rfl, fun _ => rfl⟩

end Agree

lemma Rules.respected_of_empty (s : Exchanges) (e : ClientEvent) : Rules.Respected {} s e := by
  cases e <;> simp [Rules.Respected, Rules.Begins, Rules.Looks]

lemma own_of_agrees {subnet : Prefix} {rs rs' : List Returned} (h : List.Forall₂ Returned.Agrees rs rs')
    (hown : ∀ r ∈ rs, r.source.Own subnet r.call) : ∀ r ∈ rs', r.source.Own subnet r.call := by
  induction h with
  | nil => exact hown
  | cons hr _ ih =>
    rw [List.forall_mem_cons] at hown ⊢
    exact ⟨hr.source ▸ hr.call ▸ hown.1, ih hown.2⟩

/-- Along every history the two caches can be compared on, the cache file gives
the answers of the memory cache: the same calls are answered from the cache,
wait or ask their transport, the same stale responses are refreshed, and a
cached response is returned only to calls with the key it was stored under. -/
theorem cache_file_refines_memory (options : ClientOptions) (hcache : options.disableCache = false) (lib : Library)
    (hlib : lib.Lossless) (storeRDRC : Bool) (es : List ClientEvent) (s : Exchanges)
    (hrun : run step { client := .start options lib false storeRDRC } es = some s)
    (hcomparable : Machine.Along step Exchanges.Comparable
      { client := .start options lib false storeRDRC } es) :
    ∃ t, run step { client := .start options lib true storeRDRC } es = some t ∧
      List.Forall₂ Returned.Agrees s.returned t.returned ∧ t.inFlight = s.inFlight ∧
      t.backgroundRefresh = s.backgroundRefresh ∧
      ∀ r ∈ s.returned ++ t.returned, ∀ key st, r.source = .cached key (some st) →
        st.key = key ∧ key.Of options.clientSubnet st.call ∧ key.Of options.clientSubnet r.call := by
  have hstep : ∀ a b e a', (Agree options.clientSubnet a b ∧ a.Inv {} ∧ b.Inv {}) → a.Comparable e →
      a.step e = some a' → ∃ b', b.step e = some b' ∧ (Agree options.clientSubnet a' b' ∧ a'.Inv {} ∧ b'.Inv {}) := by
    rintro a b e a' ⟨h, ha, hb⟩ hc hs
    obtain ⟨b', hs', h'⟩ := h.step ha hb hc hs
    exact ⟨b', hs', h', step_inv ha (Rules.respected_of_empty a e) hs, step_inv hb (Rules.respected_of_empty b e) hs'⟩
  obtain ⟨t, ht, h, -⟩ := run_sim hstep ⟨Agree.start hcache lib storeRDRC,
    start_inv options hlib false storeRDRC, start_inv options hlib true storeRDRC⟩ hcomparable hrun
  refine ⟨t, ht, h.returned, h.inFlight, h.backgroundRefresh, fun r hr key st hsource => ?_⟩
  have hown : r.source.Own options.clientSubnet r.call :=
    (List.mem_append.1 hr).elim (h.keyed.returned r) (own_of_agrees h.returned h.keyed.returned r)
  rw [hsource] at hown
  obtain ⟨hcall, hst⟩ := hown
  exact ⟨(hst st rfl).1, (hst st rfl).2, hcall⟩

/-- A library that packs the messages of a table: a message is as many bytes as stand before it. -/
def packsAmong (table : List Msg) : Library where
  pack m := (table.idxOf? m).map fun i => .replicate i 0
  unpack b := table[b.length]?
  expireAfter now seconds := now + second * seconds.toNat

lemma packsAmong_lossless (table : List Msg) : (packsAmong table).Lossless := by
  intro m b h
  obtain ⟨i, hi, rfl⟩ := map_eq_some_iff.1 h
  obtain ⟨hlt, heq, -⟩ := List.findIdx?_eq_some_iff_getElem.1 hi
  simpa [packsAmong, hlt] using heq

def twoMessages : Library := packsAmong [{}, httpsAnswer]

/-- A query answered 10.5 seconds after the start of the clock, and one later. -/
def twoMoments (first later : Call) (now : Int) : List ClientEvent :=
  [.exchange 0 first ⟨10500000000, 0, none⟩, .reply 0 ⟨10500000000, 0, none⟩ (.response httpsAnswer httpsAnswer_wellTyped),
    .exchange 1 later ⟨now, 0, none⟩]

theorem cache_file_refines_memory_hit :
    ∃ s t, run step { client := .start {} twoMessages false false }
        (twoMoments (httpsCall .asIS) (httpsCall .asIS) 20000000000) = some s ∧
      run step { client := .start {} twoMessages true false }
        (twoMoments (httpsCall .asIS) (httpsCall .asIS) 20000000000) = some t ∧
      s.returned.length = 2 ∧ List.Forall₂ Returned.Agrees s.returned t.returned := by
  have hlen : (run step { client := .start {} twoMessages false false }
      (twoMoments (httpsCall .asIS) (httpsCall .asIS) 20000000000)).map (·.returned.length) = some 2 := by decide +kernel
  obtain ⟨s, hs, hlen⟩ := map_eq_some_iff.1 hlen
  obtain ⟨t, ht, hagree, -⟩ := cache_file_refines_memory {} rfl twoMessages (packsAmong_lossless _) false _ s hs
    (by decide +kernel)
  exact ⟨s, t, hs, ht, hlen, hagree⟩

def chaosCall : Call :=
  { httpsCall .asIS with
    message := { question := [{ name := "example.com.", qtype := typeHTTPS, qclass := 3 }] } }

/-- The cache file answers a query with a response of another class where the
memory cache has nothing, and it has nothing in the last part of a second where
the memory cache still answers. -/
theorem cache_file_differs : (run step { client := .start {} twoMessages false false }
      (twoMoments (httpsCall .asIS) chaosCall 20000000000)).map (fun s => (s.returned.length, s.inFlight.length)) =
        some (1, 1) ∧
    (run step { client := .start {} twoMessages true false }
      (twoMoments (httpsCall .asIS) chaosCall 20000000000)).map (fun s => (s.returned.length, s.inFlight.length)) =
        some (2, 0) ∧
    (run step { client := .start {} twoMessages false false }
      (twoMoments (httpsCall .asIS) (httpsCall .asIS) 70200000000)).map
        (fun s => (s.returned.length, s.inFlight.length)) = some (2, 0) ∧
    (run step { client := .start {} twoMessages true false }
      (twoMoments (httpsCall .asIS) (httpsCall .asIS) 70200000000)).map
        (fun s => (s.returned.length, s.inFlight.length)) = some (1, 1) := by
  refine ⟨?_, ?_, ?_, ?_⟩ <;> decide +kernel

end SingBox.Dns
