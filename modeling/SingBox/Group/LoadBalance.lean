import SingBox.Lib.Double
import Mathlib.Data.List.Basic
/-!
# Load-balance groups

`protocol/group/loadbalance.go`: how a group selects a member for a connection.
A pre-match asks first whether the member suits (the matcher); if not, the
connection is made later in the ordinary way and must get the same member.
-/
namespace SingBox.LoadBalance
open Double

/-! ## Hashing -/

/-- The loop of `jumpHash`; each round moves `j`, so there are at most as many rounds as buckets. -/
def jumpHashLoop (buckets : Nat) : Nat → UInt64 → Nat → Nat → Nat × Nat
  | 0, _, b, j => (b, j)
  | rounds + 1, key, b, j =>
    if j < buckets then
      let key := key * 2862933555777941757 + 1
      let quotient := round (2 ^ 31) ((key >>> 33).toNat + 1)
      jumpHashLoop buckets rounds key j (round ((j + 1) * quotient) one / one)
    else (b, j)

def jumpHash (key : UInt64) (buckets : Nat) : Nat := (jumpHashLoop buckets buckets key 0 0).1

variable {buckets : Nat}

lemma jump_gt (j : Nat) (hj : j < 2 ^ 31) (key : UInt64) :
    j + 1 ≤ round ((j + 1) * round (2 ^ 31) ((key >>> 33).toNat + 1)) one / one := by
  have hone : 0 < one := Nat.two_pow_pos 52
  have hshift : (key >>> 33).toNat + 1 ≤ 2 ^ 31 := by
    have h33 : (33 : UInt64).toNat % 64 = 33 := by decide
    rw [UInt64.toNat_shiftRight, h33, Nat.shiftRight_eq_div_pow]
    have := key.toNat_lt
    omega
  have hquotient : 1 * one ≤ round (2 ^ 31) ((key >>> 33).toNat + 1) :=
    le_round (Nat.succ_pos _) Nat.one_pos (by omega) (by decide)
  rw [Nat.le_div_iff_mul_le hone]
  refine le_round hone (Nat.succ_pos j) ?_ (by omega)
  calc (j + 1) * one = (j + 1) * (1 * one) := by rw [Nat.one_mul]
    _ ≤ (j + 1) * round (2 ^ 31) ((key >>> 33).toNat + 1) := Nat.mul_le_mul_left _ hquotient

/-- One more bucket: the loop takes the same rounds, or one more that ends in the new bucket. -/
lemma jumpHashLoop_succ (h : buckets < 2 ^ 31) (rounds : Nat) (key : UInt64) (b j : Nat) (hle : buckets ≤ rounds + j)
    (hb : b ≤ buckets) : ∃ b' ≤ buckets, ∃ j' > buckets, jumpHashLoop (buckets + 1) (rounds + 1) key b j = (b', j') ∧
      (b' = (jumpHashLoop buckets rounds key b j).1 ∨ b' = buckets) := by
  induction rounds generalizing key b j with
  | zero =>
    simp only [jumpHashLoop]
    split
    next => exact ⟨_, by omega, _, (jump_gt j (by omega) _).trans' (by omega), rfl, .inr (by omega)⟩
    next => exact ⟨_, hb, _, by omega, rfl, .inl rfl⟩
  | succ rounds ih =>
    rw [jumpHashLoop.eq_2 (buckets + 1), jumpHashLoop.eq_2 buckets]
    by_cases hj : j < buckets
    · have hnext : buckets ≤ rounds + (j + 1) := by omega
      rw [if_pos hj, if_pos (by omega)]
      exact ih _ j _ (hnext.trans (Nat.add_le_add_left (jump_gt j (by omega) _) rounds)) hj.le
    · rw [if_neg hj]
      split
      next =>
        have := jump_gt j (by omega) (key * 2862933555777941757 + 1)
        rw [jumpHashLoop, if_neg (by omega)]
        exact ⟨j, by omega, _, this.trans' (by omega), rfl, .inr (by omega)⟩
      next => exact ⟨b, hb, j, by omega, rfl, .inl rfl⟩

/-- For every key the loop ends, in a member of the group. An added member takes keys from the others, and
no key moves between the others. -/
theorem jumpHash_consistent (key : UInt64) (h : buckets < 2 ^ 31) :
    buckets < (jumpHashLoop (buckets + 1) (buckets + 1) key 0 0).2 ∧ jumpHash key (buckets + 1) ≤ buckets ∧
      (jumpHash key (buckets + 1) = jumpHash key buckets ∨ jumpHash key (buckets + 1) = buckets) := by
  obtain ⟨b, hb, j, hj, heq, hsame⟩ := jumpHashLoop_succ h buckets key 0 0 (by omega) (by omega)
  rw [jumpHash, heq]
  exact ⟨hj, hb, hsame⟩

theorem jumpHash_consistent_ten : jumpHash 7 11 ≤ 10 := (jumpHash_consistent 7 (by decide)).2.1

/-! ## Groups -/

/-- The least-recently-used cache of the sticky sessions. -/
structure Lru (σ : Type) where
  peek : σ → UInt64 → Option Nat
  get : σ → UInt64 → Option Nat × σ
  add : σ → UInt64 → Nat → σ

/-- The members of a group, and which of them `aliveForMetadata` finds alive. -/
structure Members (α : Type) where
  outbounds : List α
  alive : α → Bool

/-- What a group remembers: the index of the round-robin, the one of the fallback, the sticky sessions,
and how often an index was picked. -/
structure State (σ : Type) where
  idx : Nat := 0
  fallbackIdx : UInt32 := 0
  sessions : σ
  picks : Nat := 0

/-- An index function: its choice at the given call. It must choose an index of the list. -/
structure IndexFunction where
  pick : Nat → UInt64 → Nat → Nat
  lt : ∀ call key length, 0 < length → pick call key length < length

inductive Strategy where
  | roundRobin
  | consistentHashing
  | stickySessions (selectIndex : IndexFunction)

/-- What a selection does: the member it comes to, the one it returns, and the state afterwards. -/
structure Selection (α σ : Type) where
  offered : Option α
  outbound : Option α
  state : State σ

section Code
variable {α σ : Type} (lru : Lru σ) (g : Members α) (touch : Bool) (matcher : Option (α → Bool))

/-- A member is offered; it is returned unless the matcher refuses it. -/
def offer (o : Option α) (state : State σ) : Selection α σ :=
  ⟨o, o.filter fun o => matcher.all (· o), state⟩

def refuses (o : Option α) : Bool := o.any fun o => !matcher.all (· o)
def Members.aliveAt (i : Nat) : Bool := g.outbounds[i]?.any g.alive

def nextFallback (s : State σ) : Selection α σ :=
  let length := g.outbounds.length
  if length = 0 then ⟨none, none, s⟩
  else
    let nextIndex := s.fallbackIdx + 1
    let outbound := g.outbounds[nextIndex.toNat % length]?
    if refuses matcher outbound then offer matcher outbound s
    else offer matcher outbound (if matcher.isNone || touch then { s with fallbackIdx := nextIndex } else s)

def strategyRoundRobin (s : State σ) : Selection α σ :=
  let length := g.outbounds.length
  match (List.range length).find? fun i => g.aliveAt ((s.idx + i) % length) with
  | some i =>
    let proxy := g.outbounds[(s.idx + i) % length]?
    if refuses matcher proxy then offer matcher proxy s
    else offer matcher proxy (if touch then { s with idx := (s.idx + (i + 1)) % length } else s)
  | none => nextFallback g touch matcher s

/-- `strategyConsistentHashing`, for the hash of the key of the metadata. -/
def strategyConsistentHashing (key : UInt64) (s : State σ) : Selection α σ :=
  let length := g.outbounds.length
  if length = 0 then ⟨none, none, s⟩
  else
    match (List.range 5).find? fun i => g.aliveAt (jumpHash (key + UInt64.ofNat i) length) with
    | some i => offer matcher g.outbounds[jumpHash (key + UInt64.ofNat i) length]? s
    | none =>
      match g.outbounds.find? g.alive with
      | some proxy => offer matcher (some proxy) s
      | none => nextFallback g touch matcher s

/-- The loop of the sticky sessions: the index of the first member alive, and the number of picks made. -/
def stickyLoop (selectIndex : IndexFunction) (key : UInt64) : Nat → Nat → Nat → Option Nat × Nat
  | 0, _, picks => (none, picks)
  | tries + 1, nowIdx, picks =>
    if g.aliveAt nowIdx then (some nowIdx, picks)
    else stickyLoop selectIndex key tries (selectIndex.pick picks key g.outbounds.length) (picks + 1)

/-- The index the sticky sessions start with, whether it is that of a session, and the number of picks. -/
def stickyIndex (selectIndex : IndexFunction) (key : UInt64) (session : Option Nat) (picks : Nat) : Nat × Bool × Nat :=
  match session.filter (· < g.outbounds.length) with
  | some idx => (idx, true, picks)
  | none => (selectIndex.pick picks key g.outbounds.length, false, picks + 1)

/-- `strategyStickySessionsWithIndex`, for the hash of the key of the metadata. -/
def strategyStickySessionsWithIndex (selectIndex : IndexFunction) (key : UInt64) (s : State σ) : Selection α σ :=
  let length := g.outbounds.length
  if length = 0 then ⟨none, none, s⟩
  else
    let (session, sessions) :=
      match matcher with
      | none => lru.get s.sessions key
      | some _ => (lru.peek s.sessions key, s.sessions)
    let (idx, validMapping, picks) := stickyIndex g selectIndex key session s.picks
    match stickyLoop g selectIndex key 4 idx picks with
    | (some nowIdx, picks) =>
      let sessions :=
        if !validMapping || nowIdx ≠ idx then lru.add sessions key nowIdx
        else if matcher.isSome then (lru.get sessions key).2
        else sessions
      offer matcher g.outbounds[nowIdx]? { s with sessions, picks }
    | (none, picks) =>
      let fbIdx := jumpHash key length
      offer matcher g.outbounds[fbIdx]? { s with sessions := lru.add sessions key fbIdx, picks }

def strategyFn (strategy : Strategy) (key : UInt64) (touch : Bool) (matcher : Option (α → Bool)) (s : State σ) :
    Selection α σ :=
  match strategy with
  | .roundRobin => strategyRoundRobin g touch matcher s
  | .consistentHashing => strategyConsistentHashing g touch matcher key s
  | .stickySessions selectIndex => strategyStickySessionsWithIndex lru g matcher selectIndex key s

def unwrap (strategy : Strategy) (key : UInt64) (touch : Bool) (s : State σ) : Selection α σ :=
  strategyFn lru g strategy key touch none s

def unwrapPreMatch (strategy : Strategy) (key : UInt64) (matcher : α → Bool) (s : State σ) : Selection α σ :=
  strategyFn lru g strategy key true (some matcher) s

end Code

/-! ## Replay -/

section Replay
variable {α σ : Type} {lru : Lru σ} {g : Members α} {s : State σ} {matcher : α → Bool} {o : α}

/-- What the cache documents: a look does not change what is found, and what was added is found. -/
structure Lru.Documented (lru : Lru σ) : Prop where
  get_fst : ∀ s k, (lru.get s k).1 = lru.peek s k
  peek_get : ∀ s k, lru.peek (lru.get s k).2 k = lru.peek s k
  peek_add : ∀ s k i, lru.peek (lru.add s k i) k = some i

lemma offer_outbound (o : Option α) (s : State σ) : (offer none o s).outbound = o := by
  cases o <;> rfl

lemma refuses_none (o : Option α) : ¬ refuses none o = true := by
  cases o <;> simp [refuses]

lemma refuses_eq (h : matcher o = false) : refuses (some matcher) (some o) = true := by
  simp [refuses, h]

lemma nextFallback_replay (touch : Bool) (ho : (nextFallback g true (some matcher) s).offered = some o)
    (hr : matcher o = false) :
    (nextFallback g true (some matcher) s).state = s ∧ (nextFallback g touch none s).outbound = some o := by
  unfold nextFallback at ho ⊢
  by_cases hl : g.outbounds.length = 0
  · simp [hl] at ho
  simp only [if_neg hl] at ho ⊢
  have hoffered : g.outbounds[(s.fallbackIdx + 1).toNat % g.outbounds.length]? = some o := by
    split at ho <;> exact ho
  rw [hoffered, if_pos (refuses_eq hr), if_neg (refuses_none _)]
  exact ⟨rfl, offer_outbound _ _⟩

lemma strategyRoundRobin_replay (touch : Bool) (ho : (strategyRoundRobin g true (some matcher) s).offered = some o)
    (hr : matcher o = false) : (strategyRoundRobin g true (some matcher) s).state = s ∧
      (strategyRoundRobin g touch none s).outbound = some o := by
  unfold strategyRoundRobin at ho ⊢
  dsimp only at ho ⊢
  cases hfind : (List.range g.outbounds.length).find? fun i => g.aliveAt ((s.idx + i) % g.outbounds.length) with
  | none =>
    rw [hfind] at ho
    exact nextFallback_replay touch ho hr
  | some i =>
    rw [hfind] at ho
    dsimp only at ho ⊢
    have hoffered : g.outbounds[(s.idx + i) % g.outbounds.length]? = some o := by
      split at ho <;> exact ho
    rw [hoffered, if_pos (refuses_eq hr), if_neg (refuses_none _)]
    exact ⟨rfl, offer_outbound _ _⟩

lemma strategyConsistentHashing_replay (touch : Bool) (key : UInt64)
    (ho : (strategyConsistentHashing g true (some matcher) key s).offered = some o) (hr : matcher o = false) :
    (strategyConsistentHashing g true (some matcher) key s).state = s ∧
      (strategyConsistentHashing g touch none key s).outbound = some o := by
  unfold strategyConsistentHashing at ho ⊢
  by_cases hl : g.outbounds.length = 0
  · simp [hl] at ho
  simp only [if_neg hl] at ho ⊢
  split at ho
  · exact ⟨rfl, (offer_outbound _ s).trans ho⟩
  split at ho
  · exact ⟨rfl, (offer_outbound _ s).trans ho⟩
  · exact nextFallback_replay touch ho hr

variable {selectIndex : IndexFunction} {key : UInt64} {i : Nat}

lemma stickyLoop_alive {tries nowIdx picks : Nat}
    (h : (stickyLoop g selectIndex key tries nowIdx picks).1 = some i) : g.aliveAt i = true := by
  induction tries generalizing nowIdx picks with
  | zero => cases h
  | succ tries ih =>
    rw [stickyLoop] at h
    split at h
    next ha => exact Option.some.inj h ▸ ha
    next => exact ih h

lemma stickyLoop_of_alive {nowIdx : Nat} (h : g.aliveAt nowIdx = true)
    (tries picks : Nat) : stickyLoop g selectIndex key (tries + 1) nowIdx picks = (some nowIdx, picks) := by
  rw [stickyLoop, if_pos h]

/-- The loop ends without a member exactly when those it tries are dead; it has made a pick for each. -/
lemma stickyLoop_none (g : Members α) (selectIndex : IndexFunction) (key : UInt64) (tries nowIdx picks : Nat) :
    ((stickyLoop g selectIndex key (tries + 1) nowIdx picks).1 = none ↔
      g.aliveAt nowIdx = false ∧
        ∀ n < tries, g.aliveAt (selectIndex.pick (picks + n) key g.outbounds.length) = false) ∧
    ((stickyLoop g selectIndex key (tries + 1) nowIdx picks).1 = none →
      (stickyLoop g selectIndex key (tries + 1) nowIdx picks).2 = picks + (tries + 1)) := by
  induction tries generalizing nowIdx picks with
  | zero =>
    rw [stickyLoop, stickyLoop]
    cases g.aliveAt nowIdx <;> simp
  | succ tries ih =>
    obtain ⟨hiff, hpicks⟩ := ih (selectIndex.pick picks key g.outbounds.length) (picks + 1)
    rw [stickyLoop]
    cases ha : g.aliveAt nowIdx with
    | true => simp
    | false =>
      simp only [Bool.false_eq_true, if_false, true_and]
      refine ⟨hiff.trans ⟨fun h n hn => ?_, fun h => ⟨h 0 (Nat.succ_pos _), fun n hn => ?_⟩⟩, fun h => ?_⟩
      · cases n with
        | zero => exact h.1
        | succ n =>
          rw [← Nat.add_assoc, Nat.add_right_comm]
          exact h.2 n (by omega)
      · rw [Nat.add_right_comm]
        exact h (n + 1) (by omega)
      · rw [hpicks h]
        omega

lemma Members.aliveAt_eq (h : g.outbounds[i]? = some o) : g.aliveAt i = g.alive o := by
  rw [Members.aliveAt, h]
  rfl

/-- A session that is valid is used by the next selection: its member, if it is alive. -/
lemma sticky_unwrap (hlru : lru.Documented) (hs : lru.peek s.sessions key = some i) (hi : g.outbounds[i]? = some o) :
    (strategyStickySessionsWithIndex lru g none selectIndex key s).outbound =
      match (stickyLoop g selectIndex key 4 i s.picks).1 with
      | some nowIdx => g.outbounds[nowIdx]?
      | none => g.outbounds[jumpHash key g.outbounds.length]? := by
  have hlt : i < g.outbounds.length := (List.getElem?_eq_some_iff.1 hi).1
  have hindex : stickyIndex g selectIndex key (lru.get s.sessions key).1 s.picks = (i, true, s.picks) := by
    rw [hlru.get_fst, hs, stickyIndex, Option.filter_some, if_pos (by simpa using hlt)]
  unfold strategyStickySessionsWithIndex
  simp only [if_neg (Nat.ne_of_gt (Nat.zero_lt_of_lt hlt)), hindex]
  generalize stickyLoop g selectIndex key 4 i s.picks = out
  obtain ⟨found, picks⟩ := out
  cases found <;> exact offer_outbound _ _

/-- What the replay of the sticky sessions asks: if the members that a pre-match tries are dead and so is
the one it then offers, the index function must not come to one alive with its next picks. -/
def Replayable (lru : Lru σ) (g : Members α) (strategy : Strategy) (key : UInt64) (s : State σ) : Prop :=
  match strategy with
  | .roundRobin | .consistentHashing => True
  | .stickySessions selectIndex =>
    let (idx, _, picks) := stickyIndex g selectIndex key (lru.peek s.sessions key) s.picks
    g.aliveAt idx = false →
      (∀ n < 3, g.aliveAt (selectIndex.pick (picks + n) key g.outbounds.length) = false) →
      g.aliveAt (jumpHash key g.outbounds.length) = false →
      ∀ n < 3, g.aliveAt (selectIndex.pick (picks + 4 + n) key g.outbounds.length) = false

lemma sticky_replay (hlru : lru.Documented) (selectIndex : IndexFunction) (key : UInt64)
    (ho : (strategyStickySessionsWithIndex lru g (some matcher) selectIndex key s).offered = some o) :
    let pre := strategyStickySessionsWithIndex lru g (some matcher) selectIndex key s
    pre.state.idx = s.idx ∧ pre.state.fallbackIdx = s.fallbackIdx ∧
      ((strategyStickySessionsWithIndex lru g none selectIndex key pre.state).outbound = some o ↔
        Replayable lru g (.stickySessions selectIndex) key s) := by
  intro pre
  have hpre : pre = strategyStickySessionsWithIndex lru g (some matcher) selectIndex key s := rfl
  rw [← hpre] at ho
  unfold strategyStickySessionsWithIndex at hpre
  by_cases hl : g.outbounds.length = 0
  · rw [if_pos hl] at hpre
    rw [hpre] at ho
    cases ho
  rw [if_neg hl] at hpre
  dsimp only at hpre
  simp only [Replayable]
  have hsession {idx picks : Nat} {valid : Bool}
      (h : stickyIndex g selectIndex key (lru.peek s.sessions key) s.picks = (idx, valid, picks)) :
      valid = true → lru.peek s.sessions key = some idx := by
    unfold stickyIndex at h
    split at h
    next i hi =>
      obtain ⟨rfl, -⟩ := Prod.mk.inj h
      exact fun _ => (Option.filter_eq_some_iff.1 hi).1
    next => exact fun hv => by simp [hv] at h
  generalize hindex : stickyIndex g selectIndex key (lru.peek s.sessions key) s.picks = out at hpre
  obtain ⟨idx, valid, picks⟩ := out
  have hsession := hsession hindex
  obtain ⟨hnone, hpicks⟩ := stickyLoop_none g selectIndex key 3 idx picks
  generalize hloop : stickyLoop g selectIndex key 4 idx picks = loop at hpre hnone hpicks
  obtain ⟨found, picks'⟩ := loop
  cases found with
  | some nowIdx =>
    -- the member is alive, and its session is kept or made
    have halive : g.aliveAt nowIdx = true := stickyLoop_alive (congrArg Prod.fst hloop)
    rw [hpre] at ho ⊢
    have hpeek : lru.peek (if !valid || nowIdx ≠ idx then lru.add s.sessions key nowIdx
        else (lru.get s.sessions key).2) key = some nowIdx := by
      split
      · exact hlru.peek_add _ _ _
      next hkept =>
        simp only [Bool.or_eq_true, Bool.not_eq_true', decide_eq_true_eq, not_or, Bool.not_eq_false, not_not] at hkept
        rw [hlru.peek_get, hsession hkept.1, hkept.2]
    refine ⟨rfl, rfl, ?_⟩
    rw [sticky_unwrap hlru hpeek ho, stickyLoop_of_alive halive]
    exact iff_of_true ho fun hdead htried => absurd (hnone.2 ⟨hdead, htried⟩) (by simp)
  | none =>
    rw [hpre] at ho ⊢
    obtain rfl : picks' = picks + 4 := hpicks rfl
    obtain ⟨hdead, htried⟩ := hnone.1 rfl
    have hpeek := hlru.peek_add s.sessions key (jumpHash key g.outbounds.length)
    refine ⟨rfl, rfl, ?_⟩
    rw [sticky_unwrap hlru hpeek ho]
    obtain ⟨hnext, -⟩ := stickyLoop_none g selectIndex key 3 (jumpHash key g.outbounds.length) (picks + 4)
    dsimp only [offer]
    cases hfound : (stickyLoop g selectIndex key 4 (jumpHash key g.outbounds.length) (picks + 4)).1 with
    | none => exact iff_of_true ho fun _ _ _ => (hnext.1 hfound).2
    | some i =>
      have halive : g.aliveAt i = true := stickyLoop_alive hfound
      cases hfb : g.aliveAt (jumpHash key g.outbounds.length) with
      | true =>
        -- the session of the offered member is valid and the member alive
        rw [stickyLoop_of_alive hfb] at hfound
        cases hfound
        exact iff_of_true ho fun _ _ h => absurd h (by simp)
      | false =>
        refine iff_of_false (fun hi => ?_) fun h => ?_
        · rw [Members.aliveAt_eq hi, ← Members.aliveAt_eq ho, hfb] at halive
          cases halive
        rw [hnext.2 ⟨hfb, h hdead htried rfl⟩] at hfound
        cases hfound

/-- A member that a pre-match refuses is what the connection gets, except where a sticky session falls
back to a dead member. -/
theorem refused_pre_match_replayed (lru : Lru σ) (hlru : lru.Documented) (g : Members α) (strategy : Strategy)
    (key : UInt64) (s : State σ) (matcher : α → Bool) (o : α) (touch : Bool)
    (ho : (unwrapPreMatch lru g strategy key matcher s).offered = some o) (hr : matcher o = false) :
    ((unwrapPreMatch lru g strategy key matcher s).state.idx = s.idx ∧
      (unwrapPreMatch lru g strategy key matcher s).state.fallbackIdx = s.fallbackIdx ∧
      (unwrap lru g strategy key touch (unwrapPreMatch lru g strategy key matcher s).state).outbound = some o) ↔
    Replayable lru g strategy key s := by
  cases strategy with
  | roundRobin =>
    obtain ⟨hstate, hnext⟩ := strategyRoundRobin_replay touch ho hr
    simp only [unwrapPreMatch, unwrap, strategyFn, hstate, Replayable, hnext, and_self]
  | consistentHashing =>
    obtain ⟨hstate, hnext⟩ := strategyConsistentHashing_replay touch key ho hr
    simp only [unwrapPreMatch, unwrap, strategyFn, hstate, Replayable, hnext, and_self]
  | stickySessions selectIndex =>
    obtain ⟨hidx, hfallback, hiff⟩ := sticky_replay hlru selectIndex key ho
    exact ⟨fun h => hiff.1 h.2.2, fun h => ⟨hidx, hfallback, hiff.2 h⟩⟩

end Replay

def mapLru : Lru (UInt64 → Option Nat) where
  peek s k := s k
  get s k := (s k, s)
  add s k i := Function.update s k (some i)

lemma mapLru_documented : mapLru.Documented where
  get_fst _ _ := rfl
  peek_get _ _ := rfl
  peek_add _ _ _ := Function.update_self _ _ _

def secondAlive : Members Nat := ⟨[0, 1], (· = 1)⟩

/-- An index function that chooses the first member at first and the second one later. -/
def laterSecond : IndexFunction where
  pick call _ length := if 5 ≤ call then 1 % length else 0
  lt call key length h := by
    split
    · exact Nat.mod_lt 1 h
    · exact h

/-- A session with the dead member: the third pick is alive, and the connection gets it. -/
theorem refused_pre_match_replayed_session :
    let s : State (UInt64 → Option Nat) := { sessions := fun _ => some 0, picks := 3 }
    let pre := unwrapPreMatch mapLru secondAlive (.stickySessions laterSecond) 0 (fun _ => false) s
    pre.offered = some 1 ∧
      (unwrap mapLru secondAlive (.stickySessions laterSecond) 0 true pre.state).outbound = some 1 := by
  intro s pre
  refine ⟨by decide +kernel, ((refused_pre_match_replayed mapLru mapLru_documented secondAlive
    (.stickySessions laterSecond) 0 s (fun _ => false) 1 true (by decide +kernel) rfl).2 ?_).2.2⟩
  exact fun _ hdead => absurd (hdead 2 (by decide)) (by decide +kernel)

/-- The picks of a pre-match are dead and the member it falls back to is dead; the connection picks
again and gets the other member. -/
theorem refused_pre_match_not_replayed :
    (unwrapPreMatch mapLru secondAlive (.stickySessions laterSecond) 0 (fun _ => false)
        { sessions := fun _ => none }).offered = some 0 ∧
      (unwrap mapLru secondAlive (.stickySessions laterSecond) 0 true (unwrapPreMatch mapLru secondAlive
        (.stickySessions laterSecond) 0 (fun _ => false) { sessions := fun _ => none }).state).outbound = some 1 := by
  constructor <;> decide +kernel

end SingBox.LoadBalance
