import SingBox.Group.LoadBalance
import Mathlib.Data.List.Rotate
/-!
# Live members and fair turns

Which strategies find a live member whenever there is one, and how the
round-robin takes turns. Seen from its index, the live members in the order of
the list rotate by one with every touching call.
-/
namespace SingBox.LoadBalance
open List
variable {α σ : Type} {lru : Lru σ} {g : Members α} {s : State σ} {key : UInt64}

/-! ## Live members -/

/-- The sticky sessions try four indices and then the one of the hash; one of them must be alive. The other
strategies look at every member. -/
def FindsAlive (lru : Lru σ) (g : Members α) (strategy : Strategy) (key : UInt64) (s : State σ) : Prop :=
  match strategy with
  | .roundRobin | .consistentHashing => True
  | .stickySessions selectIndex =>
    let (idx, _, picks) := stickyIndex g selectIndex key (lru.get s.sessions key).1 s.picks
    g.aliveAt idx = true ∨ (∃ n < 3, g.aliveAt (selectIndex.pick (picks + n) key g.outbounds.length) = true) ∨
      g.aliveAt (jumpHash key g.outbounds.length) = true

def Members.IsAlive (g : Members α) (o : Option α) : Prop := o.any g.alive = true

lemma isAlive_offer (o : Option α) (s : State σ) : g.IsAlive (offer none o s).outbound ↔ o.any g.alive = true := by
  rw [offer_outbound, Members.IsAlive]

lemma sticky_isAlive_iff (selectIndex : IndexFunction) (h : 0 < g.outbounds.length) :
    g.IsAlive (strategyStickySessionsWithIndex lru g none selectIndex key s).outbound ↔
      FindsAlive lru g (.stickySessions selectIndex) key s := by
  unfold strategyStickySessionsWithIndex FindsAlive
  rw [if_neg h.ne']
  dsimp only
  generalize stickyIndex g selectIndex key (lru.get s.sessions key).1 s.picks = start
  obtain ⟨idx, valid, picks⟩ := start
  have hnone := (stickyLoop_none g selectIndex key 3 idx picks).1
  generalize hloop : stickyLoop g selectIndex key 4 idx picks = loop at hnone
  obtain ⟨found, picks'⟩ := loop
  cases found with
  | some nowIdx =>
    have halive : g.aliveAt nowIdx = true := stickyLoop_alive (congrArg Prod.fst hloop)
    refine iff_of_true ((isAlive_offer ..).2 halive) ?_
    by_contra hdead
    simp only [not_or, not_exists, not_and, Bool.not_eq_true] at hdead
    exact absurd (hnone.2 ⟨hdead.1, hdead.2.1⟩) (by simp)
  | none =>
    obtain ⟨hidx, hpicks⟩ := hnone.1 rfl
    rw [isAlive_offer]
    refine ⟨fun h => .inr (.inr h), ?_⟩
    rintro (h | ⟨n, hn, h⟩ | h)
    · exact absurd h (by simp [hidx])
    · exact absurd h (by simp [hpicks n hn])
    · exact h

lemma aliveAt_rotate {i : Nat} (h : i < g.outbounds.length) (idx : Nat) :
    g.aliveAt ((idx + i) % g.outbounds.length) = (g.outbounds.rotate idx)[i]?.any g.alive := by
  rw [getElem?_rotate h, Nat.add_comm, Members.aliveAt]

/-- The round-robin comes to the first live member from its index on. -/
lemma roundRobin_find (s : State σ) (hlive : ∃ o ∈ g.outbounds, g.alive o = true) : ∃ dead o rest,
    g.outbounds.rotate s.idx = dead ++ o :: rest ∧ (∀ x ∈ dead, g.alive x = false) ∧ g.alive o = true ∧
    (range g.outbounds.length).find? (fun i => g.aliveAt ((s.idx + i) % g.outbounds.length)) = some dead.length ∧
    g.outbounds[(s.idx + dead.length) % g.outbounds.length]? = some o := by
  obtain ⟨o', ho', halive'⟩ := hlive
  obtain ⟨o, ho⟩ := Option.isSome_iff_exists.1 (find?_isSome.2 ⟨o', mem_rotate.2 ho', halive'⟩ :
    ((g.outbounds.rotate s.idx).find? g.alive).isSome = true)
  obtain ⟨halive, dead, rest, heq, hdead⟩ := find?_eq_some_iff_append.1 ho
  have hlen : dead.length < g.outbounds.length := by
    rw [← length_rotate g.outbounds s.idx, heq, length_append, length_cons]
    omega
  have hplace : (g.outbounds.rotate s.idx)[dead.length]? = some o := by simp [heq]
  refine ⟨dead, o, rest, heq, fun x hx => by simpa using hdead x hx, halive, ?_, ?_⟩
  · refine find?_range_eq_some.2 ⟨?_, mem_range.2 hlen, fun j hj => ?_⟩
    · rw [aliveAt_rotate hlen, hplace]
      exact halive
    rw [aliveAt_rotate (hj.trans hlen), heq, getElem?_append_left hj, getElem?_eq_getElem hj]
    exact hdead _ (getElem_mem hj)
  · rw [Nat.add_comm, ← getElem?_rotate hlen, hplace]

lemma consistentHashing_isAlive (touch : Bool) (hlive : ∃ o ∈ g.outbounds, g.alive o = true) :
    g.IsAlive (strategyConsistentHashing g touch none key s).outbound := by
  obtain ⟨o, ho, halive⟩ := hlive
  unfold strategyConsistentHashing
  rw [if_neg (length_pos_of_mem ho).ne']
  split
  next i hi =>
    have halive := find?_some hi
    exact (isAlive_offer ..).2 halive
  next =>
    split
    next proxy hproxy =>
      have halive := find?_some hproxy
      exact (isAlive_offer ..).2 halive
    next hnone => exact absurd halive (find?_eq_none.1 hnone o ho)

/-- With a live member, `Unwrap` returns a live one exactly if the strategy looks at one. -/
theorem unwrap_alive_iff (lru : Lru σ) (g : Members α) (strategy : Strategy) (key : UInt64) (touch : Bool) (s : State σ)
    (hlive : ∃ o ∈ g.outbounds, g.alive o = true) :
    (∃ o, (unwrap lru g strategy key touch s).outbound = some o ∧ g.alive o = true) ↔
      FindsAlive lru g strategy key s := by
  rw [← Option.any_eq_true]
  cases strategy with
  | roundRobin =>
    refine iff_of_true ?_ trivial
    obtain ⟨dead, o, rest, -, -, halive, hfind, hplace⟩ := roundRobin_find s hlive
    simp [unwrap, strategyFn, strategyRoundRobin, hfind, hplace, refuses, offer, halive]
  | consistentHashing => exact iff_of_true (consistentHashing_isAlive touch hlive) trivial
  | stickySessions selectIndex =>
    obtain ⟨o, ho, -⟩ := hlive
    exact sticky_isAlive_iff selectIndex (length_pos_of_mem ho)

theorem unwrap_alive_iff_second : ∃ o, (unwrap mapLru secondAlive .consistentHashing 0 true
    { sessions := fun _ => none }).outbound = some o ∧ secondAlive.alive o = true :=
  (unwrap_alive_iff mapLru secondAlive .consistentHashing 0 true { sessions := fun _ => none }
    ⟨1, by decide, by decide⟩).2 trivial

/-- The four picks and the member of the hash are dead. -/
theorem sticky_unwraps_dead : (∃ o ∈ secondAlive.outbounds, secondAlive.alive o = true) ∧
    (unwrap mapLru secondAlive (.stickySessions laterSecond) 0 true { sessions := fun _ => none }).outbound = some 0 ∧
    secondAlive.alive 0 = false := by
  decide +kernel

/-! ## Turns -/

/-- The live members in the order the round-robin comes to them. -/
def turnOrder (g : Members α) (s : State σ) : List α := (g.outbounds.rotate s.idx).filter g.alive

inductive Call (α : Type) where
  | unwrap (touch : Bool)
  | preMatch (matcher : α → Bool)

def Call.touches : Call α → Bool
  | .unwrap touch => touch
  | .preMatch _ => false

def call (lru : Lru σ) (g : Members α) (s : State σ) : UInt64 × Call α → Selection α σ
  | (key, .unwrap touch) => unwrap lru g .roundRobin key touch s
  | (key, .preMatch matcher) => unwrapPreMatch lru g .roundRobin key matcher s

/-- What the touching calls return, in order. -/
def served (lru : Lru σ) (g : Members α) : State σ → List (UInt64 × Call α) → List (Option α)
  | _, [] => []
  | s, (key, .unwrap true) :: calls =>
    (call lru g s (key, .unwrap true)).outbound :: served lru g (call lru g s (key, .unwrap true)).state calls
  | s, c :: calls => served lru g (call lru g s c).state calls

/-- Every pre-match of the calls is refused. -/
def PreMatchesRefused (lru : Lru σ) (g : Members α) : State σ → List (UInt64 × Call α) → Prop
  | _, [] => True
  | s, c :: calls => (∀ matcher, c.2 = .preMatch matcher → (call lru g s c).outbound = none) ∧
      PreMatchesRefused lru g (call lru g s c).state calls

section Turns

variable (lru) (hlive : ∃ o ∈ g.outbounds, g.alive o = true)
include hlive

lemma call_touch (s : State σ) (key : UInt64) :
    (call lru g s (key, .unwrap true)).outbound = (turnOrder g s).head? ∧
      turnOrder g (call lru g s (key, .unwrap true)).state = (turnOrder g s).rotate 1 := by
  obtain ⟨dead, o, rest, heq, hdead, halive, hfind, hplace⟩ := roundRobin_find s hlive
  have hnone : dead.filter g.alive = [] := filter_eq_nil_iff.2 fun x hx => by simp [hdead x hx]
  have horder : turnOrder g s = o :: rest.filter g.alive := by simp [turnOrder, heq, hnone, halive]
  have hcall : call lru g s (key, .unwrap true) =
      offer none (some o) { s with idx := (s.idx + (dead.length + 1)) % g.outbounds.length } := by
    simp [call, unwrap, strategyFn, strategyRoundRobin, hfind, hplace, refuses]
  rw [hcall, horder]
  refine ⟨rfl, ?_⟩
  -- the members up to the one returned go to the end
  have hnext : g.outbounds.rotate ((s.idx + (dead.length + 1)) % g.outbounds.length) = rest ++ (dead ++ [o]) := by
    rw [rotate_mod, ← rotate_rotate, heq, ← singleton_append, ← append_assoc,
      show dead.length + 1 = (dead ++ [o]).length by simp, rotate_append_length_eq]
  simp [turnOrder, offer, hnext, hnone, halive]

lemma call_keeps (s : State σ) {c : Call α} (hc : c ≠ .unwrap true)
    (hrefused : ∀ matcher, c = .preMatch matcher → (call lru g s (key, c)).outbound = none) :
    (call lru g s (key, c)).state = s := by
  obtain ⟨dead, o, rest, -, -, -, hfind, hplace⟩ := roundRobin_find s hlive
  cases c with
  | unwrap touch =>
    cases touch with
    | true => exact absurd rfl hc
    | false => simp [call, unwrap, strategyFn, strategyRoundRobin, hfind, offer]
  | preMatch matcher =>
    have ho := hrefused matcher rfl
    simp only [call, unwrapPreMatch, strategyFn, strategyRoundRobin, hfind, hplace] at ho ⊢
    split
    next => rfl
    next hmatch => simp_all [refuses, offer]

lemma served_skip {c : Call α} (hc : c ≠ .unwrap true)
    (hfirst : ∀ matcher, c = .preMatch matcher → (call lru g s (key, c)).outbound = none)
    (calls : List (UInt64 × Call α)) : served lru g s ((key, c) :: calls) = served lru g s calls := by
  rw [served, call_keeps lru hlive s hc hfirst]
  simpa using hc

section
variable {calls : List (UInt64 × Call α)} (hrefused : PreMatchesRefused lru g s calls)
include hrefused

lemma served_filter_touches : served lru g s (calls.filter (·.2.touches)) = served lru g s calls := by
  induction calls generalizing s with
  | nil => rfl
  | cons c calls ih =>
    obtain ⟨key, c⟩ := c
    obtain ⟨hfirst, hrest⟩ := hrefused
    by_cases hc : c = .unwrap true
    · subst hc
      rw [filter_cons_of_pos rfl, served, served, ih hrest]
    · have hskip : c.touches = false := by
        cases c with
        | unwrap touch => simpa [Call.touches] using hc
        | preMatch matcher => rfl
      rw [call_keeps lru hlive s hc hfirst] at hrest
      rw [filter_cons_of_neg (by simp [hskip]), served_skip lru hlive hc hfirst, ih hrest]

lemma served_getElem {i : Nat} {o : Option α} (h : (served lru g s calls)[i]? = some o) :
    o = ((turnOrder g s).rotate i).head? := by
  induction calls generalizing s i with
  | nil => cases h
  | cons c calls ih =>
    obtain ⟨key, c⟩ := c
    obtain ⟨hfirst, hrest⟩ := hrefused
    by_cases hc : c = .unwrap true
    · subst hc
      obtain ⟨houtbound, horder⟩ := call_touch lru hlive s key
      rw [served] at h
      cases i with
      | zero => rw [← Option.some.inj h, houtbound, rotate_zero]
      | succ i => rw [ih hrest h, horder, rotate_rotate, Nat.add_comm]
    · rw [call_keeps lru hlive s hc hfirst] at hrest
      exact ih hrest (served_skip lru hlive hc hfirst calls ▸ h)

end

end Turns

/-- With `k` members alive, `k` touching calls in a row return each of them once, from every index. Calls that do not
touch and pre-matches that are refused change nothing in between: without them the sequence is the same. -/
theorem round_robin_fair (lru : Lru σ) (g : Members α) (s : State σ) (calls : List (UInt64 × Call α)) (m k : Nat)
    (hlive : (g.outbounds.filter g.alive).length = k) (hk : 1 ≤ k) (hrefused : PreMatchesRefused lru g s calls)
    (hm : m + k ≤ (served lru g s calls).length) :
    (((served lru g s calls).drop m).take k).Perm ((g.outbounds.filter g.alive).map some) ∧
      served lru g s (calls.filter (·.2.touches)) = served lru g s calls := by
  have hsome : ∃ o ∈ g.outbounds, g.alive o = true := by
    obtain ⟨o, ho⟩ := exists_mem_of_length_pos (hlive ▸ hk)
    exact ⟨o, mem_filter.1 ho⟩
  have hperm : (turnOrder g s).Perm (g.outbounds.filter g.alive) := (rotate_perm ..).filter _
  have hlen : (turnOrder g s).length = k := hperm.length_eq.trans hlive
  have hwindow : ((served lru g s calls).drop m).take k = ((turnOrder g s).rotate m).map some := by
    refine ext_getElem (by simp; omega) fun i hi hi' => ?_
    rw [getElem_take, getElem_drop, getElem_map,
      served_getElem lru hsome hrefused (getElem?_eq_getElem _), ← rotate_rotate, head?_rotate,
      getElem?_eq_getElem]
    simpa using hi'
  rw [hwindow]
  exact ⟨((rotate_perm ..).trans hperm).map some, served_filter_touches lru hsome hrefused⟩

def middleDead : Members Nat := ⟨[0, 1, 2], (· ≠ 1)⟩

def mixedCalls : List (UInt64 × Call Nat) :=
  [(0, .unwrap true), (0, .unwrap false), (0, .preMatch fun _ => false), (0, .unwrap true)]

theorem round_robin_fair_from_two :
    ((served mapLru middleDead { sessions := fun _ => none, idx := 2 } mixedCalls).take 2).Perm [some 0, some 2] ∧
      served mapLru middleDead { sessions := fun _ => none, idx := 2 } (mixedCalls.filter (·.2.touches)) =
        [some 2, some 0] :=
  round_robin_fair mapLru middleDead { sessions := fun _ => none, idx := 2 } mixedCalls 0 2 (by decide) (by decide)
    ⟨nofun, nofun, fun _ h => by cases h; rfl, nofun, trivial⟩ (by decide)

end SingBox.LoadBalance
