import SingBox.Dns.Client.Provenance
/-!
# Strategies and checkers on a shared cache

A response is filtered and checked for the call that asks the transport, and
then stored under a key that names neither the strategy nor the checker. Here
is what holds of a client whose calls on one entry agree on them, and what
happens when they do not.
-/
namespace SingBox.Dns
open Exchanges Machine
open Route (DomainStrategy)

/-- The answer of the transport that a result was made from. -/
def Source.answer : Source → Option Msg
  | .asked answer => some answer
  | .cached _ entry => entry.map (·.answer)
  | .made | .rejection _ => none

def Call.question (call : Call) : Option Question := call.message.question.head?

/-- The responses a client makes itself: to a message without a question, and
to a question its strategy has no answer for. -/
def Call.answeredByClient (call : Call) : Bool :=
  call.question.all fun question => strategyRejects call.options.strategy question

lemma filterHints_congr {q q' : Question} (h : q.qtype = q'.qtype) (m : Msg) (strategy : DomainStrategy) :
    filterHints q m strategy = filterHints q' m strategy := by
  simp [filterHints, h]

/-- A response that the client does not make itself comes from an answer that was accepted and filtered for the
call, or for one whose stored response serves the call. -/
lemma Rules.ReturnedOk.answered {R : Rules} {r : Returned} {m : Msg} (h : R.ReturnedOk r) (hm : r.result = .ok m) :
    r.call.answeredByClient = true ∨ ∃ answer question asked call, r.source.answer = some answer ∧
      r.call.question = some question ∧ asked.qtype = question.qtype ∧ R.heard asked answer ∧
      (∀ f, call.checker = some f → rejects f answer = false) ∧
      m.Same (filterHints question answer call.options.strategy) ∧
      (call = r.call ∨ ∃ st, call = st.call ∧ R.served st r.call) := by
  unfold ReturnedOk at h
  split at h
  · left
    rcases h.2 m hm with hnone | ⟨question, hq, hs⟩
    · simp [Call.answeredByClient, Call.question, hnone]
    · simpa [Call.answeredByClient, Call.question, hq] using hs
  · rename_i answer hsource
    obtain ⟨haccepted, question, hq, hheard, hsame⟩ := h.2 m hm
    exact .inr ⟨answer, question, question, r.call, by simp [hsource, Source.answer], hq, rfl, hheard, haccepted, hsame,
      .inl rfl⟩
  · rename_i key entry hsource
    obtain ⟨st, m', question, rfl, hm', hst, hq, -, htype, hsame, hserved⟩ := h
    obtain rfl : m = m' := Except.ok.inj (hm.symm.trans hm')
    refine .inr ⟨st.answer, question, st.key.question, st.call, by simp [hsource, Source.answer], hq, htype, hst.heard,
      hst.accepted, ?_, .inr ⟨st, rfl, hserved⟩⟩
    rw [← filterHints_congr htype]
    exact hsame.trans hst.same
  · obtain ⟨-, -, -, he, -⟩ := h
    cases hm.symm.trans he

/-! ## Strategies -/

/-- What a strategy drops: the hints of one family, or nothing. -/
def hintFilter : DomainStrategy → DomainStrategy
  | .ipv4Only => .ipv4Only
  | .ipv6Only => .ipv6Only
  | .asIS | .preferIPv4 | .preferIPv6 => .asIS

lemma keepsHint_congr {a b : DomainStrategy} (h : hintFilter a = hintFilter b) (x : SvcbValue) :
    keepsHint a x = keepsHint b x := by
  cases a <;> cases b <;> cases x <;> first | rfl | cases h

lemma dropsHints_congr {a b : DomainStrategy} (h : hintFilter a = hintFilter b) : dropsHints a = dropsHints b := by
  cases a <;> cases b <;> first | rfl | cases h

/-- An HTTPS response in the cache is returned only under a strategy that drops
the same hints as the one it was stored under, and HTTPS records stand in the
answers only. -/
def hintRules : Rules where
  served st call := call.question.any (·.qtype = typeHTTPS) →
    hintFilter st.call.options.strategy = hintFilter call.options.strategy
  heard question answer := question.qtype = typeHTTPS → answer.outerHints = []

instance (st : Stored) (call : Call) : Decidable (hintRules.served st call) :=
  inferInstanceAs (Decidable (_ → hintFilter _ = hintFilter _))

instance (question : Question) (answer : Msg) : Decidable (hintRules.heard question answer) :=
  inferInstanceAs (Decidable (_ → _ = []))

instance (rejection : Rejection) (call : Call) : Decidable (hintRules.refused rejection call) := isTrue trivial
instance (call : Call) (answer : Msg) : Decidable (hintRules.refreshed call answer) := isTrue trivial

/-- The hints of a response made from an answer, under a strategy that drops the same as `strategy`. -/
lemma mem_hints_of_same {m answer : Msg} {question : Question} {strategy strategy' : DomainStrategy}
    (hq : question.qtype = typeHTTPS) (houter : answer.outerHints = [])
    (hm : m.Same (filterHints question answer strategy')) (hs : hintFilter strategy' = hintFilter strategy) :
    (∀ x ∈ m.hints, keepsHint strategy x = true) ∧
      (dropsHints strategy = false → ∀ x ∈ answer.hints, x ∈ m.hints) := by
  constructor
  · intro x hx
    rw [hm.mem_hints, Msg.hints, outerHints_filterHints, houter, List.append_nil] at hx
    rw [← keepsHint_congr hs]
    exact mem_hintsOf_filterHints hq hx
  · intro hd x hx
    rw [hm.mem_hints, filterHints_of_not_drops _ (dropsHints_congr hs ▸ hd)]
    exact hx

/-- A response to an HTTPS question has no hint of the family that the strategy rules out, and under another strategy
it has every hint of the answer it was made from. -/
def Returned.FollowsStrategy (r : Returned) : Prop :=
  ∀ m, r.result = .ok m → r.call.question.any (·.qtype = typeHTTPS) = true →
    (r.call.options.strategy = .ipv4Only → ∀ hint, .ipv6Hint hint ∉ m.hints) ∧
    (r.call.options.strategy = .ipv6Only → ∀ hint, .ipv4Hint hint ∉ m.hints) ∧
    (dropsHints r.call.options.strategy = false →
      ∃ answer, r.source.answer = some answer ∧ ∀ x ∈ answer.hints, x ∈ m.hints)

/-- Every HTTPS response follows the strategy it is returned under. -/
theorem https_hints_follow_strategy (options : ClientOptions) (lib : Library) (hlib : lib.Lossless)
    (storeDNS storeRDRC : Bool) (es : List ClientEvent) (s : Exchanges)
    (hrun : run Exchanges.step { client := .start options lib storeDNS storeRDRC } es = some s)
    (hrules : Machine.Along step hintRules.Respected { client := .start options lib storeDNS storeRDRC } es) :
    ∀ r ∈ s.returned, r.FollowsStrategy := by
  intro r hr m hm hhttps
  obtain hmade | ⟨answer, question, asked, call, hanswer, hq, hasked, hheard, -, hsame, hcall⟩ :=
    (run_returned hintRules hlib hrun hrules r hr).answered hm
  · -- a response of the client's own is not one to an HTTPS question
    cases hq : r.call.question with
    | none => simp [hq] at hhttps
    | some question =>
      have hqtype : question.qtype = typeHTTPS := by simpa [hq] using hhttps
      simp [Call.answeredByClient, hq, strategyRejects, hqtype, typeHTTPS, typeA, typeAAAA] at hmade
  have hqtype : question.qtype = typeHTTPS := by simpa [hq] using hhttps
  have hfilter : hintFilter call.options.strategy = hintFilter r.call.options.strategy := by
    obtain rfl | ⟨st, rfl, hserved⟩ := hcall
    · rfl
    · exact hserved hhttps
  obtain ⟨hkeep, hall⟩ := mem_hints_of_same hqtype (hheard (hasked.trans hqtype)) hsame hfilter
  refine ⟨fun hs hint hmem => ?_, fun hs hint hmem => ?_, fun hd => ⟨answer, hanswer, hall hd⟩⟩
  · simpa [hs, keepsHint] using hkeep _ hmem
  · simpa [hs, keepsHint] using hkeep _ hmem

/-- An HTTPS query for a strategy, and an answer with hints of both families. -/
def httpsCall (strategy : DomainStrategy) : Call where
  transport := "remote"
  message := { question := [{ name := "example.com.", qtype := typeHTTPS }] }
  options := { strategy }

def httpsAnswer : Msg where
  response := true
  question := [{ name := "example.com.", qtype := typeHTTPS }]
  answer := [.https { name := "example.com.", rrtype := typeHTTPS, ttl := 60 }
    [.ipv4Hint [.v4 0x01020304#32], .ipv6Hint [.v6 1#128]]]

/-- No message is ever packed by a client with the memory cache. -/
def noLibrary : Library := ⟨fun _ => none, fun _ => none, fun now seconds => now + second * seconds.toNat⟩

lemma httpsAnswer_wellTyped : httpsAnswer.WellTyped := by decide

/-- Two queries one after the other; the transport answers the first. -/
def twoCalls (first second : Call) : List ClientEvent :=
  [.exchange 0 first ⟨0, 0, none⟩, .reply 0 ⟨0, 0, none⟩ (.response httpsAnswer httpsAnswer_wellTyped),
    .exchange 1 second ⟨0, 0, none⟩]

theorem https_hints_follow_strategy_twice :
    ∃ s, run Exchanges.step { client := .start {} noLibrary false false }
        (twoCalls (httpsCall .preferIPv4) (httpsCall .asIS)) = some s ∧ s.returned.length = 2 ∧
      ∀ r ∈ s.returned, r.FollowsStrategy := by
  refine exists_end (by decide +kernel) fun s hs => ?_
  exact https_hints_follow_strategy {} noLibrary nofun false false _ s hs (by decide +kernel)

/-- The second query gets what was filtered for the first one, or what was not. -/
theorem https_hints_of_first_strategy : (run Exchanges.step { client := .start {} noLibrary false false }
      (twoCalls (httpsCall .ipv4Only) (httpsCall .preferIPv4))).map
        (·.returned.map fun r => (r.call.options.strategy, r.result.toOption.map Msg.hints)) =
      some [(.preferIPv4, some [.ipv4Hint [.v4 0x01020304#32]]), (.ipv4Only, some [.ipv4Hint [.v4 0x01020304#32]])] ∧
    (run step { client := .start {} noLibrary false false }
      (twoCalls (httpsCall .preferIPv4) (httpsCall .ipv4Only))).map
        (·.returned.map fun r => (r.call.options.strategy, r.result.toOption.map Msg.hints)) =
      some [(.ipv4Only, some httpsAnswer.hints), (.preferIPv4, some httpsAnswer.hints)] ∧
    SvcbValue.ipv6Hint [.v6 1#128] ∈ httpsAnswer.hints := by
  refine ⟨?_, ?_, ?_⟩ <;> decide +kernel

/-! ## Checkers -/

/-- A call with a checker finds only responses and rejections of calls with the
same checker, and a background refresh with a checker hears no error code. -/
def checkerRules : Rules where
  served st call := ∀ f, call.checker = some f → st.call.checker = some f
  refused rejection call := ∀ f, call.checker = some f → rejection.call.checker = some f
  refreshed call answer := call.checker.isSome → isBadRcode answer = false

lemma rejects_eq_false {f : Msg → Bool} {answer : Msg} (h : rejects f answer = false) :
    isBadRcode answer = false ∧ f answer = true := by
  simpa [rejects] using h

/-- A call with a checker gets a response the client makes itself, or one made
from an answer its checker accepts; and it is refused without asking only for
an answer its checker rejects. -/
def Returned.FollowsChecker (r : Returned) : Prop :=
  ∀ f, r.call.checker = some f →
    (∀ m, r.result = .ok m → r.call.answeredByClient = true ∨
      ∃ answer question strategy, r.source.answer = some answer ∧ r.call.question = some question ∧
        isBadRcode answer = false ∧ f answer = true ∧ m.Same (filterHints question answer strategy)) ∧
    (r.result = .error .rejectedCached → ∃ rejection question, r.source = .rejection (some rejection) ∧
      r.call.question = some question ∧ rejection.key = rejectKey r.call.transport question ∧
        f rejection.answer = false)

/-- Every call is decided by its own checker. -/
theorem checker_decides (options : ClientOptions) (lib : Library) (hlib : lib.Lossless)
    (storeDNS storeRDRC : Bool) (es : List ClientEvent) (s : Exchanges)
    (hrun : run Exchanges.step { client := .start options lib storeDNS storeRDRC } es = some s)
    (hrules : Machine.Along step checkerRules.Respected
      { client := .start options lib storeDNS storeRDRC } es) :
    ∀ r ∈ s.returned, r.FollowsChecker := by
  intro r hr f hf
  have hok := run_returned checkerRules hlib hrun hrules r hr
  refine ⟨fun m hm => ?_, fun he => ?_⟩
  · obtain hmade | ⟨answer, question, asked, call, hanswer, hq, -, -, haccepted, hsame, hcall⟩ := hok.answered hm
    · exact .inl hmade
    have hchecker : call.checker = some f := by
      obtain rfl | ⟨st, rfl, hserved⟩ := hcall
      · exact hf
      · exact hserved f hf
    obtain ⟨hgood, haccepts⟩ := rejects_eq_false (haccepted f hchecker)
    exact .inr ⟨answer, question, _, hanswer, hq, hgood, haccepts, hsame⟩
  unfold Rules.ReturnedOk at hok
  split at hok
  · exact absurd he hok.1
  · exact absurd he hok.1
  · obtain ⟨-, m, -, -, hm, -⟩ := hok
    cases he.symm.trans hm
  · rename_i entry hsource
    obtain ⟨rejection, question, rfl, -, hrej, hq, hkey, hrefused⟩ := hok
    refine ⟨rejection, question, hsource, hq, hkey, ?_⟩
    obtain ⟨g, hg, hrejects⟩ := hrej.rejected
    obtain rfl : g = f := Option.some.inj (hg.symm.trans (hrefused f hf))
    have hgood : isBadRcode rejection.answer = false := hrej.good.elim id fun h => h (by simp [hg])
    simpa [rejects, hgood] using hrejects

def addressCall (address : Addr) : Call :=
  { httpsCall .asIS with checker := some fun m => (responseAddresses (some m)).contains address }

theorem checker_decides_twice : ∃ s, run Exchanges.step { client := .start {} noLibrary false true }
        (twoCalls (addressCall (.v6 1#128)) (addressCall (.v6 1#128))) = some s ∧ s.returned.length = 2 ∧
      ∀ r ∈ s.returned, r.FollowsChecker := by
  refine exists_end (by decide +kernel) fun s hs => checker_decides {} noLibrary nofun false true _ s hs ?_
  refine ⟨fun question _ => ⟨fun st hst => absurd (mem_of_latest hst).1 List.not_mem_nil,
    fun rejection hrej => absurd (mem_of_latestRejection hrej).1 List.not_mem_nil⟩,
    fun s₁ h₁ => ⟨fun _ _ _ _ => trivial, fun s₂ h₂ => ⟨?_, fun _ _ => trivial⟩⟩⟩
  -- when the second call begins, all that is stored was stored for its checker
  have hstored : s₂.stored.map (·.call.checker) = [(addressCall (.v6 1#128)).checker] ∧ s₂.rejected = [] := by
    cases h₁
    cases h₂
    exact ⟨rfl, rfl⟩
  refine fun question _ => ⟨fun st hst _ f hf => ?_, fun rejection hrej => ?_⟩
  · have := List.mem_map_of_mem (f := (·.call.checker)) (mem_of_latest hst).1
    rw [hstored.1, List.mem_singleton] at this
    exact this.trans hf
  · exact absurd (hstored.2 ▸ (mem_of_latestRejection hrej).1) List.not_mem_nil

/-- Two calls on one transport with checkers that disagree. First the response
stored for one is returned to the other, then the rejection saved for one
refuses the other; last, a response the client makes itself is not checked. -/
theorem checker_bypassed : (run Exchanges.step { client := .start {} noLibrary false true }
      (twoCalls (addressCall (.v6 1#128)) (addressCall (.v6 2#128)))).map
        (·.returned.map fun r => r.result.toOption.map fun m => r.call.checker.map (· m)) =
      some [some (some false), some (some true)] ∧
    ((run step { client := .start {} noLibrary false true }
      (twoCalls (addressCall (.v6 2#128)) (addressCall (.v6 1#128)))).map
        (·.returned.map fun r => (decide (r.result.toOption = none), r.call.checker.map (· httpsAnswer)))) =
      some [(true, some true), (true, some false)] ∧
    (run step { client := .start {} noLibrary false true }
      [.exchange 0 { addressCall (.v6 2#128) with
        message := { question := [{ name := "example.com.", qtype := typeA }] }
        options := { strategy := .ipv6Only } } ⟨0, 0, none⟩]).map
        (·.returned.map fun r => r.result.toOption.map fun m => r.call.checker.map (· m)) =
      some [some (some false)] := by
  refine ⟨?_, ?_, ?_⟩ <;> decide +kernel

/-! ## Provenance -/

/-- Where everything comes from that a client returns, whatever its calls, their interleaving and the caches. -/
theorem responses_traced (options : ClientOptions) (lib : Library) (hlib : lib.Lossless) (storeDNS storeRDRC : Bool)
    (es : List ClientEvent) :
    ∀ s ∈ run Exchanges.step { client := .start options lib storeDNS storeRDRC } es, ∀ r ∈ s.returned,
      Rules.ReturnedOk {} r := by
  intro s hrun
  refine run_returned {} hlib hrun (along_of_forall (fun e _ s => ?_) _)
  cases e <;> simp [Rules.Respected, Rules.Begins, Rules.Looks]

theorem responses_traced_twice : ∃ s ∈ run Exchanges.step { client := .start {} noLibrary false true }
    (twoCalls (addressCall (.v6 1#128)) (addressCall (.v6 2#128))), s.returned.length = 2 ∧
      ∀ r ∈ s.returned, Rules.ReturnedOk {} r := by
  exact exists_end (by decide +kernel) fun s hs => responses_traced {} noLibrary nofun false true _ s hs

end SingBox.Dns
