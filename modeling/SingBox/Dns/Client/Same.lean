import SingBox.Dns.Client.Exchange
/-!
# Responses that say the same

The client rewrites lifetimes, rotates address records, sets its own ID and
may take an OPT record out. `Msg.Same` is what all of this keeps; the hints of
HTTPS records are part of it.
-/
namespace SingBox.Dns
open List RR
open Route (DomainStrategy)
variable {a b : Msg} {question : Question} {strategy : DomainStrategy}

@[simp] lemma RR.hdr_mapHdr (f : RRHeader → RRHeader) (rr : RR) : (rr.mapHdr f).hdr = f rr.hdr := by
  cases rr <;> rfl

@[simp] lemma RR.mapHdr_mapHdr (f g : RRHeader → RRHeader) (rr : RR) :
    (rr.mapHdr f).mapHdr g = rr.mapHdr (g ∘ f) := by
  cases rr <;> rfl

def RR.untimed (rr : RR) : RR := rr.mapHdr fun h => { h with ttl := 0 }
def isOPTType (rr : RR) : Bool := rr.hdr.rrtype = typeOPT

/-- Two responses with the same code and the same records up to lifetimes, the
order of the answers, and OPT records. -/
structure Msg.Same (a b : Msg) : Prop where
  rcode : a.rcode = b.rcode
  answer : (a.answer.map untimed).Perm (b.answer.map untimed)
  ns : a.ns.map untimed = b.ns.map untimed
  extra : (a.extra.filter (!isOPTType ·)).map untimed = (b.extra.filter (!isOPTType ·)).map untimed

namespace Msg.Same

lemma refl (m : Msg) : m.Same m := ⟨rfl, .refl _, rfl, rfl⟩
lemma symm (h : a.Same b) : b.Same a := ⟨h.rcode.symm, h.answer.symm, h.ns.symm, h.extra.symm⟩

lemma trans {c : Msg} (h : a.Same b) (h' : b.Same c) : a.Same c :=
  ⟨h.rcode.trans h'.rcode, h.answer.trans h'.answer, h.ns.trans h'.ns, h.extra.trans h'.extra⟩

end Msg.Same

/-! ## Lifetimes -/

@[simp] lemma RR.untimed_normalizeTTL (t : UInt32) (rr : RR) : (rr.normalizeTTL t).untimed = rr.untimed := by
  unfold normalizeTTL
  split
  · rfl
  rw [untimed, mapHdr_mapHdr]
  rfl

@[simp] lemma RR.isOPTType_normalizeTTL (t : UInt32) (rr : RR) : isOPTType (rr.normalizeTTL t) = isOPTType rr := by
  unfold normalizeTTL
  split
  · rfl
  · simp [isOPTType]

lemma normalizeTTL_same (m : Msg) (t : UInt32) : (normalizeTTL m t).Same m where
  rcode := rfl
  answer := by simp [normalizeTTL, Msg.mapRecords, Function.comp_def]
  ns := by simp [normalizeTTL, Msg.mapRecords, Function.comp_def]
  extra := by simp [normalizeTTL, Msg.mapRecords, Function.comp_def, filter_map]

/-! ## Round robin -/

lemma reverseRotateSlice_perm {α : Type} (l : List α) (steps : UInt32) : (reverseRotateSlice l steps).Perm l := by
  unfold reverseRotateSlice
  split
  · exact .refl l
  · exact perm_append_comm.trans (.of_eq (take_append_drop ..))

/-- Rotating the records of one type only reorders answers whose records of that type are in `found`. -/
lemma rotateAnswers_perm {isType : RR → Bool} {rrType : UInt16} (index : UInt32) {found answer : List RR}
    (hfound : (found.filter isType).Perm (answer.filter isType))
    (htype : ∀ rr ∈ answer, isType rr = true ↔ rr.hdr.rrtype = rrType) :
    (rotateAnswers isType rrType index found answer).2.Perm answer := by
  simp only [rotateAnswers]
  split
  · have hrest : removeAnswersOfType answer rrType = answer.filter (!isType ·) := by
      refine filter_congr fun rr hrr => ?_
      rw [Bool.eq_iff_iff]
      simp [← htype rr hrr]
    rw [hrest]
    refine ((List.Perm.refl _).append ((reverseRotateSlice_perm ..).trans hfound)).trans ?_
    exact perm_append_comm.trans (filter_append_perm isType answer)
  · exact .refl _

variable {rr : RR} {m : Msg}

lemma RR.WellTyped.isA (h : rr.WellTyped) : rr.isA = true ↔ rr.hdr.rrtype = typeA := by
  cases rr <;> simp_all [RR.WellTyped, isA, hdr, typeA, typeAAAA, typeHTTPS, typeCNAME, typeSOA, typeOPT]

lemma RR.WellTyped.isAAAA (h : rr.WellTyped) : rr.isAAAA = true ↔ rr.hdr.rrtype = typeAAAA := by
  cases rr <;> simp_all [RR.WellTyped, isAAAA, hdr, typeA, typeAAAA, typeHTTPS, typeCNAME, typeSOA, typeOPT]

lemma Msg.WellTyped.answer (h : m.WellTyped) : ∀ rr ∈ m.answer, rr.WellTyped :=
  fun rr hrr => h rr (by simp [hrr])

lemma applyRoundRobin_perm (r : Rotation) (h : m.WellTyped) : (applyRoundRobin r m).2.answer.Perm m.answer := by
  have h4 : (rotateAnswers isA typeA r.ipv4Index m.answer m.answer).2.Perm m.answer :=
    rotateAnswers_perm _ (.refl _) fun rr hrr => (h.answer rr hrr).isA
  exact (rotateAnswers_perm _ (h4.symm.filter _) fun rr hrr => (h.answer rr (h4.subset hrr)).isAAAA).trans h4

lemma applyRoundRobin_same (r : Rotation) (h : m.WellTyped) : (applyRoundRobin r m).2.Same m :=
  ⟨rfl, (applyRoundRobin_perm r h).map _, rfl, rfl⟩

/-! ## EDNS0 and ID -/

lemma setId_same (m : Msg) (id : UInt16) : ({ m with id := id } : Msg).Same m := ⟨rfl, .refl _, rfl, rfl⟩

lemma matchEdns0_same (request m : Msg) : (matchEdns0 request m).Same m := by
  have hfilter : (m.extra.filter fun it => it.hdr.rrtype ≠ typeOPT).filter (!isOPTType ·) =
      m.extra.filter (!isOPTType ·) := by
    rw [filter_filter]
    refine filter_congr fun rr _ => ?_
    simp [isOPTType]
  unfold matchEdns0
  split
  · exact .refl m
  split
  · exact ⟨rfl, .refl _, rfl, by rw [hfilter]⟩
  split
  · refine ⟨rfl, .refl _, rfl, ?_⟩
    simp only [setEdns0, filter_append, hfilter]
    simp [isOPTType, hdr]
  · exact .refl m

/-! ## Typing -/

lemma RR.WellTyped.mapHdr (h : rr.WellTyped) {f : RRHeader → RRHeader}
    (hf : ∀ h, (f h).rrtype = h.rrtype) : (rr.mapHdr f).WellTyped := by
  cases rr <;> simp_all [RR.WellTyped, mapHdr]

lemma RR.WellTyped.normalizeTTL (h : rr.WellTyped) (t : UInt32) : (rr.normalizeTTL t).WellTyped := by
  unfold RR.normalizeTTL
  split
  · exact h
  · exact h.mapHdr fun _ => rfl

lemma normalizeTTL_typed (h : m.WellTyped) (t : UInt32) : (normalizeTTL m t).WellTyped := by
  intro rr hrr
  obtain ⟨rr₀, hrr₀, rfl⟩ : ∃ rr₀ ∈ m.answer ++ m.ns ++ m.extra, rr₀.normalizeTTL t = rr := by
    simpa [Dns.normalizeTTL, Msg.mapRecords, ← map_append] using hrr
  exact (h rr₀ hrr₀).normalizeTTL t

lemma RR.WellTyped.filterHints (h : rr.WellTyped) (strategy : DomainStrategy) :
    (rr.filterHints strategy).WellTyped := by
  cases rr <;> exact h

lemma filterHints_typed (h : m.WellTyped) (question : Question) (strategy : DomainStrategy) :
    (filterHints question m strategy).WellTyped := by
  unfold Dns.filterHints
  split
  · intro rr hrr
    simp only [mem_append, mem_map] at hrr
    rcases hrr with (⟨rr₀, hrr₀, rfl⟩ | hrr) | hrr
    · exact (h rr₀ (by simp [hrr₀])).filterHints strategy
    · exact h rr (by simp [hrr])
    · exact h rr (by simp [hrr])
  · exact h

lemma stripDNSPadding_typed (h : m.WellTyped) : (stripDNSPadding m).WellTyped := by
  intro rr hrr
  simp only [stripDNSPadding, mem_append, mem_map] at hrr
  rcases hrr with (hrr | hrr) | ⟨rr₀, hrr₀, rfl⟩
  · exact h rr (by simp [hrr])
  · exact h rr (by simp [hrr])
  have := h rr₀ (by simp [hrr₀])
  cases rr₀ <;> exact this

lemma exchangeToTransport_typed {message answer : Msg} {reply : TransportReply}
    (h : exchangeToTransport message reply = .ok answer) : answer.WellTyped := by
  cases reply with
  | response m typed =>
    cases h
    exact stripDNSPadding_typed typed
  | rcode rcode =>
    cases h
    simp [Msg.WellTyped, fixedResponseStatus]
  | failed err => cases h

/-! ## Hints -/

def RR.parameters : RR → List SvcbValue
  | .https _ value => value
  | _ => []

def SvcbValue.isHint : SvcbValue → Bool
  | .ipv4Hint _ | .ipv6Hint _ => true
  | .other _ => false

def hintsOf (records : List RR) : List SvcbValue := (records.flatMap parameters).filter SvcbValue.isHint
def Msg.outerHints (m : Msg) : List SvcbValue := hintsOf m.ns ++ hintsOf (m.extra.filter (!isOPTType ·))
def Msg.hints (m : Msg) : List SvcbValue := hintsOf m.answer ++ m.outerHints

@[simp] lemma RR.parameters_untimed (rr : RR) : rr.untimed.parameters = rr.parameters := by cases rr <;> rfl

lemma hintsOf_untimed (records : List RR) : hintsOf (records.map untimed) = hintsOf records := by
  simp [hintsOf, flatMap_map]

lemma mem_hintsOf_perm {l l' : List RR} (h : (l.map untimed).Perm (l'.map untimed)) (x : SvcbValue) :
    x ∈ hintsOf l ↔ x ∈ hintsOf l' := by
  rw [← hintsOf_untimed l, ← hintsOf_untimed l']
  exact ((h.flatMap_right parameters).filter _).mem_iff

lemma Msg.Same.mem_hints (h : a.Same b) (x : SvcbValue) : x ∈ a.hints ↔ x ∈ b.hints := by
  have hns : hintsOf a.ns = hintsOf b.ns := by rw [← hintsOf_untimed, h.ns, hintsOf_untimed]
  have hextra : hintsOf (a.extra.filter (!isOPTType ·)) = hintsOf (b.extra.filter (!isOPTType ·)) := by
    rw [← hintsOf_untimed, h.extra, hintsOf_untimed]
  simp only [Msg.hints, Msg.outerHints, mem_append, hns, hextra, mem_hintsOf_perm h.answer]

def dropsHints (strategy : DomainStrategy) : Bool := strategy = .ipv4Only || strategy = .ipv6Only

lemma filterHints_of_not_drops (m : Msg) (h : dropsHints strategy = false) : filterHints question m strategy = m := by
  have h' : (strategy = .ipv4Only || strategy = .ipv6Only : Bool) = false := h
  simp [filterHints, h']

lemma outerHints_filterHints (question : Question) (m : Msg) (strategy : DomainStrategy) :
    (filterHints question m strategy).outerHints = m.outerHints := by
  unfold filterHints
  split <;> rfl

lemma mem_hintsOf_filterHints {x : SvcbValue}
    (hq : question.qtype = typeHTTPS) (hx : x ∈ hintsOf (filterHints question m strategy).answer) :
    keepsHint strategy x = true := by
  unfold filterHints at hx
  split at hx
  · simp only [hintsOf, mem_filter, mem_flatMap, mem_map] at hx
    obtain ⟨⟨rr, ⟨rr₀, -, rfl⟩, hx⟩, -⟩ := hx
    cases rr₀ with
    | https h value => exact (mem_filter.1 hx).2
    | _ => simp [RR.filterHints, RR.parameters] at hx
  · rename_i hd
    have hd : strategy ≠ .ipv4Only ∧ strategy ≠ .ipv6Only := by simpa [hq] using hd
    cases x <;> simp [keepsHint, hd]

end SingBox.Dns
