import SingBox.Lib.Machine
/-!
# Selectors over providers

A selector takes its members from outbounds of its own and from providers,
whose nodes come and go. `onProviderUpdated` runs after each change of a
provider; a callback that returns an error leaves the members and the
selection as they were.
-/
namespace SingBox.Selector

/-- An outbound; a node that comes back under its tag is another outbound. -/
structure Outbound where
  tag : String
  id : Nat
  deriving DecidableEq

/-- The configuration: the outbounds of the direct tags, the provider tags, the filter of the two expressions,
and the outbound that stands in for an empty list. -/
structure Config where
  direct : List Outbound
  providerTags : List String
  keeps : Outbound → Bool
  compatible : Outbound
  defaultTag : String

/-- `changed` marks the providers whose last change no callback has followed. -/
structure State where
  nodes : String → List Outbound
  outboundsCache : String → Option (List Outbound)
  outbounds : List Outbound
  selected : Outbound
  changed : String → Bool

section Code
variable (g : Config)

def withDefault (l : List Outbound) : List Outbound := if l = [] then [g.compatible] else l

/-- The members for the given nodes of each provider. -/
def members (nodes : String → List Outbound) : List Outbound :=
  withDefault g (g.direct ++ g.providerTags.flatMap nodes)

/-- The nodes a callback takes from a provider: those of the cache, unless the provider was updated or has none there. -/
def takenNodes (s : State) (updatedTag providerTag : String) : List Outbound :=
  if providerTag = updatedTag then (s.nodes providerTag).filter g.keeps
  else (s.outboundsCache providerTag).getD ((s.nodes providerTag).filter g.keeps)

def collectProviderOutbounds (s : State) (updatedTag : String) : List Outbound × (String → Option (List Outbound)) :=
  (members g (takenNodes g s updatedTag), fun providerTag =>
    if providerTag ∈ g.providerTags then some (takenNodes g s updatedTag providerTag) else s.outboundsCache providerTag)

/-- The map by tag: a later outbound replaces an earlier one. -/
def byTag (outbounds : List Outbound) (tag : String) : Option Outbound := outbounds.reverse.find? (·.tag = tag)

/-- The tags `outboundSelect` tries: the stored selection, the previous one, and the default or else the first. -/
def candidates (cached : String) (selected : Option Outbound) (outbounds : List Outbound) : List String :=
  [cached].filter (· ≠ "") ++ selected.toList.map (·.tag) ++
    if g.defaultTag ≠ "" then [g.defaultTag] else (outbounds.map (·.tag)).take 1

/-- `outboundSelect`, `none` for the error of a missing default. -/
def outboundSelect (cached : String) (selected : Option Outbound) (outbounds : List Outbound) : Option Outbound :=
  (candidates g cached selected outbounds).findSome? (byTag outbounds)

inductive Event where
  | change (provider : String) (nodes : List Outbound)
  | callback (provider cached : String)
  | selectOutbound (tag : String)

def step (s : State) : Event → Option State
  | .change provider nodes =>
    some { s with
      nodes := Function.update s.nodes provider nodes
      changed := Function.update s.changed provider true }
  | .callback provider cached =>
    if provider ∉ g.providerTags then none
    else
      let (outbounds, outboundsCache) := collectProviderOutbounds g s provider
      let changed := Function.update s.changed provider false
      match outboundSelect g cached (some s.selected) outbounds with
      | none => some { s with changed }
      | some selected => some { s with outboundsCache, outbounds, selected, changed }
  | .selectOutbound tag =>
    match byTag s.outbounds tag with
    | none => some s
    | some selected => some { s with selected }

/-- `Start`, over providers that have the given nodes by then. -/
def start (nodes : String → List Outbound) (cached : String) : Option State :=
  let outbounds := withDefault g g.direct
  match outboundSelect g cached none outbounds with
  | none => none
  | some selected =>
    some { nodes, outboundsCache := fun _ => none, outbounds, selected, changed := fun provider => !(nodes provider).isEmpty }

end Code

/-! ## The selection -/

variable {g : Config} {s s' : State} {l : List Outbound} {cached tag : String} {o : Outbound}

lemma byTag_mem (h : byTag l tag = some o) : o ∈ l :=
  List.mem_reverse.1 (List.mem_of_find?_eq_some h)

lemma outboundSelect_mem {selected : Option Outbound} (h : outboundSelect g cached selected l = some o) : o ∈ l := by
  obtain ⟨tag, -, ho⟩ := List.exists_of_findSome?_eq_some h
  exact byTag_mem ho

/-- The default, if there is one, is among the members whenever neither the stored nor the previous selection is. -/
def Selectable (g : Config) (s : State) : Event → Prop
  | .change .. | .selectOutbound _ => True
  | .callback provider cached =>
    let outbounds := (collectProviderOutbounds g s provider).1
    g.defaultTag = "" ∨ (cached ≠ "" ∧ cached ∈ outbounds.map (·.tag)) ∨ s.selected.tag ∈ outbounds.map (·.tag) ∨
      g.defaultTag ∈ outbounds.map (·.tag)

structure Inv (g : Config) (s : State) : Prop where
  selected : s.selected ∈ s.outbounds
  outbounds : s.outbounds = members g fun provider => (s.outboundsCache provider).getD []
  cache : ∀ provider ∈ g.providerTags, s.changed provider = false →
    (s.outboundsCache provider).getD [] = (s.nodes provider).filter g.keeps

lemma byTag_ne_none (h : tag ∈ l.map (·.tag)) : byTag l tag ≠ none := by
  obtain ⟨o, ho, rfl⟩ := List.mem_map.1 h
  intro hnone
  simpa using List.find?_eq_none.1 hnone o (List.mem_reverse.2 ho)

lemma members_congr {nodes nodes' : String → List Outbound} (h : ∀ p ∈ g.providerTags, nodes p = nodes' p) :
    members g nodes = members g nodes' := by
  rw [members, members, List.flatMap_congr h]

lemma collected_cache {updatedTag p : String} (hp : p ∈ g.providerTags) :
    (collectProviderOutbounds g s updatedTag).2 p = some (takenNodes g s updatedTag p) := if_pos hp

lemma members_ne_nil (nodes : String → List Outbound) : members g nodes ≠ [] := by
  unfold members withDefault
  split
  · simp
  · assumption

/-- A callback that is selectable selects one of the new members. -/
lemma outboundSelect_ne_none {provider : String} (h : Selectable g s (.callback provider cached)) :
    outboundSelect g cached (some s.selected) (collectProviderOutbounds g s provider).1 ≠ none := by
  have hne : (collectProviderOutbounds g s provider).1 ≠ [] := members_ne_nil _
  simp only [Selectable] at h
  generalize (collectProviderOutbounds g s provider).1 = l at h hne
  unfold outboundSelect
  rw [ne_eq, List.findSome?_eq_none_iff]
  intro hnone
  have hfound {tag : String} (hmem : tag ∈ candidates g cached (some s.selected) l) : tag ∉ l.map (·.tag) :=
    fun h => byTag_ne_none h (hnone tag hmem)
  rcases h with h | ⟨hcached, h⟩ | h | h
  · cases l with
    | nil => exact hne rfl
    | cons o l => exact @hfound o.tag (by simp [candidates, h]) (by simp)
  · exact hfound (by simp [candidates, hcached]) h
  · exact hfound (by simp [candidates]) h
  by_cases hdefault : g.defaultTag = ""
  · cases l with
    | nil => exact hne rfl
    | cons o l => exact @hfound o.tag (by simp [candidates, hdefault]) (by simp)
  · exact hfound (by simp [candidates, hdefault]) h

lemma inv_step (s : State) (e : Event) (s' : State) (h : Inv g s) (he : Selectable g s e) (hs : step g s e = some s') :
    Inv g s' := by
  cases e with
  | change provider nodes =>
    cases hs
    refine ⟨h.selected, h.outbounds, fun p hp hclean => ?_⟩
    have hne : p ≠ provider := by
      rintro rfl
      simp at hclean
    simp only [Function.update_of_ne hne] at hclean ⊢
    exact h.cache p hp hclean
  | selectOutbound tag =>
    simp only [step] at hs
    split at hs
    next => exact Option.some.inj hs ▸ h
    next selected hselected => exact Option.some.inj hs ▸ ⟨byTag_mem hselected, h.outbounds, h.cache⟩
  | callback provider cached =>
    simp only [step] at hs
    split at hs
    next => cases hs
    next =>
      split at hs
      next hnone => exact absurd hnone (outboundSelect_ne_none he)
      next selected hselected =>
        cases hs
        refine ⟨outboundSelect_mem hselected, ?_, fun p hp hclean => ?_⟩
        · refine members_congr fun p hp => ?_
          dsimp only
          rw [collected_cache hp, Option.getD_some]
        dsimp only at hclean ⊢
        rw [collected_cache hp, Option.getD_some, takenNodes]
        split
        next => rfl
        next hne =>
          have hcache := h.cache p hp (by simpa [Function.update_of_ne hne] using hclean)
          cases hp : s.outboundsCache p with
          | none => rfl
          | some l => simpa [hp] using hcache

/-- While every callback finds the default among the new members when it comes to it: once each change of a provider has
been followed by its callback, the selection is one of the members computed from the providers' current nodes. -/
theorem selection_is_member (g : Config) (nodes : String → List Outbound) (cached : String) (s₀ s : State)
    (hstart : start g nodes cached = some s₀) (es : List Event) (hes : Machine.Along (step g) (Selectable g) s₀ es)
    (hrun : Machine.run (step g) s₀ es = some s) (hclean : ∀ provider ∈ g.providerTags, s.changed provider = false) :
    s.selected ∈ members g fun provider => (s.nodes provider).filter g.keeps := by
  have hinv₀ : Inv g s₀ := by
    simp only [start] at hstart
    split at hstart
    next => cases hstart
    next selected hselected =>
      cases hstart
      refine ⟨outboundSelect_mem hselected, ?_, fun p _ hclean => ?_⟩
      · have hnone : g.providerTags.flatMap (fun _ => ([] : List Outbound)) = [] := List.flatMap_eq_nil_iff.2 fun _ _ => rfl
        simp [members, hnone]
      · simpa using congrArg (List.filter g.keeps) (by simpa using hclean : nodes p = []).symm
  have hinv : Inv g s := Machine.run_inv inv_step hinv₀ hes hrun
  rw [← members_congr fun p hp => hinv.cache p hp (hclean p hp), ← hinv.outbounds]
  exact hinv.selected

def overProvider (defaultTag : String) : Config where
  direct := [⟨"x", 0⟩]
  providerTags := ["p"]
  keeps _ := true
  compatible := ⟨"Compatible", 0⟩
  defaultTag := defaultTag

def nodeRemoved : List Event :=
  [.change "p" [⟨"a", 1⟩], .callback "p" "x", .selectOutbound "a", .change "p" [], .callback "p" "a"]

theorem selection_is_member_removed : ∃ s₀ s, start (overProvider "") (fun _ => []) "x" = some s₀ ∧
    Machine.run (step (overProvider "")) s₀ nodeRemoved = some s ∧
    s.selected ∈ members (overProvider "") fun provider => (s.nodes provider).filter (overProvider "").keeps :=
  ⟨_, _, rfl, rfl, selection_is_member (overProvider "") (fun _ => []) "x" _ _ rfl nodeRemoved
    (Machine.along_of_forall (fun e _ s => by cases e <;> first | trivial | exact .inl rfl) _) rfl (by decide +kernel)⟩

/-- The provider drops the selected node while it lacks the default: the callback fails, and the selection stays. -/
theorem selection_not_member : ∃ s₀ s, start (overProvider "d") (fun _ => []) "x" = some s₀ ∧
    Machine.run (step (overProvider "d")) s₀ nodeRemoved = some s ∧ s.changed "p" = false ∧
    s.selected ∉ members (overProvider "d") fun provider => (s.nodes provider).filter (overProvider "d").keeps :=
  ⟨_, _, rfl, rfl, by decide +kernel, by decide +kernel⟩

end SingBox.Selector
