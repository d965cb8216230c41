import SingBox.Lib.Machine
import SingBox.Provider.Update
/-!
# Dependencies of provider nodes

After an update every node of a provider finds the nodes its running options
name, unless a failed replacement left an old node behind whose dependency is
gone, or a new node missing that others depend on.
-/
namespace SingBox.Provider
open List Function
open DepthFirst (Sorted Settled order_sorted order_subset order_ne_exhausted)
open Manager
variable {dep tag : String} {m m' : Manager} {kind : Kind}

/-! ## Tags -/

lemma uniqueTag_not_mem (seen : List String) (base : String) : uniqueTag seen base ∉ seen := by
  unfold uniqueTag
  set candidates := base :: (range seen.length).map fun n => base ++ " (" ++ toString (n + 2) ++ ")" with hc
  have hnodup : candidates.Nodup := by
    refine nodup_cons.2 ⟨fun hmem => ?_, List.Nodup.map (fun a b hab => ?_) nodup_range⟩
    · obtain ⟨n, -, hn⟩ := mem_map.1 hmem
      have := congrArg String.length hn
      simp only [String.length_append] at this
      have hlen : " (".length = 2 := rfl
      omega
    have hrepr : (a + 2).repr = (b + 2).repr := (String.append_right_inj _).1 ((String.append_left_inj _).1 hab)
    have hdigits := congrArg String.toList hrepr
    rw [Nat.toList_repr, Nat.toList_repr] at hdigits
    have := congrArg (Nat.ofDigitChars 10 · 0) hdigits
    simpa only [Nat.ofDigitChars_ten_toDigits, Nat.add_right_cancel_iff] using this
  -- more candidates than tags have been seen
  obtain ⟨c, hcmem, hcseen⟩ : ∃ c ∈ candidates, c ∉ seen := by
    by_contra hall
    have hsub : candidates ⊆ seen := fun c hmem => not_not.1 fun hnot => hall ⟨c, hmem, hnot⟩
    have := (hnodup.subperm hsub).length_le
    simp only [hc, length_cons, length_map, length_range] at this
    omega
  cases hfind : candidates.find? (· ∉ seen) with
  | none =>
    have := find?_eq_none.1 hfind c hcmem
    simp [hcseen] at this
  | some tag => simpa using find?_some hfind

lemma resolveTags_nodup (providerTag : String) (kind : Kind) (opts : List NodeOptions) (i : Nat)
    (seen : List String) : ((resolveTags providerTag kind i seen opts).map (·.tag)).Nodup ∧
      (∀ node ∈ resolveTags providerTag kind i seen opts, node.tag ∉ seen) ∧
      ∀ node ∈ resolveTags providerTag kind i seen opts, node.kind = kind := by
  induction opts generalizing i seen with
  | nil => simp [resolveTags]
  | cons o opts ih =>
    obtain ⟨hn, hs, hk⟩ := ih (i + 1) (seen ++ [uniqueTag seen (baseTag providerTag kind i o)])
    simp only [resolveTags, map_cons, nodup_cons, forall_mem_cons]
    refine ⟨⟨fun hmem => ?_, hn⟩, ⟨uniqueTag_not_mem _ _, fun node hnode hmem => ?_⟩, trivial, hk⟩
    · obtain ⟨node, hnode, heq⟩ := mem_map.1 hmem
      exact hs node hnode (by simp [heq])
    · exact hs node hnode (mem_append_left _ hmem)

lemma collectNodes_nodup {providerTag : String} {u : Update} {nodes : List UpdateNode}
    (h : collectNodes providerTag u = .ok nodes) : (nodes.map (·.tag)).Nodup := by
  refine DepthFirst.foldlM_inv (I := fun nodes => (nodes.map (·.tag)).Nodup) (fun node _ nodes nodes' hn hf => ?_)
    (resolveTags_nodup providerTag .outbound u.outbounds 0 []).1 h
  split at hf
  · cases hf
  next hnew =>
    rw [← Except.ok.inj hf, map_append, nodup_append]
    refine ⟨hn, nodup_singleton _, fun tag htag tag' htag' heq => hnew ?_⟩
    obtain ⟨other, hother, rfl⟩ := mem_map.1 htag
    simp only [map_cons, map_nil, mem_singleton] at htag'
    exact any_eq_true.2 ⟨other, hother, by simpa [heq] using htag'⟩

section Lookup
variable {nodes : List UpdateNode} {tag : String} {node : UpdateNode}

lemma lookup_some (h : lookup nodes tag = some node) : node ∈ nodes ∧ node.tag = tag :=
  ⟨mem_of_find?_eq_some h, by simpa using find?_some h⟩

lemma lookup_isSome : (lookup nodes tag).isSome ↔ tag ∈ nodes.map (·.tag) := by simp [lookup]

lemma lookup_of_mem (hn : (nodes.map (·.tag)).Nodup) (h : node ∈ nodes) : lookup nodes node.tag = some node := by
  cases hl : lookup nodes node.tag with
  | none =>
    have := lookup_isSome.2 (mem_map_of_mem h)
    rw [hl] at this
    cases this
  | some other =>
    obtain ⟨hmem, htag⟩ := lookup_some hl
    rw [inj_on_of_nodup_map hn hmem h htag]

lemma map_filterMap_lookup {tags : List String} (h : tags ⊆ nodes.map (·.tag)) :
    (tags.filterMap (lookup nodes)).map (·.tag) = tags := by
  induction tags with
  | nil => rfl
  | cons tag tags ih =>
    obtain ⟨htag, h⟩ := cons_subset.1 h
    obtain ⟨node, hnode⟩ := Option.isSome_iff_exists.1 (lookup_isSome.2 htag)
    rw [filterMap_cons_some hnode, map_cons, ih h, (lookup_some hnode).2]

end Lookup

/-! ## The order -/

section Order
variable {a : Adapter} {m : Manager} {u : Update} {nodes ordered : List UpdateNode}

/-- What the ordering phase has checked. -/
structure Checked (a : Adapter) (m : Manager) (nodes ordered : List UpdateNode) : Prop where
  nodup : (nodes.map (·.tag)).Nodup
  ordered_nodup : (ordered.map (·.tag)).Nodup
  mem : ∀ node, node ∈ ordered ↔ node ∈ nodes
  dependencies : ∀ node ∈ nodes, ∀ dep ∈ node.options.dependencies, dep ∈ nodes.map (·.tag) ∨
    (m.outbound dep).isSome ∧ ∀ kind, a.applied kind dep = none

lemma graph_inside_true (h : (graph a m nodes).inside dep = .ok true) : dep ∈ nodes.map (·.tag) := by
  simp only [graph] at h
  split at h
  next hin => exact lookup_isSome.1 hin
  · split at h
    · cases h
    · split at h <;> cases h

lemma graph_inside_false (h : (graph a m nodes).inside dep = .ok false) :
    (m.outbound dep).isSome ∧ ∀ kind, a.applied kind dep = none := by
  simp only [graph] at h
  split at h
  · cases h
  split at h
  · cases h
  next hfound =>
    split at h
    · cases h
    next happlied =>
      simp only [Bool.or_eq_true, not_or, Bool.not_eq_true, Option.isSome_eq_false_iff,
        Option.isNone_iff_eq_none] at happlied
      refine ⟨by simpa [Option.isSome_iff_ne_none] using hfound, fun kind => ?_⟩
      cases kind
      · exact happlied.1
      · exact happlied.2

lemma orderNodes_ok (h : orderNodes a m u = .ok (nodes, ordered)) : ∃ tags,
    collectNodes a.providerTag u = .ok nodes ∧
      (graph a m nodes).order (nodes.length + 1) (nodes.map (·.tag)) = .ok tags ∧
      ordered = tags.filterMap (lookup nodes) := by
  unfold orderNodes at h
  cases hc : collectNodes a.providerTag u with
  | error e => rw [hc] at h; cases h
  | ok nodes' =>
    rw [hc] at h
    cases ho : (graph a m nodes').order (nodes'.length + 1) (nodes'.map (·.tag)) with
    | error e => simp only [ho, bind, Except.bind] at h; cases h
    | ok tags =>
      simp only [ho, bind, Except.bind, pure, Except.pure, Except.ok.injEq, Prod.mk.injEq] at h
      obtain ⟨rfl, rfl⟩ := h
      exact ⟨tags, rfl, ho, rfl⟩

lemma orderNodes_checked (h : orderNodes a m u = .ok (nodes, ordered)) : Checked a m nodes ordered := by
  obtain ⟨tags, hc, ho, rfl⟩ := orderNodes_ok h
  have hn := collectNodes_nodup hc
  obtain ⟨hsorted, hall⟩ := order_sorted ho
  have hsub := order_subset (fun _ => graph_inside_true) ho
  have hmap := map_filterMap_lookup hsub
  refine ⟨hn, by rw [hmap]; exact hsorted.nodup, fun node => ⟨fun hmem => ?_, fun hmem => ?_⟩, ?_⟩
  · obtain ⟨tag, -, htag⟩ := mem_filterMap.1 hmem
    exact (lookup_some htag).1
  · exact mem_filterMap.2 ⟨node.tag, hall _ (mem_map_of_mem hmem), lookup_of_mem hn hmem⟩
  intro node hmem dep hdep
  obtain ⟨before, behind, hsplit⟩ := append_of_mem (hall node.tag (mem_map_of_mem hmem))
  have hsettled := hsorted.after before node.tag behind hsplit dep
    (by simpa [graph, lookup_of_mem hn hmem] using hdep)
  rcases hsettled with hin | hout
  · exact .inl (hsub (hsplit ▸ mem_append_left _ hin))
  · exact .inr (graph_inside_false hout)

lemma orderNodes_ne_exhausted : orderNodes a m u ≠ .error .exhausted := by
  intro h
  unfold orderNodes at h
  cases hc : collectNodes a.providerTag u with
  | error e =>
    rw [hc] at h
    obtain rfl : e = .exhausted := Except.error.inj h
    obtain ⟨node, -, nodes, hf⟩ := DepthFirst.foldlM_error hc
    split at hf <;> cases hf
  | ok nodes =>
    rw [hc] at h
    cases ho : (graph a m nodes).order (nodes.length + 1) (nodes.map (·.tag)) with
    | ok tags => simp [ho, bind, Except.bind, pure, Except.pure] at h
    | error e =>
      simp only [ho, bind, Except.bind] at h
      obtain rfl : e = .exhausted := Except.error.inj h
      rw [← length_map (fun node : UpdateNode => node.tag)] at ho
      refine order_ne_exhausted (fun _ => graph_inside_true) (fun dep hdep => ?_) (fun _ heq => by cases heq) ho
      simp only [graph] at hdep
      split at hdep
      · cases hdep
      split at hdep
      · cases hdep
      · split at hdep <;> cases hdep

end Order

/-! ## The loop -/

section Loop
variable {a : Adapter} {u : Update} {s s' : Applying} {node : UpdateNode} {tag : String} {l : List UpdateNode}

/-- Two states of the loop agree about a tag. -/
structure SameAt (tag : String) (s s' : Applying) : Prop where
  manager : ∀ kind, s'.manager.nodeByTag kind tag = s.manager.nodeByTag kind tag
  applied : ∀ kind, s'.applied kind tag = s.applied kind tag
  byTag : ∀ kind, s'.byTag kind tag = s.byTag kind tag

lemma SameAt.refl (tag : String) (s : Applying) : SameAt tag s s := ⟨fun _ => rfl, fun _ => rfl, fun _ => rfl⟩

lemma SameAt.trans {s'' : Applying} (h : SameAt tag s s') (h' : SameAt tag s' s'') : SameAt tag s s'' :=
  ⟨fun k => (h'.manager k).trans (h.manager k), fun k => (h'.applied k).trans (h.applied k),
    fun k => (h'.byTag k).trans (h.byTag k)⟩

lemma update_tag_ne {β : Type} (f : Kind → String → β) (kind : Kind) {t : String} (h : tag ≠ t) (b : β) (k : Kind) :
    update f kind (update (f kind) t b) k tag = f k tag := by
  by_cases hk : k = kind
  · subst hk
    rw [update_self, update_of_ne h]
  · rw [update_of_ne hk]

@[simp] lemma update_tag_self {β : Type} (f : Kind → String → β) (kind : Kind) (t : String) (b : β) :
    update f kind (update (f kind) t b) kind t = b := by
  rw [update_self, update_self]

lemma Manager.get_eq (h : ∀ kind, m'.nodeByTag kind tag = m.nodeByTag kind tag) (kind : Kind) :
    m'.get kind tag = m.get kind tag := by
  cases kind <;> simp only [Manager.get, outbound, h]

lemma Manager.get_of_nodeByTag {node : Node} (h : m.nodeByTag kind tag = some node) :
    m.get kind tag = some node := by
  cases kind with
  | outbound =>
    rw [Manager.get, outbound, h]
    rfl
  | endpoint => exact h

lemma applyNode_other (h : tag ≠ node.tag) : SameAt tag s (applyNode a u s node) := by
  unfold applyNode
  split
  · split
    · refine ⟨fun _ => rfl, fun _ => rfl, fun k => ?_⟩
      split
      · exact update_tag_ne _ _ h _ k
      · rfl
    · exact ⟨update_tag_ne _ _ h _, update_tag_ne _ _ h _, update_tag_ne _ _ h _⟩
  · exact ⟨fun _ => rfl, fun _ => rfl, update_tag_ne _ _ h _⟩

lemma foldl_other (h : tag ∉ l.map (·.tag)) : SameAt tag s (l.foldl (applyNode a u) s) := by
  induction l generalizing s with
  | nil => exact .refl tag s
  | cons node l ih =>
    simp only [map_cons, mem_cons, not_or] at h
    exact (applyNode_other h.1).trans (ih h.2)

/-- What the loop leaves for a node. -/
inductive Outcome (a : Adapter) (u : Update) (s s' : Applying) (node : UpdateNode) : Prop where
  | kept (hr : replaces a s.manager s.applied node = false)
      (hm : s'.manager.nodeByTag node.kind node.tag = s.manager.nodeByTag node.kind node.tag)
      (ha : s'.applied node.kind node.tag = s.applied node.kind node.tag)
      (hb : s'.byTag node.kind node.tag = some (s.manager.get node.kind node.tag))
  | failed (hr : replaces a s.manager s.applied node = true) (hf : (u.fails node.tag).isSome)
      (hm : s'.manager.nodeByTag node.kind node.tag = s.manager.nodeByTag node.kind node.tag)
      (ha : s'.applied node.kind node.tag = s.applied node.kind node.tag)
      (hb : s'.byTag node.kind node.tag = if a.active node.kind node.tag then
        some (s.manager.get node.kind node.tag) else s.byTag node.kind node.tag)
  | replaced (hm : s'.manager.nodeByTag node.kind node.tag = some ⟨node.tag, node.options⟩)
      (ha : s'.applied node.kind node.tag = some node.options)
      (hb : s'.byTag node.kind node.tag = some (some ⟨node.tag, node.options⟩))

lemma applyNode_outcome : Outcome a u s (applyNode a u s node) node := by
  unfold applyNode
  cases hr : replaces a s.manager s.applied node with
  | false =>
    simp only [Bool.false_eq_true, if_false]
    exact .kept hr rfl rfl (update_tag_self _ _ _ _)
  | true =>
    simp only [if_true]
    cases hf : u.fails node.tag with
    | some err =>
      refine .failed hr (by simp [hf]) rfl rfl ?_
      dsimp only
      split
      · exact update_tag_self _ _ _ _
      · rfl
    | none =>
      exact .replaced (update_tag_self _ _ _ _) (update_tag_self _ _ _ _)
        ((update_tag_self _ _ _ _).trans (congrArg some (get_of_nodeByTag (update_tag_self _ _ _ _))))

lemma Outcome.congr {s₁ s₂ : Applying} (hs : SameAt node.tag s s₁) (h : Outcome a u s₁ s₂ node)
    (hs' : SameAt node.tag s₂ s') : Outcome a u s s' node := by
  have hget := get_eq hs.manager node.kind
  have hr : replaces a s₁.manager s₁.applied node = replaces a s.manager s.applied node := by
    simp only [replaces, hget, hs.applied]
  cases h with
  | kept hr' hm ha hb =>
    exact .kept (hr ▸ hr') ((hs'.manager _).trans (hm.trans (hs.manager _)))
      ((hs'.applied _).trans (ha.trans (hs.applied _))) ((hs'.byTag _).trans (hget ▸ hb))
  | failed hr' hf hm ha hb =>
    refine .failed (hr ▸ hr') hf ((hs'.manager _).trans (hm.trans (hs.manager _)))
      ((hs'.applied _).trans (ha.trans (hs.applied _))) ((hs'.byTag _).trans ?_)
    rw [hb, hget, hs.byTag]
  | replaced hm ha hb => exact .replaced ((hs'.manager _).trans hm) ((hs'.applied _).trans ha) ((hs'.byTag _).trans hb)

lemma foldl_outcome (hn : (l.map (·.tag)).Nodup) (h : node ∈ l) : Outcome a u s (l.foldl (applyNode a u) s) node := by
  obtain ⟨before, behind, rfl⟩ := append_of_mem h
  rw [map_append, map_cons, nodup_append, nodup_cons] at hn
  have hbefore : node.tag ∉ before.map (·.tag) := fun hmem => hn.2.2 _ hmem _ mem_cons_self rfl
  rw [foldl_append, foldl_cons]
  exact Outcome.congr (foldl_other hbefore) applyNode_outcome (foldl_other hn.2.1.1)

lemma removeUseless_nodeByTag (a : Adapter) (kind : Kind) (newTags : List String) (m : Manager) (k : Kind)
    (tag : String) : (removeUseless a kind newTags m).nodeByTag k tag =
      if k = kind ∧ a.active kind tag = true ∧ tag ∉ newTags then none else m.nodeByTag k tag := by
  have hfold (l : List Node) (m : Manager) :
      (l.foldl (fun m node => if node.tag ∈ newTags then m else m.remove kind node.tag) m).nodeByTag k tag =
        if k = kind ∧ l.any (·.tag = tag) = true ∧ tag ∉ newTags then none else m.nodeByTag k tag := by
    induction l generalizing m with
    | nil => simp
    | cons node l ih =>
      rw [foldl_cons, ih]
      by_cases hnew : node.tag ∈ newTags
      · rw [if_pos hnew]
        by_cases htag : node.tag = tag
        · subst htag
          simp [hnew]
        · simp [htag]
      rw [if_neg hnew]
      by_cases hk : k = kind
      · subst hk
        by_cases htag : node.tag = tag
        · subst htag
          simp [hnew, remove, Manager.set]
        · simp [htag, remove, Manager.set, update_of_ne (Ne.symm htag)]
      · simp [hk, remove, Manager.set]
  exact hfold (a.nodes kind) m

end Loop

/-! ## Dependencies -/

/-- A provider with the managers it registers its nodes in. -/
structure State where
  adapter : Adapter
  manager : Manager

/-- One call of `UpdateNodes`. -/
def step (s : State) (u : Update) : Option State :=
  some ⟨(updateNodes s.adapter s.manager u).2.1, (updateNodes s.adapter s.manager u).2.2⟩

/-- Each dependency of the options that a listed node runs with is registered. -/
def State.DependenciesRegistered (s : State) : Prop :=
  ∀ kind, ∀ node ∈ s.adapter.nodes kind, ∀ options ∈ s.adapter.applied kind node.tag,
    ∀ dep ∈ options.dependencies, (s.manager.outbound dep).isSome

structure Inv (a : Adapter) (m : Manager) : Prop where
  registered : ∀ kind, ∀ node ∈ a.nodes kind,
    m.nodeByTag kind node.tag = some node ∧ a.applied kind node.tag = some node.options
  dependencies : ∀ kind, ∀ node ∈ a.nodes kind, ∀ dep ∈ node.options.dependencies, (m.outbound dep).isSome

def Adapter.running (a : Adapter) (kind : Kind) (tag : String) : NodeOptions := (a.applied kind tag).getD default

/-- What an update has to spare: a node whose replacement fails and that goes on as it was keeps its
dependencies, and one that is missing then is no dependency. -/
def SafeFor (a : Adapter) (m : Manager) (u : Update) (nodes : List UpdateNode) : Prop :=
  ∀ node ∈ nodes, replaces a m a.applied node = true → (u.fails node.tag).isSome = true →
    (a.active node.kind node.tag = true → ∀ dep ∈ (a.running node.kind node.tag).dependencies,
      dep ∈ nodes.map (·.tag) ∨ a.active .outbound dep = false ∧ a.active .endpoint dep = false) ∧
    (a.active node.kind node.tag = false → ∀ other ∈ nodes,
      node.tag ∉ other.options.dependencies ∧
        (a.active other.kind other.tag = true → node.tag ∉ (a.running other.kind other.tag).dependencies))

def Safe (s : State) (u : Update) : Prop :=
  ∀ nodes ∈ (collectNodes s.adapter.providerTag u).toOption, SafeFor s.adapter s.manager u nodes

section Step
variable {a : Adapter} {m : Manager} {u : Update} {nodes ordered : List UpdateNode} {node : UpdateNode} {s : Applying}

lemma Adapter.active_iff :
    a.active kind tag = true ↔ ∃ node ∈ a.nodes kind, node.tag = tag := by
  simp [Adapter.active]

lemma Manager.outbound_isSome : (m.outbound tag).isSome ↔ ∃ kind, (m.nodeByTag kind tag).isSome := by
  unfold outbound
  constructor
  · intro h
    cases ho : m.nodeByTag .outbound tag with
    | some node => exact ⟨.outbound, by simp [ho]⟩
    | none => exact ⟨.endpoint, by simpa [ho] using h⟩
  · rintro ⟨kind, h⟩
    cases kind <;> simp [h]

/-- A node of the update that is listed afterwards runs with its new options, or goes on as it was. -/
inductive Listed (a : Adapter) (m : Manager) (u : Update) (node : UpdateNode) (x : Node) : Prop where
  | updated (h : x.options = node.options)
  | old (hx : x ∈ a.nodes node.kind) (hr : replaces a m a.applied node = true) (hf : (u.fails node.tag).isSome = true)

/-- The loop lists a node, or its replacement has failed and it was not there before. -/
lemma listed_or_missing (hi : Inv a m) (h : Outcome a u { manager := m, applied := a.applied } s node) :
    (∃ x, x.tag = node.tag ∧ s.manager.nodeByTag node.kind node.tag = some x ∧
      s.applied node.kind node.tag = some x.options ∧ s.byTag node.kind node.tag = some (some x) ∧
      Listed a m u node x) ∨
    s.byTag node.kind node.tag = none ∧ a.active node.kind node.tag = false ∧
      replaces a m a.applied node = true ∧ (u.fails node.tag).isSome = true := by
  -- an active node is the one the manager has, with the options it runs with
  have hactive (hact : a.active node.kind node.tag = true) : ∃ x ∈ a.nodes node.kind, x.tag = node.tag ∧
      m.nodeByTag node.kind node.tag = some x ∧ m.get node.kind node.tag = some x ∧
      a.applied node.kind node.tag = some x.options := by
    obtain ⟨x, hx, htag⟩ := Adapter.active_iff.1 hact
    obtain ⟨hm, ha⟩ := hi.registered node.kind x hx
    rw [htag] at hm ha
    exact ⟨x, hx, htag, hm, get_of_nodeByTag hm, ha⟩
  cases h with
  | kept hr hm ha hb =>
    simp only [replaces, Bool.or_eq_false_iff, Bool.not_eq_false', decide_eq_false_iff_not, not_not] at hr
    obtain ⟨x, hx, htag, hxm, hget, hxa⟩ := hactive hr.1.2
    refine .inl ⟨x, htag, hm.trans hxm, ha.trans hxa, hb.trans (congrArg some hget), .updated ?_⟩
    simpa [hxa] using hr.2
  | replaced hm ha hb => exact .inl ⟨⟨node.tag, node.options⟩, rfl, hm, ha, hb, .updated rfl⟩
  | failed hr hf hm ha hb =>
    cases hact : a.active node.kind node.tag with
    | true =>
      obtain ⟨x, hx, htag, hxm, hget, hxa⟩ := hactive hact
      rw [hact, if_pos rfl] at hb
      exact .inl ⟨x, htag, hm.trans hxm, ha.trans hxa, hb.trans (congrArg some hget), .old hx hr hf⟩
    | false =>
      rw [hact, if_neg (by simp)] at hb
      exact .inr ⟨hb, rfl, hr, hf⟩

lemma mem_newTags :
    tag ∈ newTags nodes kind ↔ ∃ node ∈ nodes, node.kind = kind ∧ node.tag = tag := by
  simp [newTags, and_assoc]

lemma removed_nodeByTag (k : Kind) (tag : String) : (removeUseless a .endpoint (newTags nodes .endpoint)
      (removeUseless a .outbound (newTags nodes .outbound) m)).nodeByTag k tag =
      if a.active k tag = true ∧ tag ∉ newTags nodes k then none else m.nodeByTag k tag := by
  rw [removeUseless_nodeByTag, removeUseless_nodeByTag]
  cases k <;> simp

structure Updated (a : Adapter) (m : Manager) (u : Update) (nodes : List UpdateNode) (a' : Adapter) (m' : Manager) :
    Prop where
  listed : ∀ kind, ∀ x ∈ a'.nodes kind, ∃ node ∈ nodes, node.kind = kind ∧ x.tag = node.tag ∧
    m'.nodeByTag kind x.tag = some x ∧ a'.applied kind x.tag = some x.options ∧ Listed a m u node x
  there : ∀ node ∈ nodes, (m'.nodeByTag node.kind node.tag).isSome ∨
    a.active node.kind node.tag = false ∧ replaces a m a.applied node = true ∧ (u.fails node.tag).isSome = true
  foreign : ∀ dep ∉ nodes.map (·.tag), (∀ kind, a.active kind dep = false) → (m.outbound dep).isSome →
    (m'.outbound dep).isSome

lemma updateNodes_updated (hi : Inv a m) (ho : orderNodes a m u = .ok (nodes, ordered)) :
    Updated a m u nodes (updateNodes a m u).2.1 (updateNodes a m u).2.2 := by
  have hc := orderNodes_checked ho
  rw [updateNodes, ho]
  dsimp only
  have houtcome (node : UpdateNode) (hnode : node ∈ nodes) :
      Outcome a u { manager := m, applied := a.applied } _ node :=
    foldl_outcome hc.ordered_nodup ((hc.mem node).2 hnode)
  have hsame (dep : String) (hdep : dep ∉ nodes.map (·.tag)) : SameAt dep { manager := m, applied := a.applied }
      (ordered.foldl (applyNode a u) { manager := m, applied := a.applied }) := by
    refine foldl_other fun hmem => hdep ?_
    obtain ⟨node, hnode, rfl⟩ := mem_map.1 hmem
    exact mem_map_of_mem ((hc.mem node).1 hnode)
  generalize ordered.foldl (applyNode a u) { manager := m, applied := a.applied } = s at houtcome hsame ⊢
  have hkept (node : UpdateNode) (hnode : node ∈ nodes) :
      (removeUseless a .endpoint (newTags nodes .endpoint) (removeUseless a .outbound (newTags nodes .outbound)
        s.manager)).nodeByTag node.kind node.tag = s.manager.nodeByTag node.kind node.tag := by
    rw [removed_nodeByTag, if_neg fun h => h.2 (mem_newTags.2 ⟨node, hnode, rfl, rfl⟩)]
  refine ⟨fun kind x hx => ?_, fun node hnode => ?_, fun dep hdep hnot hreg => ?_⟩
  · obtain ⟨tag, htag, hjoin⟩ := mem_filterMap.1 hx
    obtain ⟨node, hnode, rfl, rfl⟩ := mem_newTags.1 htag
    rcases listed_or_missing hi (houtcome node hnode) with ⟨x', ht, hm', ha', hb', hl⟩ | ⟨hb', -⟩
    · obtain rfl : x' = x := by simpa [hb'] using hjoin
      refine ⟨node, hnode, rfl, ht, ?_, ?_, hl⟩
      · rw [ht, hkept node hnode, hm']
      rw [ht]
      simp [hb', ha']
    · simp [hb'] at hjoin
  · rw [hkept node hnode]
    rcases listed_or_missing hi (houtcome node hnode) with ⟨x, -, hx, -⟩ | ⟨-, hmissing⟩
    · exact .inl (by rw [hx]; rfl)
    · exact .inr hmissing
  · obtain ⟨kind, hkind⟩ := outbound_isSome.1 hreg
    refine outbound_isSome.2 ⟨kind, ?_⟩
    rw [removed_nodeByTag, if_neg (by simp [hnot]), (hsame dep hdep).manager kind]
    exact hkind

lemma Inv.running (hi : Inv a m) {x : Node} (hx : x ∈ a.nodes node.kind) (ht : x.tag = node.tag) :
    a.active node.kind node.tag = true ∧ a.running node.kind node.tag = x.options := by
  refine ⟨Adapter.active_iff.2 ⟨x, hx, ht⟩, ?_⟩
  rw [Adapter.running, ← ht, (hi.registered node.kind x hx).2]
  rfl

lemma Updated.inv {a' : Adapter} (h : Updated a m u nodes a' m') (hi : Inv a m)
    (hc : Checked a m nodes ordered) (hsafe : SafeFor a m u nodes) : Inv a' m' := by
  refine ⟨fun kind x hx => ?_, fun kind x hx dep hdep => ?_⟩
  · obtain ⟨node, -, -, -, hm', ha', -⟩ := h.listed kind x hx
    exact ⟨hm', ha'⟩
  obtain ⟨node, hnode, rfl, ht, -, -, hl⟩ := h.listed kind x hx
  by_cases hin : dep ∈ nodes.map (·.tag)
  · obtain ⟨d, hd, rfl⟩ := mem_map.1 hin
    rcases h.there d hd with hthere | ⟨hact, hr, hf⟩
    · exact outbound_isSome.2 ⟨d.kind, hthere⟩
    -- the dependency is missing, but then no node depends on it
    obtain ⟨hnew, hold⟩ := (hsafe d hd hr hf).2 hact node hnode
    cases hl with
    | updated heq => exact absurd (heq ▸ hdep) hnew
    | old hxa _ _ =>
      obtain ⟨hactx, hrun⟩ := hi.running hxa ht
      exact absurd (hrun ▸ hdep) (hold hactx)
  · cases hl with
    | updated heq =>
      obtain ⟨hreg, happ⟩ := (hc.dependencies node hnode dep (heq ▸ hdep)).resolve_left hin
      refine h.foreign dep hin (fun kind => ?_) hreg
      rw [← Bool.not_eq_true, Adapter.active_iff]
      rintro ⟨y, hy, rfl⟩
      have := (hi.registered kind y hy).2
      rw [happ kind] at this
      cases this
    | old hxa hr hf =>
      obtain ⟨hactx, hrun⟩ := hi.running hxa ht
      have hkeep := ((hsafe node hnode hr hf).1 hactx dep (hrun ▸ hdep)).resolve_left hin
      refine h.foreign dep hin (fun kind => ?_) (hi.dependencies node.kind x hxa dep hdep)
      cases kind
      · exact hkeep.1
      · exact hkeep.2

lemma updateNodes_error {err : OrderError} (h : orderNodes a m u = .error err) :
    updateNodes a m u = (.error err.message, a, m) := by
  rw [updateNodes, h]

lemma step_inv (s : State) (u : Update) (s' : State) (hi : Inv s.adapter s.manager) (hsafe : Safe s u)
    (h : step s u = some s') : Inv s'.adapter s'.manager := by
  cases h
  cases ho : orderNodes s.adapter s.manager u with
  | error err =>
    rw [updateNodes_error ho]
    exact hi
  | ok found =>
    obtain ⟨nodes, ordered⟩ := found
    obtain ⟨-, hcollect, -⟩ := orderNodes_ok ho
    exact (updateNodes_updated hi ho).inv hi (orderNodes_checked ho) (hsafe nodes (by rw [hcollect]; rfl))

end Step

/-- After any safe updates every listed node finds what its running options depend on; an update that
cannot be ordered changes nothing. -/
theorem dependencies_registered (providerTag : String) (manager : Manager) (us : List Update) (s : State)
    (hsafe : Machine.Along step Safe ⟨{ providerTag }, manager⟩ us)
    (h : Machine.run step ⟨{ providerTag }, manager⟩ us = some s) : s.DependenciesRegistered ∧
      ∀ u err, orderNodes s.adapter s.manager u = .error err →
        err ≠ .exhausted ∧ updateNodes s.adapter s.manager u = (.error err.message, s.adapter, s.manager) := by
  have hi : Inv s.adapter s.manager := by
    refine Machine.run_inv (I := fun s => Inv s.adapter s.manager) step_inv ⟨fun _ node hn => ?_, fun _ node hn => ?_⟩
      hsafe h
    · cases hn
    · cases hn
  refine ⟨fun kind node hn options ho dep hdep => ?_, fun u err herr => ⟨?_, updateNodes_error herr⟩⟩
  · obtain rfl : node.options = options := by
      rw [(hi.registered kind node hn).2] at ho
      exact Option.some.inj ho
    exact hi.dependencies kind node hn dep hdep
  · rintro rfl
    exact orderNodes_ne_exhausted herr

def staticManager : Manager :=
  ⟨fun kind tag => if kind = .outbound ∧ tag = "direct" then some ⟨"direct", {}⟩ else none⟩

/-- A node `a` behind the detour `d`; then `d` goes and the new `a` cannot be started; or `a` keeps its
detour and only its settings change. -/
def behindDetour : Update :=
  { outbounds := [{ tag := "a", detour := "p/d" }, { tag := "d" }] }

def settingsChange : Update :=
  { outbounds := [{ tag := "a", detour := "p/d", settings := "new" }, { tag := "d" }]
    fails := fun tag => if tag = "p/a" then some "failed" else none }

def detourGoes : Update :=
  { outbounds := [{ tag := "a", detour := "direct" }]
    fails := fun tag => if tag = "p/a" then some "failed" else none }

def detourFails : Update :=
  { behindDetour with fails := fun tag => if tag = "p/d" then some "failed" else none }

instance (a : Adapter) (m : Manager) (u : Update) (nodes : List UpdateNode) : Decidable (SafeFor a m u nodes) :=
  inferInstanceAs (Decidable (∀ node ∈ nodes, _))

instance (s : State) (u : Update) : Decidable (Safe s u) :=
  inferInstanceAs (Decidable (∀ nodes ∈ (collectNodes s.adapter.providerTag u).toOption, _))

theorem dependencies_registered_settingsChange :
    ∃ s, Machine.run step ⟨{ providerTag := "p" }, staticManager⟩ [behindDetour, settingsChange] = some s ∧
      s.adapter.nodes .outbound = [⟨"p/a", { tag := "a", detour := "p/d" }⟩, ⟨"p/d", { tag := "d" }⟩] ∧
      s.DependenciesRegistered := by
  refine ⟨_, rfl, by decide +kernel, (dependencies_registered "p" staticManager [behindDetour, settingsChange] _ ?_ rfl).1⟩
  decide +kernel

/-- An old node goes on with a detour that the update has removed, and a new node starts with a detour
that could not be started. -/
theorem dependency_not_registered :
    ((Machine.run step ⟨{ providerTag := "p" }, staticManager⟩ [behindDetour, detourGoes]).map fun s =>
        (s.adapter.nodes .outbound, s.adapter.applied .outbound "p/a", s.manager.outbound "p/d")) =
      some ([⟨"p/a", { tag := "a", detour := "p/d" }⟩], some { tag := "a", detour := "p/d" }, none) ∧
    ((Machine.run step ⟨{ providerTag := "p" }, staticManager⟩ [detourFails]).map fun s =>
        (s.adapter.nodes .outbound, s.adapter.applied .outbound "p/a", s.manager.outbound "p/d")) =
      some ([⟨"p/a", { tag := "a", detour := "p/d" }⟩], some { tag := "a", detour := "p/d" }, none) := by
  refine ⟨?_, ?_⟩ <;> decide +kernel

end SingBox.Provider
