import SingBox.Lib.Machine
/-!
# Remote rule-sets

`route/rule/rule_set_remote.go`: a rule-set that is fetched from a URL and kept
in a file or in the cache database. The ETag of a fetch is sent with the next
one, so that the server can answer that nothing has changed. The model keeps
beside the code's state what each URL has served, with which ETag.
-/
namespace SingBox.RemoteRuleSet
open Option Machine

abbrev Content := List UInt8

/-- `hash.MakeHash`, the hash of no content (`HashType{}`), and `sha256.Sum256` of a URL. -/
structure Hashes (HashType URLHash : Type) where
  makeHash : Content → HashType
  zero : HashType
  sum256 : String → URLHash

/-- `adapter.SavedBinary`; the hash of the URL may be missing. -/
structure SavedBinary (HashType URLHash : Type) where
  hash : HashType
  content : Content := []
  lastUpdated : Nat
  lastEtag : String
  urlHash : Option URLHash

/-- The options of a rule-set, and whether there is a cache database. -/
structure Options where
  url : String
  path : String := ""
  initialPath : String := ""
  cacheFile : Bool

/-- `RemoteRuleSet`: `loaded` is the content its rules were last made from, and `updating` the
`If-None-Match` of the request under way, empty when it has none. -/
structure RuleSet (HashType : Type) where
  options : Options
  hash : HashType
  lastEtag : String := ""
  loaded : Option Content := none
  lastUpdated : Nat := 0
  updating : Option String := none

/-- What survives a restart. -/
structure Disk (HashType URLHash : Type) where
  files : String → Option Content := fun _ => none
  record : Option (SavedBinary HashType URLHash) := none

/-- One answer of a server with status 200. -/
structure Served where
  url : String
  etag : String
  body : Content
  deriving DecidableEq

structure State (HashType URLHash : Type) where
  ruleSet : RuleSet HashType
  disk : Disk HashType URLHash
  served : List Served := []

/-- What a fetch gets: a transport error, a body with the `Etag` header (empty without one) whose
reading may fail, `304` while the body at the server is `current`, or another status. -/
inductive Response where
  | failed (err : String)
  | ok (etag : String) (body : Content) (readError : Option String)
  | notModified (current : Content)
  | otherStatus (status : String)

/-- What happens outside: the error of `loadBytes` for each content, whether the database can be read
and written, the errors of reading and writing the file (with what a failed write leaves in it), the
content of the initial file, the time of the file and the time. -/
structure Outside where
  loadError : Content → Option String := fun _ => none
  readsRecord : Bool := true
  savesRecord : Bool := true
  readError : Option String := none
  writeError : Option (String × Option Content) := none
  initialContent : Option Content := none
  modTime : Nat := 0
  now : Nat := 0

section Code
variable {HashType URLHash : Type} [DecidableEq HashType] [DecidableEq URLHash] (hashes : Hashes HashType URLHash)

/-! ## Restoring -/

section
variable (outside : Outside)

/-- The end of `loadCacheFile`. -/
def restoreContent (s : RuleSet HashType) (content : Content) (lastUpdated : Nat)
    (lastEtag : String) : Except String Bool × RuleSet HashType :=
  match outside.loadError content with
  | some err => (.error err, s)
  | none => (.ok true, { s with loaded := some content, lastUpdated, lastEtag })

section
variable (disk : Disk HashType URLHash)

/-- `LoadRuleSet`, where there is a cache database. -/
def loadRuleSet (s : RuleSet HashType) : Option (SavedBinary HashType URLHash) :=
  if s.options.cacheFile && outside.readsRecord then disk.record else none

/-- `loadCacheFile` behind the check of the URL. -/
def restoreSaved (saved : Option (SavedBinary HashType URLHash))
    (s : RuleSet HashType) : Except String Bool × RuleSet HashType :=
  if s.options.path ≠ "" then
    match outside.readError with
    | some err => (.error err, s)
    | none =>
      match disk.files s.options.path, saved with
      | none, _ => (.ok false, s)
      | some content, some saved =>
        if s.hash ≠ hashes.makeHash content then (.error "load rule-set cache file failed: validation failed", s)
        else restoreContent outside s content saved.lastUpdated saved.lastEtag
      | some content, none => restoreContent outside s content outside.modTime ""
  else
    match saved with
    | some saved =>
      if saved.content.length > 0 then restoreContent outside s saved.content saved.lastUpdated saved.lastEtag
      else (.ok false, s)
    | none => (.ok false, s)

def loadCacheFile (s : RuleSet HashType) : Except String Bool × RuleSet HashType :=
  match loadRuleSet outside disk s with
  | some saved =>
    if saved.urlHash.any (· ≠ hashes.sum256 s.options.url) then (.ok false, s)
    else restoreSaved hashes outside disk (some saved) { s with hash := saved.hash }
  | none => restoreSaved hashes outside disk none s

/-! ## Fetching -/

/-- `fetch` up to its request; a second one is refused. -/
def startFetch (s : RuleSet HashType) : Except String (RuleSet HashType) :=
  if s.updating.isSome then .error "rule-set is updating" else .ok { s with updating := some s.lastEtag }

/-- `NewRemoteRuleSet` and `StartContext`, up to the request of the first fetch if there is one. -/
def startContext (options : Options) : Except String (RuleSet HashType) :=
  if options.path ≠ "" && options.initialPath ≠ "" then
    .error "rule-set path and initial_path are mutually exclusive"
  else if options.initialPath ≠ "" && !options.cacheFile then .error "rule-set initial_path requires cache_file"
  else
    let (loaded, s) := loadCacheFile hashes outside disk { options, hash := hashes.zero }
    match loaded with
    | .ok true => .ok s
    | _ =>
      match outside.initialContent.filter fun content => (outside.loadError content).isNone with
      | some content => if options.initialPath ≠ "" then .ok { s with loaded := some content } else startFetch s
      | none => startFetch s

def saveCacheFile (s : RuleSet HashType) (content : Content) :
    Except String Unit × Disk HashType URLHash × RuleSet HashType :=
  match outside.writeError with
  | some (err, left) => (.error err, { disk with files := Function.update disk.files s.options.path left }, s)
  | none =>
    (.ok (), { disk with files := Function.update disk.files s.options.path (some content) },
      { s with hash := hashes.makeHash content })

/-- `SaveRuleSet`, where there is a cache database; its error is only logged. -/
def saveRuleSet (s : RuleSet HashType) (saved : SavedBinary HashType URLHash) : Disk HashType URLHash :=
  if s.options.cacheFile && outside.savesRecord then { disk with record := some saved } else disk

/-- `fetch` after the status 304. -/
def notModified (s : RuleSet HashType) : Except String Unit × Disk HashType URLHash × RuleSet HashType :=
  let s := { s with lastUpdated := outside.now }
  match loadRuleSet outside disk s with
  | some saved =>
    (.ok (), saveRuleSet outside disk s
      { saved with lastUpdated := outside.now, urlHash := some (hashes.sum256 s.options.url) }, s)
  | none => (.ok (), disk, s)

/-- `fetch` after a whole body with the status 200. -/
def modified (s : RuleSet HashType) (etag : String)
    (content : Content) : Except String Unit × Disk HashType URLHash × RuleSet HashType :=
  match outside.loadError content with
  | some err => (.error err, disk, s)
  | none =>
    let s := { s with
      loaded := some content
      lastEtag := if etag ≠ "" then etag else s.lastEtag
      lastUpdated := outside.now }
    let saved : SavedBinary HashType URLHash :=
      { hash := hashes.zero, lastUpdated := outside.now, lastEtag := s.lastEtag
        urlHash := some (hashes.sum256 s.options.url) }
    if s.options.path ≠ "" then
      match saveCacheFile hashes outside disk s content with
      | (.error err, disk, s) => (.error ("save rule-set cache file: " ++ err), disk, s)
      | (.ok _, disk, s) => (.ok (), saveRuleSet outside disk s { saved with hash := s.hash }, s)
    else (.ok (), saveRuleSet outside disk s { saved with content }, s)

end

/-- `fetch` from its response on. -/
def finishFetch (response : Response) (disk : Disk HashType URLHash) (s : RuleSet HashType) :
    Except String Unit × Disk HashType URLHash × RuleSet HashType :=
  match response with
  | .failed err => (.error err, disk, s)
  | .otherStatus status => (.error ("unexpected status: " ++ status), disk, s)
  | .notModified _ => notModified hashes outside disk s
  | .ok _ _ (some err) => (.error err, disk, s)
  | .ok etag body none => modified hashes outside disk s etag body

end

/-! ## Histories -/

/-- A start with the given options, a request for an update, or the response to the one under way. -/
inductive Event where
  | start (options : Options) (outside : Outside)
  | update
  | respond (response : Response) (outside : Outside)

def Response.served (url : String) : Response → List Served
  | .ok etag body _ => [⟨url, etag, body⟩]
  | _ => []

/-- One step. A start that fails, a refused update and a response nobody waits for do not happen. -/
def step (s : State HashType URLHash) : Event → Option (State HashType URLHash)
  | .start options outside =>
    (startContext hashes outside s.disk options).toOption.map fun ruleSet => { s with ruleSet }
  | .update => (startFetch s.ruleSet).toOption.map fun ruleSet => { s with ruleSet }
  | .respond response outside =>
    if s.ruleSet.updating.isSome then
      let (_, disk, ruleSet) := finishFetch hashes outside response s.disk s.ruleSet
      some {
        ruleSet := { ruleSet with updating := none }
        disk
        served := s.served ++ response.served s.ruleSet.options.url }
    else none

/-- Before the first start: nothing is loaded, the database is empty, and any files may be there. -/
def State.initial (options : Options) (files : String → Option Content) : State HashType URLHash where
  ruleSet := { options, hash := hashes.zero }
  disk := { files }

end Code

/-! ## The ETag names the content -/

section Named
variable {HashType URLHash : Type} {hashes : Hashes HashType URLHash} {served served' : List Served}
  {s : RuleSet HashType} {disk : Disk HashType URLHash} {outside : Outside}

/-- No two contents have one hash, none has that of no content, and no two URLs have one hash. -/
structure Hashes.CollisionFree (hashes : Hashes HashType URLHash) : Prop where
  makeHash : Function.Injective hashes.makeHash
  makeHash_ne_zero : ∀ content, hashes.makeHash content ≠ hashes.zero
  sum256 : Function.Injective hashes.sum256

/-- A non-empty ETag was served by the URL, with the content the rules were last loaded from. -/
def RuleSet.Named (served : List Served) (s : RuleSet HashType) : Prop :=
  s.lastEtag ≠ "" → ∃ body, s.loaded = some body ∧ ⟨s.options.url, s.lastEtag, body⟩ ∈ served

/-- The contents that can be restored with a record: its own, and those with its hash. -/
def SavedBinary.Restores (hashes : Hashes HashType URLHash) (saved : SavedBinary HashType URLHash)
    (content : Content) : Prop :=
  saved.content = content ∧ content ≠ [] ∨ saved.hash = hashes.makeHash content

/-- A record with an ETag is about what its URL served with it. -/
def SavedBinary.Named (hashes : Hashes HashType URLHash) (served : List Served)
    (saved : SavedBinary HashType URLHash) : Prop :=
  saved.lastEtag ≠ "" → ∃ url, saved.urlHash = some (hashes.sum256 url) ∧
    ∀ content, saved.Restores hashes content → ⟨url, saved.lastEtag, content⟩ ∈ served

structure Inv (hashes : Hashes HashType URLHash) (s : State HashType URLHash) : Prop where
  ruleSet : s.ruleSet.Named s.served
  record : ∀ saved ∈ s.disk.record, saved.Named hashes s.served
  request : ∀ etag ∈ s.ruleSet.updating, etag = s.ruleSet.lastEtag

lemma RuleSet.Named.mono (h : s.Named served) (hsub : served ⊆ served') : s.Named served' := fun hne => by
  obtain ⟨body, hbody, hmem⟩ := h hne
  exact ⟨body, hbody, hsub hmem⟩

lemma SavedBinary.Named.mono {saved : SavedBinary HashType URLHash} (h : saved.Named hashes served)
    (hsub : served ⊆ served') : saved.Named hashes served' := fun hne => by
  obtain ⟨url, hurl, hall⟩ := h hne
  exact ⟨url, hurl, fun content hc => hsub (hall content hc)⟩

/-! ### Restarts -/

/-- What `loadCacheFile` makes of a fresh rule-set. -/
structure Restored (served : List Served) (s : RuleSet HashType) (out : Except String Bool × RuleSet HashType) :
    Prop where
  options : out.2.options = s.options
  named : out.2.Named served
  updating : out.2.updating = none
  not_loaded : out.1 ≠ .ok true → out.2.lastEtag = ""

lemma Restored.fresh {loaded : Except String Bool} (hetag : s.lastEtag = "") (hup : s.updating = none) :
    Restored served s (loaded, s) :=
  ⟨rfl, fun hne => absurd hetag hne, hup, fun _ => hetag⟩

lemma restoreContent_restored (hetag : s.lastEtag = "") (hup : s.updating = none) {content : Content}
    {lastUpdated : Nat} {lastEtag : String} (h : lastEtag ≠ "" → ⟨s.options.url, lastEtag, content⟩ ∈ served) :
    Restored served s (restoreContent outside s content lastUpdated lastEtag) := by
  unfold restoreContent
  split
  · exact .fresh hetag hup
  · exact ⟨rfl, fun hne => ⟨content, rfl, h hne⟩, hup, fun hne => absurd rfl hne⟩

lemma loadRuleSet_some {saved : SavedBinary HashType URLHash} (h : loadRuleSet outside disk s = some saved) :
    disk.record = some saved := by
  unfold loadRuleSet at h
  split at h
  · exact h
  · cases h

variable [DecidableEq HashType] [DecidableEq URLHash]

lemma restoreSaved_restored (hetag : s.lastEtag = "") (hup : s.updating = none)
    {saved : Option (SavedBinary HashType URLHash)} (hhash : ∀ r ∈ saved, s.hash = r.hash)
    (h : ∀ r ∈ saved, r.lastEtag ≠ "" →
      ∀ content, r.Restores hashes content → ⟨s.options.url, r.lastEtag, content⟩ ∈ served) :
    Restored served s (restoreSaved hashes outside disk saved s) := by
  unfold restoreSaved
  by_cases hpath : s.options.path ≠ ""
  · rw [if_pos hpath]
    cases outside.readError with
    | some err => exact .fresh hetag hup
    | none =>
      cases disk.files s.options.path with
      | none => exact .fresh hetag hup
      | some content =>
        cases saved with
        | none => exact restoreContent_restored hetag hup fun hne => absurd rfl hne
        | some r =>
          dsimp only
          split
          · exact .fresh hetag hup
          next heq =>
            refine restoreContent_restored hetag hup fun hne => h r rfl hne content (.inr ?_)
            rw [← hhash r rfl]
            exact not_not.1 heq
  · rw [if_neg hpath]
    cases saved with
    | none => exact .fresh hetag hup
    | some r =>
      dsimp only
      split
      next hlen =>
        exact restoreContent_restored hetag hup fun hne => h r rfl hne _ (.inl ⟨rfl, List.length_pos_iff.1 hlen⟩)
      next => exact .fresh hetag hup

lemma loadCacheFile_restored (hfree : hashes.CollisionFree) (hrecord : ∀ r ∈ disk.record, r.Named hashes served)
    (hetag : s.lastEtag = "") (hup : s.updating = none) : Restored served s (loadCacheFile hashes outside disk s) := by
  unfold loadCacheFile
  split
  next saved heq =>
    split
    · exact .fresh hetag hup
    next hurl =>
      have hmem := loadRuleSet_some heq
      have hout : Restored served { s with hash := saved.hash }
          (restoreSaved hashes outside disk (some saved) { s with hash := saved.hash }) := by
        refine restoreSaved_restored (s := { s with hash := saved.hash }) hetag hup
          (fun r hr => congrArg SavedBinary.hash (some.inj hr)) fun r hr hne content hc => ?_
        cases hr
        obtain ⟨url, hu, hall⟩ := hrecord saved hmem hne
        -- the hash of the URL has been compared, so the record is of this URL
        obtain rfl : url = s.options.url := hfree.sum256 (by simpa [hu] using hurl)
        exact hall content hc
      exact { hout with }
  next => exact restoreSaved_restored hetag hup (fun _ hr => by cases hr) fun _ hr => by cases hr

lemma startFetch_ok {s' : RuleSet HashType} (h : startFetch s = .ok s') :
    s.updating = none ∧ s' = { s with updating := some s.lastEtag } := by
  unfold startFetch at h
  split at h
  · cases h
  next hup => exact ⟨by simpa using hup, (Except.ok.inj h).symm⟩

lemma startContext_named (hfree : hashes.CollisionFree) (hrecord : ∀ r ∈ disk.record, r.Named hashes served)
    {options : Options} (h : startContext hashes outside disk options = .ok s) :
    s.Named served ∧ ∀ etag ∈ s.updating, etag = s.lastEtag := by
  have hrest : Restored served { options, hash := hashes.zero }
      (loadCacheFile hashes outside disk { options, hash := hashes.zero }) :=
    loadCacheFile_restored hfree hrecord rfl rfl
  unfold startContext at h
  split at h
  · cases h
  split at h
  · cases h
  generalize loadCacheFile hashes outside disk { options, hash := hashes.zero } = out at hrest h
  obtain ⟨loaded, s₀⟩ := out
  have hdone : s₀.Named served ∧ ∀ etag ∈ s₀.updating, etag = s₀.lastEtag :=
    ⟨hrest.named, fun etag he => by rw [show s₀.updating = none from hrest.updating] at he; cases he⟩
  -- without a restored content there is no ETag, whatever is loaded instead
  have hfetch (hs : startFetch s₀ = .ok s) : s.Named served ∧ ∀ etag ∈ s.updating, etag = s.lastEtag := by
    obtain ⟨-, rfl⟩ := startFetch_ok hs
    exact ⟨hrest.named, fun etag he => (some.inj he).symm⟩
  dsimp only at h
  split at h
  · exact Except.ok.inj h ▸ hdone
  next hnot =>
    have hnone : s₀.lastEtag = "" := hrest.not_loaded fun heq => hnot heq
    split at h
    · split at h
      · rw [← Except.ok.inj h]
        exact ⟨fun hne => absurd hnone hne, hdone.2⟩
      · exact hfetch h
    · exact hfetch h

/-! ### Fetches -/

/-- What keeps the pairing: a body without an ETag comes only while there is none (or is not loaded, or
was served with the last one before), and `304` only while the database has no record of another URL. -/
def Tagged (hashes : Hashes HashType URLHash) (s : State HashType URLHash) : Event → Prop
  | .respond (.ok etag body none) outside =>
    etag ≠ "" ∨ s.ruleSet.lastEtag = "" ∨ (outside.loadError body).isSome ∨
      ⟨s.ruleSet.options.url, s.ruleSet.lastEtag, body⟩ ∈ s.served
  | .respond (.notModified _) _ =>
    s.disk.record.all (·.urlHash = some (hashes.sum256 s.ruleSet.options.url)) = true
  | _ => True

/-- What a fetch leaves: the ETag still names the content, in memory and on the disk. -/
structure Fetched (hashes : Hashes HashType URLHash) (served : List Served)
    (out : Except String Unit × Disk HashType URLHash × RuleSet HashType) : Prop where
  named : out.2.2.Named served
  record : ∀ r ∈ out.2.1.record, r.Named hashes served

lemma saveRuleSet_named {saved : SavedBinary HashType URLHash} (hrecord : ∀ r ∈ disk.record, r.Named hashes served)
    (h : saved.Named hashes served) : ∀ r ∈ (saveRuleSet outside disk s saved).record, r.Named hashes served := by
  intro r hr
  unfold saveRuleSet at hr
  split at hr
  · exact some.inj hr ▸ h
  · exact hrecord r hr

lemma notModified_fetched (hnamed : s.Named served) (hrecord : ∀ r ∈ disk.record, r.Named hashes served)
    (hurl : disk.record.all (·.urlHash = some (hashes.sum256 s.options.url)) = true) :
    Fetched hashes served (notModified hashes outside disk s) := by
  unfold notModified
  dsimp only
  split
  next saved heq =>
    refine ⟨hnamed, saveRuleSet_named hrecord ?_⟩
    have hmem := loadRuleSet_some heq
    have hsaved : saved.urlHash = some (hashes.sum256 s.options.url) := by simpa [hmem] using hurl
    exact hsaved ▸ hrecord saved hmem
  next => exact ⟨hnamed, hrecord⟩

section
variable (hfree : hashes.CollisionFree)
include hfree

lemma modified_fetched (hnamed : s.Named served)
    (hrecord : ∀ r ∈ disk.record, r.Named hashes served) {etag : String} {content : Content}
    (hserved : ⟨s.options.url, etag, content⟩ ∈ served)
    (htag : etag ≠ "" ∨ s.lastEtag = "" ∨ (outside.loadError content).isSome ∨
      ⟨s.options.url, s.lastEtag, content⟩ ∈ served) :
    Fetched hashes served (modified hashes outside disk s etag content) := by
  unfold modified
  cases hload : outside.loadError content with
  | some err => exact ⟨hnamed, hrecord⟩
  | none =>
    dsimp only
    set lastEtag := if etag ≠ "" then etag else s.lastEtag with hlast
    have hpair : lastEtag ≠ "" → ⟨s.options.url, lastEtag, content⟩ ∈ served := by
      intro hne
      by_cases he : etag ≠ ""
      · rw [hlast, if_pos he]
        exact hserved
      rw [hlast, if_neg he] at hne ⊢
      rw [hload] at htag
      exact ((htag.resolve_left he).resolve_left hne).resolve_left (by simp)
    have hloaded {h : HashType} : RuleSet.Named served
        { s with loaded := some content, lastEtag, lastUpdated := outside.now, hash := h } :=
      fun hne => ⟨content, rfl, hpair hne⟩
    split
    · unfold saveCacheFile
      cases outside.writeError with
      | some failed => exact ⟨hloaded, hrecord⟩
      | none =>
        refine ⟨hloaded, saveRuleSet_named hrecord fun hne => ⟨s.options.url, rfl, fun c hc => ?_⟩⟩
        rcases hc with ⟨rfl, hc⟩ | hc
        · exact absurd rfl hc
        · exact hfree.makeHash hc ▸ hpair hne
    · refine ⟨hloaded, saveRuleSet_named hrecord fun hne => ⟨s.options.url, rfl, fun c hc => ?_⟩⟩
      rcases hc with ⟨rfl, -⟩ | hc
      · exact hpair hne
      · exact absurd hc.symm (hfree.makeHash_ne_zero c)

lemma finishFetch_fetched {s : State HashType URLHash} (h : Inv hashes s)
    {response : Response} (htag : Tagged hashes s (.respond response outside)) :
    Fetched hashes (s.served ++ response.served s.ruleSet.options.url)
      (finishFetch hashes outside response s.disk s.ruleSet) := by
  have hsub := List.subset_append_left s.served (response.served s.ruleSet.options.url)
  have hnamed := h.ruleSet.mono hsub
  have hrecord : ∀ r ∈ s.disk.record, r.Named hashes _ := fun r hr => (h.record r hr).mono hsub
  cases response with
  | failed err | otherStatus status => exact ⟨hnamed, hrecord⟩
  | notModified current => exact notModified_fetched hnamed hrecord htag
  | ok etag body readError =>
    cases readError with
    | some err => exact ⟨hnamed, hrecord⟩
    | none =>
      refine modified_fetched hfree hnamed hrecord (List.mem_append_right _ (List.mem_singleton_self _)) ?_
      rcases htag with he | he | he | he
      · exact .inl he
      · exact .inr (.inl he)
      · exact .inr (.inr (.inl he))
      · exact .inr (.inr (.inr (hsub he)))

lemma step_inv (s : State HashType URLHash) (e : Event) (s' : State HashType URLHash)
    (h : Inv hashes s) (htag : Tagged hashes s e) (hs : step hashes s e = some s') : Inv hashes s' := by
  cases e with
  | start options outside =>
    obtain ⟨ruleSet, hstart, rfl⟩ := map_eq_some_iff.1 hs
    cases hctx : startContext hashes outside s.disk options with
    | error err => simp [hctx, Except.toOption] at hstart
    | ok found =>
      obtain rfl : found = ruleSet := by simpa [hctx, Except.toOption] using hstart
      obtain ⟨hnamed, hrequest⟩ := startContext_named hfree h.record hctx
      exact ⟨hnamed, h.record, hrequest⟩
  | update =>
    obtain ⟨ruleSet, hstart, rfl⟩ := map_eq_some_iff.1 hs
    cases hctx : startFetch s.ruleSet with
    | error err => simp [hctx, Except.toOption] at hstart
    | ok found =>
      obtain rfl : found = ruleSet := by simpa [hctx, Except.toOption] using hstart
      obtain ⟨-, rfl⟩ := startFetch_ok hctx
      exact ⟨h.ruleSet, h.record, fun etag he => (some.inj he).symm⟩
  | respond response outside =>
    simp only [step] at hs
    split at hs
    · cases hs
      have hfetched := finishFetch_fetched hfree h htag
      exact ⟨hfetched.named, hfetched.record, fun etag he => by cases he⟩
    · cases hs

end

lemma initial_inv (options : Options) (files : String → Option Content) :
    Inv hashes (.initial hashes options files) where
  ruleSet hne := absurd rfl hne
  record _ hr := some_ne_none _ hr.symm |>.elim
  request _ he := some_ne_none _ he.symm |>.elim

/-! ### The theorem -/

/-- The server answers the request under way with `304` rightly: its body is one it has served with
the ETag that was sent. -/
def State.AnswersRightly (s : State HashType URLHash) (current : Content) : Prop :=
  ∃ etag ∈ s.ruleSet.updating, etag ≠ "" ∧ ⟨s.ruleSet.options.url, etag, current⟩ ∈ s.served

def OneBody (served : List Served) : Prop :=
  ∀ x ∈ served, ∀ y ∈ served, x.url = y.url → x.etag = y.etag → x.etag ≠ "" → x.body = y.body

/-- In every history in which no body comes without an ETag once there is one, and no record of another
URL is left when nothing was modified, the last ETag names the content that is loaded; so `304` of a
right server means that its body is loaded. -/
theorem etag_names_loaded (hashes : Hashes HashType URLHash) (hfree : hashes.CollisionFree) (options : Options)
    (files : String → Option Content) (es : List Event) (s : State HashType URLHash)
    (htag : Machine.Along (step hashes) (Tagged hashes) (.initial hashes options files) es)
    (h : run (step hashes) (.initial hashes options files) es = some s) : s.ruleSet.Named s.served ∧
      ∀ current outside s', step hashes s (.respond (.notModified current) outside) = some s' →
        s.AnswersRightly current → OneBody s.served → s'.ruleSet.loaded = some current := by
  have hinv : Inv hashes s := run_inv (step_inv hfree) (initial_inv options files) htag h
  refine ⟨hinv.ruleSet, fun current outside s' hs hright hone => ?_⟩
  obtain ⟨etag, hreq, hne, hserved⟩ := hright
  obtain rfl := hinv.request etag hreq
  obtain ⟨body, hloaded, hmem⟩ := hinv.ruleSet hne
  have hbody : body = current := hone _ hmem _ hserved rfl rfl hne
  simp only [step] at hs
  split at hs
  · cases hs
    rw [← hbody, ← hloaded]
    simp only [finishFetch, notModified]
    split <;> rfl
  · cases hs

end Named

def fullHashes : Hashes (Option Content) String := ⟨some, none, id⟩

lemma fullHashes_collisionFree : fullHashes.CollisionFree :=
  ⟨some_injective _, fun _ => some_ne_none _, Function.injective_id⟩

instance (s : State (Option Content) String) : (e : Event) → Decidable (Tagged fullHashes s e)
  | .respond (.ok _ _ none) _ => inferInstanceAs (Decidable (_ ∨ _ ∨ _ ∨ _))
  | .respond (.notModified _) _ => inferInstanceAs (Decidable (_ = true))
  | .respond (.ok _ _ (some _)) _ | .respond (.failed _) _ | .respond (.otherStatus _) _ | .update | .start .. =>
    isTrue trivial

def inDatabase (url : String) : Options := { url, cacheFile := true }

/-- A fetch, a restart from the database, and a request for an update. -/
def fetchAndRestart : List Event :=
  [.start (inDatabase "a") {}, .respond (.ok "v1" [1] none) {}, .start (inDatabase "a") {}, .update]

theorem etag_names_loaded_restart :
    ∃ s, run (step fullHashes) (.initial fullHashes (inDatabase "a") fun _ => none) fetchAndRestart = some s ∧
      s.ruleSet.lastEtag = "v1" ∧ s.ruleSet.Named s.served ∧
      ∃ s', step fullHashes s (.respond (.notModified [1]) {}) = some s' ∧ s'.ruleSet.loaded = some [1] := by
  obtain ⟨s, hs⟩ : ∃ s, run (step fullHashes) (.initial fullHashes (inDatabase "a") fun _ => none)
    fetchAndRestart = some s := ⟨_, rfl⟩
  obtain ⟨hnamed, hright⟩ := etag_names_loaded fullHashes fullHashes_collisionFree (inDatabase "a") (fun _ => none)
    fetchAndRestart s (by decide +kernel) hs
  cases hs
  refine ⟨_, rfl, rfl, hnamed, _, rfl, hright [1] {} _ rfl ⟨"v1", rfl, by decide, by decide⟩ ?_⟩
  intro x hx y hy _ _ _
  rw [List.mem_singleton.1 hx, List.mem_singleton.1 hy]

/-- The second body comes without an ETag: the ETag of the first one stays, and when the server is back
at the first body it says that nothing has changed. -/
def withoutEtag : List Event :=
  [.start (inDatabase "a") {}, .respond (.ok "v1" [1] none) {}, .update, .respond (.ok "" [2] none) {}, .update]

/-- The URL changes and its first content cannot be saved: after `304` the record of the old URL
belongs to the new one. -/
def otherRecord : List Event :=
  [.start (inDatabase "a") {}, .respond (.ok "v1" [1] none) {}, .start (inDatabase "b") {},
    .respond (.ok "w1" [2] none) { savesRecord := false }, .update, .respond (.notModified [2]) {},
    .start (inDatabase "b") {}]

theorem etag_names_other_content :
    ((run (step fullHashes) (.initial fullHashes (inDatabase "a") fun _ => none) withoutEtag).map fun s =>
        (s.ruleSet.lastEtag, s.ruleSet.loaded, s.served)) = some ("v1", some [2], [⟨"a", "v1", [1]⟩, ⟨"a", "", [2]⟩]) ∧
    ((run (step fullHashes) (.initial fullHashes (inDatabase "a") fun _ => none)
        (withoutEtag ++ [.respond (.notModified [1]) {}])).map (·.ruleSet.loaded)) = some (some [2]) ∧
    ((run (step fullHashes) (.initial fullHashes (inDatabase "a") fun _ => none) otherRecord).map fun s =>
        (s.ruleSet.options.url, s.ruleSet.lastEtag, s.ruleSet.loaded, s.served)) =
      some ("b", "v1", some [1], [⟨"a", "v1", [1]⟩, ⟨"b", "w1", [2]⟩]) := by
  refine ⟨?_, ?_, ?_⟩ <;> decide +kernel

end SingBox.RemoteRuleSet
