import NightWatch.Source.EffectClosure

/-!
What the closure analysis does along its queue: what one token, one body and one visited
function can change, the invariant of the loop, and what a clean end says about every
function that the walk enters.
-/

namespace NightWatch.Source.ClosureRuns

open Lib.JsText PhpTokens EffectVocabulary EffectClosure

theorem visitKey_inj {p q a b : JsString} (ha : '#' ∉ a) (hb : '#' ∉ b)
    (h : visitKey p a = visitKey q b) : p = q ∧ a = b := by
  have hsplit : splitLast '#' (visitKey p a) = splitLast '#' (visitKey q b) := by rw [h]
  simp only [visitKey] at hsplit
  rw [splitLast_append ha, splitLast_append hb] at hsplit
  simpa using hsplit

theorem hash_not_mem_of_isName {v : JsString} (hv : IsName v) : '#' ∉ v := by
  intro h
  have := hv '#' h
  revert this
  decide

variable {tokens : List PhpToken} {name : JsString} {k : Nat}

theorem mem_declaredNames (h : DeclaresAt tokens name k) : name ∈ declaredNames tokens := by
  induction tokens generalizing k with
  | nil => simp [DeclaresAt] at h
  | cons token rest ih =>
      cases k with
      | zero =>
          obtain ⟨hfirst, hsecond⟩ := h
          obtain rfl : token = .word functionWord := by simpa using hfirst
          cases rest with
          | nil => simp at hsecond
          | cons second rest =>
              obtain rfl : second = .word name := by simpa using hsecond
              simp [declaredNames]
      | succ k =>
          have hmem := ih (k := k) ⟨by simpa using h.1, by simpa using h.2⟩
          cases token with
          | word w =>
              cases rest with
              | nil => simp [declaredNames] at hmem
              | cons second rest =>
                  cases second <;> simp only [declaredNames] at hmem ⊢ <;> try exact hmem
                  split
                  · exact List.mem_cons_of_mem _ hmem
                  · exact hmem
          | _ => simpa [declaredNames] using hmem

theorem count_declaredNames_cons (token : PhpToken) (rest : List PhpToken) (name : JsString) :
    (declaredNames (token :: rest)).count name =
      (declaredNames rest).count name + if DeclaresAt (token :: rest) name 0 then 1 else 0 := by
  cases token with
  | word w =>
      cases rest with
      | nil => simp [declaredNames, DeclaresAt]
      | cons second rest =>
          cases second with
          | word v =>
              by_cases hw : w = functionWord
              · by_cases hv : v = name
                · simp [declaredNames, DeclaresAt, hw, hv]
                · simp [declaredNames, DeclaresAt, hw, hv]
              · simp [declaredNames, DeclaresAt, hw]
          | _ => simp [declaredNames, DeclaresAt]
  | _ => simp [declaredNames, DeclaresAt]

theorem declaresAt_unique {k' : Nat}
    (hcount : (declaredNames tokens).count name ≤ 1) (hk : DeclaresAt tokens name k)
    (hk' : DeclaresAt tokens name k') : k = k' := by
  induction tokens generalizing k k' with
  | nil => simp [DeclaresAt] at hk
  | cons token rest ih =>
      rw [count_declaredNames_cons] at hcount
      have later : ∀ {k : Nat}, DeclaresAt (token :: rest) name (k + 1) →
          DeclaresAt rest name k := fun h => ⟨by simpa using h.1, by simpa using h.2⟩
      have once : ∀ {k : Nat}, DeclaresAt (token :: rest) name 0 → ¬ DeclaresAt rest name k := by
        intro k hfirst hlater
        have := List.count_pos_iff.mpr (mem_declaredNames hlater)
        rw [if_pos hfirst] at hcount
        omega
      cases k with
      | zero =>
          cases k' with
          | zero => rfl
          | succ k' => exact absurd (later hk') (once hk)
      | succ k =>
          cases k' with
          | zero => exact absurd (later hk) (once hk')
          | succ k' => rw [ih (by omega) (later hk) (later hk')]

def sourceTokens (resolver : SourceResolver) (relativePath : JsString) : Option (List PhpToken) :=
  (resolver relativePath).bind tokenizePhp

/-- `tokens` are the file's, and `site` is a call in the body the analysis finds for
`symbol`. -/
def FoundCall (resolver : SourceResolver) (relativePath symbol : JsString)
    (tokens : List PhpToken) (site : Callsite) : Prop :=
  sourceTokens resolver relativePath = some tokens ∧
    ∃ body, findFunctionBody tokens symbol = some body ∧
      ∃ i ∈ body.indices, callsiteAt tokens i = some site

/-- What the walk follows: the entrypoints, and from each the names that the vocabulary leaves open
and the file declares once. -/
inductive Walked (resolver : SourceResolver) (entrypoints : List PhpClosureEntrypoint) :
    JsString → JsString → Prop where
  | entry {entrypoint : PhpClosureEntrypoint} (mem : entrypoint ∈ entrypoints) :
      Walked resolver entrypoints entrypoint.relativePath entrypoint.symbol
  | follow {relativePath symbol : JsString} {tokens : List PhpToken} {site : Callsite}
      (walked : Walked resolver entrypoints relativePath symbol)
      (found : FoundCall resolver relativePath symbol tokens site)
      (followed : verdict (fileFacts tokens) site = .follow) :
      Walked resolver entrypoints relativePath site.name

/-- A call that a clean walk may meet. -/
def Verdict.Passes : Verdict → Prop
  | .classified kind => kind.policy ≠ .disqualifying
  | .follow => True
  | .dynamic | .unknown => False

/-- The scan finds nothing to refuse at index `i`. -/
def Passes (facts : FileFacts) (i : Nat) : Prop :=
  (∃ token, facts.tokens[i]? = some token ∧ isDynamicAccess facts.tokens i token = false) ∧
    ∀ site, callsiteAt facts.tokens i = some site → Verdict.Passes (verdict facts site)

section Scans

@[simp] theorem not_clean_refuse (s : Walk) (code : PhpClosureRejectionCode) :
    ¬ (s.refuse code).Clean := by
  cases hcode : s.rejectionCode <;> simp [Walk.refuse, Walk.Clean, hcode]

variable {s s' : Walk} {kind : EffectKind} {i : Nat}

theorem disqualifying_record : (s.record kind).disqualifying =
      if kind.policy = .disqualifying then s.disqualifying.insert kind
      else s.disqualifying := rfl

theorem clean_record (h : (s.record kind).Clean) : s.Clean ∧ kind.policy ≠ .disqualifying := by
  obtain ⟨hcode, hkinds⟩ := h
  rw [disqualifying_record] at hkinds
  split at hkinds
  · exact absurd hkinds (List.ne_nil_of_mem (List.mem_insert_self))
  · exact ⟨⟨hcode, hkinds⟩, ‹_›⟩

structure Scanned (facts : FileFacts) (item : WorkItem) (indices : List Nat) (s s' : Walk) :
    Prop where
  visited : s'.visited = s.visited
  files : s'.files = s.files
  clean : s'.Clean → s.Clean
  queued : s.queue ⊆ s'.queue
  pushed : ∀ it ∈ s'.queue, it ∈ s.queue ∨ ∃ i ∈ indices, ∃ site,
    callsiteAt facts.tokens i = some site ∧ verdict facts site = .follow ∧
      it.relativePath = item.relativePath ∧ it.symbol = site.name
  recorded : ∀ kind ∈ s'.disqualifying, kind ∈ s.disqualifying ∨ ∃ i ∈ indices, ∃ site,
    callsiteAt facts.tokens i = some site ∧ site.kind = kind ∧ kind.policy = .disqualifying
  passes : s'.Clean → ∀ i ∈ indices, Passes facts i ∧ ∀ site,
    callsiteAt facts.tokens i = some site → verdict facts site = .follow →
      ∃ it ∈ s'.queue, it.relativePath = item.relativePath ∧ it.symbol = site.name

variable {facts : FileFacts} {item : WorkItem}

theorem scanned_nil (s : Walk) : Scanned facts item [] s s where
  visited := rfl
  files := rfl
  clean := id
  queued := List.Subset.refl _
  pushed := fun _ hit => .inl hit
  recorded := fun _ hkind => .inl hkind
  passes := by simp

theorem Scanned.append {first second : List Nat} {t u : Walk}
    (hfirst : Scanned facts item first s t) (hsecond : Scanned facts item second t u) :
    Scanned facts item (first ++ second) s u where
  visited := hsecond.visited.trans hfirst.visited
  files := hsecond.files.trans hfirst.files
  clean := fun h => hfirst.clean (hsecond.clean h)
  queued := List.Subset.trans hfirst.queued hsecond.queued
  pushed := by
    intro it hit
    rcases hsecond.pushed it hit with hit | ⟨i, hi, hsite⟩
    · rcases hfirst.pushed it hit with hit | ⟨i, hi, hsite⟩
      · exact .inl hit
      · exact .inr ⟨i, List.mem_append_left _ hi, hsite⟩
    · exact .inr ⟨i, List.mem_append_right _ hi, hsite⟩
  recorded := by
    intro kind hkind
    rcases hsecond.recorded kind hkind with hkind | ⟨i, hi, hsite⟩
    · rcases hfirst.recorded kind hkind with hkind | ⟨i, hi, hsite⟩
      · exact .inl hkind
      · exact .inr ⟨i, List.mem_append_left _ hi, hsite⟩
    · exact .inr ⟨i, List.mem_append_right _ hi, hsite⟩
  passes := by
    intro hclean i hi
    rcases List.mem_append.mp hi with hi | hi
    · obtain ⟨hpasses, hfollow⟩ := hfirst.passes (hsecond.clean hclean) i hi
      refine ⟨hpasses, fun site hsite hverdict => ?_⟩
      obtain ⟨it, hit, hnames⟩ := hfollow site hsite hverdict
      exact ⟨it, hsecond.queued hit, hnames⟩
    · exact hsecond.passes hclean i hi

variable {indices : List Nat} {site : Callsite} {token : PhpToken}

theorem scanned_of_refused (hvisited : s'.visited = s.visited)
    (hfiles : s'.files = s.files) (hqueue : s'.queue = s.queue)
    (hkinds : s'.disqualifying = s.disqualifying) (hclean : ¬ s'.Clean) :
    Scanned facts item indices s s' where
  visited := hvisited
  files := hfiles
  clean := fun h => absurd h hclean
  queued := by rw [hqueue]; exact List.Subset.refl _
  pushed := fun it hit => .inl (hqueue ▸ hit)
  recorded := fun kind hkind => .inl (hkinds ▸ hkind)
  passes := fun h => absurd h hclean

theorem scanned_of_passed (hvisited : s'.visited = s.visited)
    (hfiles : s'.files = s.files) (hqueue : s'.queue = s.queue) (hclean : s'.Clean → s.Clean)
    (hrecorded : ∀ kind ∈ s'.disqualifying, kind ∈ s.disqualifying ∨ ∃ site,
      callsiteAt facts.tokens i = some site ∧ site.kind = kind ∧ kind.policy = .disqualifying)
    (hpasses : s'.Clean → Passes facts i)
    (hfollow : ∀ site, callsiteAt facts.tokens i = some site → verdict facts site ≠ .follow) :
    Scanned facts item [i] s s' where
  visited := hvisited
  files := hfiles
  clean := hclean
  queued := by rw [hqueue]; exact List.Subset.refl _
  pushed := fun it hit => .inl (hqueue ▸ hit)
  recorded := by
    intro kind hkind
    rcases hrecorded kind hkind with hkind | ⟨site, hsite⟩
    · exact .inl hkind
    · exact .inr ⟨i, by simp, site, hsite⟩
  passes := by
    intro h j hj
    obtain rfl : j = i := by simpa using hj
    exact ⟨hpasses h, fun site hsite hverdict => absurd hverdict (hfollow site hsite)⟩

theorem kind_of_classified (h : verdict facts site = .classified kind) : site.kind = kind := by
  simp only [verdict] at h
  split_ifs at h
  simpa using h

def Scan.state : Scan → Walk
  | .next s => s
  | .leave s => s

theorem scanCall_scanned (s : Walk)
    (htoken : facts.tokens[i]? = some token) (hquiet : isDynamicAccess facts.tokens i token = false)
    (hsite : callsiteAt facts.tokens i = some site) :
    Scanned facts item [i] s (Scan.state (scanCall facts item site s)) ∧
      ∀ left, scanCall facts item site s = .leave left → ¬ left.Clean := by
  have here : ∀ {other : Callsite}, callsiteAt facts.tokens i = some other → other = site :=
    fun h => Option.some.inj (h.symm.trans hsite)
  have passed : Verdict.Passes (verdict facts site) → Passes facts i := fun h =>
    ⟨⟨token, htoken, hquiet⟩, fun other hother => here hother ▸ h⟩
  simp only [scanCall]
  split
  · refine ⟨scanned_of_refused rfl rfl rfl rfl (not_clean_refuse _ _), ?_⟩
    rintro left ⟨⟩
    exact not_clean_refuse _ _
  · refine ⟨?_, ?_⟩
    · cases hverdict : verdict facts site with
      | dynamic => exact scanned_of_refused rfl rfl rfl rfl (not_clean_refuse _ _)
      | unknown =>
          exact scanned_of_refused rfl rfl rfl
            (by simp [Walk.refuse, Walk.record, EffectKind.policy, Scan.state])
            (not_clean_refuse _ _)
      | classified kind =>
          refine scanned_of_passed rfl rfl rfl (fun h => (clean_record h).1) ?_
            (fun h => passed (hverdict ▸ (clean_record h).2))
            (fun other hother => by simp [here hother, hverdict])
          intro other hother
          simp only [Scan.state, disqualifying_record] at hother
          split at hother
          · next hpolicy =>
              rcases List.mem_insert_iff.mp hother with rfl | hother
              · exact .inr ⟨site, hsite, kind_of_classified hverdict, hpolicy⟩
              · exact .inl hother
          · exact .inl hother
      | follow =>
          simp only
          split
          · exact scanned_of_refused rfl rfl rfl rfl (not_clean_refuse _ _)
          · exact {
              visited := rfl
              files := rfl
              clean := id
              queued := List.subset_append_left _ _
              pushed := by
                intro it hit
                rcases List.mem_append.mp hit with hit | hit
                · exact .inl hit
                · obtain rfl := List.mem_singleton.mp hit
                  exact .inr ⟨i, by simp, site, hsite, hverdict, rfl, rfl⟩
              recorded := fun kind hkind => .inl hkind
              passes := by
                intro _ j hj
                obtain rfl : j = i := by simpa using hj
                refine ⟨passed (by rw [hverdict]; trivial), fun other hother _ => ?_⟩
                exact ⟨_, List.mem_append_right _ (List.mem_singleton_self _), rfl,
                  by rw [here hother]⟩ }
    · intro left hleft
      split at hleft <;> try (simp at hleft; done)
      split at hleft <;> simp at hleft

theorem scanToken_scanned (s : Walk) (htoken : facts.tokens[i]? = some token) :
    Scanned facts item [i] s (Scan.state (scanToken facts item i token s)) ∧
      ∀ left, scanToken facts item i token s = .leave left → ¬ left.Clean := by
  simp only [scanToken]
  split
  · exact ⟨scanned_of_refused rfl rfl rfl rfl (not_clean_refuse _ _), by simp⟩
  · next hquiet =>
      have hquiet : isDynamicAccess facts.tokens i token = false := by simpa using hquiet
      cases hsite : callsiteAt facts.tokens i with
      | none =>
          refine ⟨scanned_of_passed rfl rfl rfl id (fun kind hkind => .inl hkind)
            (fun _ => ⟨⟨token, htoken, hquiet⟩, by simp [hsite]⟩) (by simp [hsite]), by simp⟩
      | some site => exact scanCall_scanned s htoken hquiet hsite

theorem scanBody_scanned
    (h : scanBody facts item indices s = some s') : Scanned facts item indices s s' := by
  induction indices generalizing s with
  | nil =>
      obtain rfl : s = s' := by simpa [scanBody] using h
      exact scanned_nil s
  | cons i rest ih =>
      simp only [scanBody] at h
      split at h
      · simp at h
      · next token htoken =>
          have hscanned : Scanned facts item [i] s
              (Scan.state (scanToken facts item i token s)) := (scanToken_scanned s htoken).1
          have hleave : ∀ left, scanToken facts item i token s = .leave left → ¬ left.Clean :=
            (scanToken_scanned s htoken).2
          split at h
          · next t hnext =>
              rw [hnext] at hscanned
              exact Scanned.append hscanned (ih h)
          · next t hleft =>
              obtain rfl : t = s' := by simpa using h
              rw [hleft] at hscanned
              have hclean := hleave t hleft
              exact {
                hscanned with
                pushed := by
                  intro it hit
                  rcases hscanned.pushed it hit with hit | ⟨j, hj, hsite⟩
                  · exact .inl hit
                  · exact .inr ⟨j, List.mem_cons.mpr (.inl (by simpa using hj)), hsite⟩
                recorded := by
                  intro kind hkind
                  rcases hscanned.recorded kind hkind with hkind | ⟨j, hj, hsite⟩
                  · exact .inl hkind
                  · exact .inr ⟨j, List.mem_cons.mpr (.inl (by simpa using hj)), hsite⟩
                passes := fun h => absurd h hclean }

end Scans

section Files

variable {resolver : SourceResolver}

/-- What is kept for a file is what its text says, and after a refusal the walk is not
clean. -/
def FilesKept (resolver : SourceResolver) (s : Walk) : Prop :=
  ∀ relativePath cached, (relativePath, cached) ∈ s.files →
    (∀ facts, cached = some facts →
      ∃ tokens, sourceTokens resolver relativePath = some tokens ∧ facts = fileFacts tokens) ∧
    (s.Clean → cached ≠ none)

structure Loaded (resolver : SourceResolver) (relativePath : JsString) (s : Walk)
    (facts : Option FileFacts) (s' : Walk) : Prop where
  visited : s'.visited = s.visited
  queue : s'.queue = s.queue
  disqualifying : s'.disqualifying = s.disqualifying
  clean : s'.Clean → s.Clean
  kept : FilesKept resolver s'
  read : ∀ loaded, facts = some loaded →
    ∃ tokens, sourceTokens resolver relativePath = some tokens ∧ loaded = fileFacts tokens
  present : s'.Clean → facts ≠ none

variable {relativePath : JsString}

theorem filesKept_refused {s t : Walk} (hs : FilesKept resolver s)
    (hfiles : t.files = s.files) (code : PhpClosureRejectionCode) :
    FilesKept resolver ((t.refuse code).cache relativePath none) := by
  intro path cached hmem
  refine ⟨?_, fun hclean => absurd hclean (not_clean_refuse t code)⟩
  intro facts hfacts
  rcases List.mem_append.mp hmem with hmem | hmem
  · exact (hs path cached (hfiles ▸ hmem)).1 facts hfacts
  · obtain ⟨-, rfl⟩ := Prod.mk.inj (List.mem_singleton.mp hmem)
    simp at hfacts

theorem loaded_refused {s t : Walk} (hs : FilesKept resolver s)
    (hvisited : t.visited = s.visited) (hqueue : t.queue = s.queue)
    (hkinds : t.disqualifying = s.disqualifying) (hfiles : t.files = s.files)
    (code : PhpClosureRejectionCode) :
    Loaded resolver relativePath s none ((t.refuse code).cache relativePath none) where
  visited := hvisited
  queue := hqueue
  disqualifying := hkinds
  clean := fun h => absurd h (not_clean_refuse t code)
  kept := filesKept_refused hs hfiles code
  read := by simp
  present := fun h => absurd h (not_clean_refuse t code)

theorem mem_of_lookup {files : List (JsString × Option FileFacts)}
    {cached : Option FileFacts} (h : files.lookup relativePath = some cached) :
    (relativePath, cached) ∈ files := by
  induction files with
  | nil => simp at h
  | cons file files ih =>
      obtain ⟨path, facts⟩ := file
      rw [List.lookup_cons] at h
      split at h
      · next heq =>
          obtain rfl : facts = cached := by simpa using h
          simp [eq_of_beq heq]
      · exact List.mem_cons_of_mem _ (ih h)

theorem loadFile_loaded (relativePath : JsString) {s : Walk} (hs : FilesKept resolver s) :
    Loaded resolver relativePath s (loadFile resolver relativePath s).1
      (loadFile resolver relativePath s).2 := by
  unfold loadFile
  cases hcached : s.files.lookup relativePath with
  | some cached =>
      have hkept := hs relativePath cached (mem_of_lookup hcached)
      exact ⟨rfl, rfl, rfl, id, hs, hkept.1, hkept.2⟩
  | none =>
      simp only
      split
      · exact loaded_refused hs rfl rfl rfl rfl _
      · cases htext : resolver relativePath with
        | none => exact loaded_refused hs rfl rfl rfl rfl _
        | some sourceText =>
            simp only
            cases htokens : tokenizePhp sourceText with
            | none => exact loaded_refused hs rfl rfl rfl rfl _
            | some tokens =>
                have hsource : sourceTokens resolver relativePath = some tokens := by
                  rw [sourceTokens, htext, Option.bind_some, htokens]
                simp only
                split
                · exact loaded_refused
                    (t := { s with tokenBudget := s.tokenBudget + tokens.length }) hs
                    rfl rfl rfl rfl _
                · -- The dynamic members of the file only refuse.
                  have keep : ∀ t : Walk, t.files = s.files → (t.Clean → s.Clean) →
                      FilesKept resolver (t.cache relativePath (some (fileFacts tokens))) := by
                    intro t hfiles hclean path cached hmem
                    rcases List.mem_append.mp hmem with hmem | hmem
                    · obtain ⟨hread, hpresent⟩ := hs path cached (hfiles ▸ hmem)
                      exact ⟨hread, fun h => hpresent (hclean h)⟩
                    · obtain ⟨rfl, rfl⟩ := Prod.mk.inj (List.mem_singleton.mp hmem)
                      refine ⟨?_, by simp⟩
                      rintro facts ⟨⟩
                      exact ⟨tokens, hsource, rfl⟩
                  split
                  · exact {
                      visited := rfl, queue := rfl, disqualifying := rfl
                      clean := fun h => absurd h (not_clean_refuse _ _)
                      kept := keep _ rfl fun h => absurd h (not_clean_refuse _ _)
                      read := by
                        rintro facts ⟨⟩
                        exact ⟨tokens, hsource, rfl⟩
                      present := by simp }
                  · exact {
                      visited := rfl, queue := rfl, disqualifying := rfl, clean := id
                      kept := keep _ rfl id
                      read := by
                        rintro facts ⟨⟩
                        exact ⟨tokens, hsource, rfl⟩
                      present := by simp }

end Files

section Loop

variable {resolver : SourceResolver} {entrypoints : List PhpClosureEntrypoint}

/-- A function that has been visited or still stands in the queue. -/
def Covered (s : Walk) (relativePath symbol : JsString) : Prop :=
  visitKey relativePath symbol ∈ s.visited ∨
    ∃ it ∈ s.queue, it.relativePath = relativePath ∧ it.symbol = symbol

/-- Nothing is refused in a function's body, and what its calls lead to is covered. -/
def Done (resolver : SourceResolver) (s : Walk) (relativePath symbol : JsString) : Prop :=
  ∃ tokens body, sourceTokens resolver relativePath = some tokens ∧
    (fileFacts tokens).declarations symbol = 1 ∧
    findFunctionBody tokens symbol = some body ∧
    ∀ i ∈ body.indices, Passes (fileFacts tokens) i ∧ ∀ site,
      callsiteAt tokens i = some site → verdict (fileFacts tokens) site = .follow →
        Covered s relativePath site.name

/-- A call with a disqualifying kind in a function that the walk enters. -/
def Disqualified (resolver : SourceResolver) (entrypoints : List PhpClosureEntrypoint)
    (kind : EffectKind) : Prop :=
  ∃ relativePath symbol tokens site, Walked resolver entrypoints relativePath symbol ∧
    FoundCall resolver relativePath symbol tokens site ∧ site.kind = kind ∧
    kind.policy = .disqualifying

/-- The invariant of the loop. -/
structure Sound (resolver : SourceResolver) (entrypoints : List PhpClosureEntrypoint)
    (s : Walk) : Prop where
  files : FilesKept resolver s
  queue : ∀ it ∈ s.queue, Walked resolver entrypoints it.relativePath it.symbol
  disqualifying : ∀ kind ∈ s.disqualifying, Disqualified resolver entrypoints kind
  visited : ∀ key ∈ s.visited, ∃ relativePath symbol, key = visitKey relativePath symbol ∧
    Walked resolver entrypoints relativePath symbol ∧
    (s.Clean → Done resolver s relativePath symbol)
  roots : s.Clean → ∀ entrypoint ∈ entrypoints,
    Covered s entrypoint.relativePath entrypoint.symbol

variable {s s' : Walk} {relativePath symbol : JsString}

theorem Done.mono (h : Done resolver s relativePath symbol)
    (hcovered : ∀ {symbol}, Covered s relativePath symbol → Covered s' relativePath symbol) :
    Done resolver s' relativePath symbol := by
  obtain ⟨tokens, body, hsource, hcount, hbody, hcalls⟩ := h
  refine ⟨tokens, body, hsource, hcount, hbody, fun i hi => ?_⟩
  obtain ⟨hpasses, hfollow⟩ := hcalls i hi
  exact ⟨hpasses, fun site hsite hverdict => hcovered (hfollow site hsite hverdict)⟩

theorem Sound.skip (hs : Sound resolver entrypoints s) : Sound resolver entrypoints
      { s with queue := s.queue.dropWhile fun item => decide (item.key ∈ s.visited) } := by
  have hcovered : ∀ {relativePath symbol}, Covered s relativePath symbol →
      Covered { s with queue := s.queue.dropWhile fun item => decide (item.key ∈ s.visited) }
        relativePath symbol := by
    rintro relativePath symbol (hvisited | ⟨it, hit, hpath, hsymbol⟩)
    · exact .inl hvisited
    · rw [← List.takeWhile_append_dropWhile (p := fun item : WorkItem =>
        decide (item.key ∈ s.visited)) (l := s.queue)] at hit
      rcases List.mem_append.mp hit with hit | hit
      · have hkey := List.mem_takeWhile_imp hit
        exact .inl (by simpa [WorkItem.key, hpath, hsymbol] using hkey)
      · exact .inr ⟨it, hit, hpath, hsymbol⟩
  exact {
    files := hs.files
    queue := fun it hit => hs.queue it ((List.dropWhile_sublist _).subset hit)
    disqualifying := hs.disqualifying
    visited := by
      intro key hkey
      obtain ⟨relativePath, symbol, heq, hwalked, hdone⟩ := hs.visited key hkey
      exact ⟨relativePath, symbol, heq, hwalked, fun h => (hdone h).mono hcovered⟩
    roots := fun h entrypoint hmem => hcovered (hs.roots h entrypoint hmem) }

/-- What a visit does: the item is taken from the queue and visited, and the rest comes from
the scan of its body. -/
structure Visited (resolver : SourceResolver) (item : WorkItem) (s s' : Walk) : Prop where
  files : FilesKept resolver s'
  visited : s'.visited = s.visited ++ [item.key]
  clean : s'.Clean → s.Clean
  queued : s.queue ⊆ s'.queue
  pushed : ∀ it ∈ s'.queue, it ∈ s.queue ∨ ∃ tokens site,
    FoundCall resolver item.relativePath item.symbol tokens site ∧
      verdict (fileFacts tokens) site = .follow ∧
      it.relativePath = item.relativePath ∧ it.symbol = site.name
  recorded : ∀ kind ∈ s'.disqualifying, kind ∈ s.disqualifying ∨ ∃ tokens site,
    FoundCall resolver item.relativePath item.symbol tokens site ∧ site.kind = kind ∧
      kind.policy = .disqualifying
  done : s'.Clean → Done resolver s' item.relativePath item.symbol

theorem visited_of_refused {item : WorkItem} {t : Walk} {facts : Option FileFacts}
    (hloaded : Loaded resolver item.relativePath t facts s')
    (hvisited : t.visited = s.visited ++ [item.key]) (hqueue : t.queue = s.queue)
    (hkinds : t.disqualifying = s.disqualifying) (u : Walk) (hfiles : u.files = s'.files)
    (huv : u.visited = s'.visited) (huq : u.queue = s'.queue)
    (huk : u.disqualifying = s'.disqualifying) (hclean : ¬ u.Clean) :
    Visited resolver item s u where
  files := by
    intro path cached hmem
    exact ⟨(hloaded.kept path cached (hfiles ▸ hmem)).1, fun h => absurd h hclean⟩
  visited := by rw [huv, hloaded.visited, hvisited]
  clean := fun h => absurd h hclean
  queued := by
    rw [huq, hloaded.queue, hqueue]
    exact List.Subset.refl _
  pushed := fun it hit => .inl (by rwa [huq, hloaded.queue, hqueue] at hit)
  recorded := fun kind hkind => .inl (by rwa [huk, hloaded.disqualifying, hkinds] at hkind)
  done := fun h => absurd h hclean

theorem visit_visited {item : WorkItem} (hs : FilesKept resolver s)
    (h : visit resolver item s = some s') : Visited resolver item s s' := by
  unfold visit at h
  have hloaded : Loaded resolver item.relativePath _ _ _ :=
    loadFile_loaded item.relativePath (s := { s with
      visited := s.visited ++ [item.key]
      maxDepthReached := max s.maxDepthReached item.depth }) hs
  revert h
  generalize hload : loadFile resolver item.relativePath { s with
    visited := s.visited ++ [item.key]
    maxDepthReached := max s.maxDepthReached item.depth } = loaded at hloaded
  obtain ⟨facts, t⟩ := loaded
  intro h
  simp only [hload] at h
  cases facts with
  | none =>
      obtain rfl : t = s' := by simpa using h
      exact visited_of_refused hloaded rfl rfl rfl _ rfl rfl rfl rfl
        (fun hclean => hloaded.present hclean rfl)
  | some facts =>
      obtain ⟨tokens, hsource, rfl⟩ := hloaded.read facts rfl
      simp only at h
      split at h
      · obtain rfl := Option.some.inj h
        exact visited_of_refused hloaded rfl rfl rfl _ rfl rfl rfl rfl (not_clean_refuse _ _)
      · next hpositive =>
          split at h
          · obtain rfl := Option.some.inj h
            exact visited_of_refused hloaded rfl rfl rfl _ rfl rfl rfl rfl (not_clean_refuse _ _)
          · next hsingle =>
              split at h
              · obtain rfl := Option.some.inj h
                exact visited_of_refused hloaded rfl rfl rfl _ rfl rfl rfl rfl
                  (not_clean_refuse _ _)
              · next body hbody =>
                  have hscanned := scanBody_scanned h
                  have found : ∀ {i site}, i ∈ body.indices → callsiteAt tokens i = some site →
                      FoundCall resolver item.relativePath item.symbol tokens site :=
                    fun hi hsite => ⟨hsource, body, hbody, _, hi, hsite⟩
                  exact {
                    files := by
                      intro path cached hmem
                      rw [hscanned.files] at hmem
                      obtain ⟨hread, hpresent⟩ := hloaded.kept path cached hmem
                      exact ⟨hread, fun hclean => hpresent (hscanned.clean hclean)⟩
                    visited := hscanned.visited.trans hloaded.visited
                    clean := fun hclean => hloaded.clean (hscanned.clean hclean)
                    queued := fun it hit => hscanned.queued (hloaded.queue ▸ hit)
                    pushed := by
                      intro it hit
                      rcases hscanned.pushed it hit with hit | ⟨i, hi, site, hsite, hrest⟩
                      · exact .inl (hloaded.queue ▸ hit)
                      · exact .inr ⟨tokens, site, found hi hsite, hrest⟩
                    recorded := by
                      intro kind hkind
                      rcases hscanned.recorded kind hkind with hkind | ⟨i, hi, site, hsite, hrest⟩
                      · exact .inl (hloaded.disqualifying ▸ hkind)
                      · exact .inr ⟨tokens, site, found hi hsite, hrest⟩
                    done := by
                      intro hclean
                      refine ⟨tokens, body, hsource, by omega, hbody, fun i hi => ?_⟩
                      obtain ⟨hpasses, hfollow⟩ := hscanned.passes hclean i hi
                      exact ⟨hpasses, fun site hsite hverdict =>
                        .inr (hfollow site hsite hverdict)⟩ }

theorem Sound.visit {item : WorkItem} {rest : List WorkItem}
    (hs : Sound resolver entrypoints s) (hqueue : s.queue = item :: rest)
    (h : EffectClosure.visit resolver item { s with queue := rest } = some s') :
    Sound resolver entrypoints s' := by
  have hvisited := visit_visited (s := { s with queue := rest }) hs.files h
  have hitem : Walked resolver entrypoints item.relativePath item.symbol :=
    hs.queue item (by simp [hqueue])
  have hcovered : ∀ {relativePath symbol}, Covered s relativePath symbol →
      Covered s' relativePath symbol := by
    rintro relativePath symbol (hkey | ⟨it, hit, hpath, hsymbol⟩)
    · exact .inl (by rw [hvisited.visited]; exact List.mem_append_left _ hkey)
    · rcases List.mem_cons.mp (hqueue ▸ hit) with rfl | hit
      · refine .inl ?_
        rw [hvisited.visited, ← hpath, ← hsymbol]
        exact List.mem_append_right _ (List.mem_singleton_self _)
      · exact .inr ⟨it, hvisited.queued hit, hpath, hsymbol⟩
  exact {
    files := hvisited.files
    queue := by
      intro it hit
      rcases hvisited.pushed it hit with hit | ⟨tokens, site, hfound, hverdict, hpath, hsymbol⟩
      · exact hs.queue it (by rw [hqueue]; exact List.mem_cons_of_mem _ hit)
      · rw [hpath, hsymbol]
        exact .follow hitem hfound hverdict
    disqualifying := by
      intro kind hkind
      rcases hvisited.recorded kind hkind with hkind | ⟨tokens, site, hfound, hrest⟩
      · exact hs.disqualifying kind hkind
      · exact ⟨_, _, tokens, site, hitem, hfound, hrest⟩
    visited := by
      intro key hkey
      rw [hvisited.visited] at hkey
      rcases List.mem_append.mp hkey with hkey | hkey
      · obtain ⟨relativePath, symbol, heq, hwalked, hdone⟩ := hs.visited key hkey
        exact ⟨relativePath, symbol, heq, hwalked,
          fun hclean => (hdone (hvisited.clean hclean)).mono hcovered⟩
      · exact ⟨_, _, List.mem_singleton.mp hkey, hitem, hvisited.done⟩
    roots := fun hclean entrypoint hmem =>
      hcovered (hs.roots (hvisited.clean hclean) entrypoint hmem) }

theorem sound_of_walkFrom {remaining : Nat}
    (h : walkFrom resolver remaining s = some s') (hs : Sound resolver entrypoints s) :
    Sound resolver entrypoints s' ∧ (s'.Clean → s'.queue = []) := by
  induction remaining generalizing s with
  | zero =>
      have hskip := hs.skip
      unfold walkFrom at h
      generalize hrest : s.queue.dropWhile (fun item => decide (item.key ∈ s.visited)) = rest
        at h hskip
      cases rest with
      | nil =>
          obtain rfl := Option.some.inj h
          exact ⟨hskip, fun _ => rfl⟩
      | cons item rest =>
          obtain rfl := Option.some.inj h
          have hclean := not_clean_refuse { s with queue := rest } .declarationBudget
          refine ⟨?_, fun h => absurd h hclean⟩
          exact {
            files := fun path cached hmem =>
              ⟨(hskip.files path cached hmem).1, fun h => absurd h hclean⟩
            queue := fun it hit => hskip.queue it (List.mem_cons_of_mem _ hit)
            disqualifying := hskip.disqualifying
            visited := by
              intro key hkey
              obtain ⟨relativePath, symbol, heq, hwalked, -⟩ := hskip.visited key hkey
              exact ⟨relativePath, symbol, heq, hwalked, fun h => absurd h hclean⟩
            roots := fun h => absurd h hclean }
  | succ remaining ih =>
      have hskip := hs.skip
      unfold walkFrom at h
      generalize hrest : s.queue.dropWhile (fun item => decide (item.key ∈ s.visited)) = rest
        at h hskip
      cases rest with
      | nil =>
          obtain rfl := Option.some.inj h
          exact ⟨hskip, fun _ => rfl⟩
      | cons item rest =>
          obtain ⟨t, hvisit, hwalk⟩ := Option.bind_eq_some_iff.mp h
          exact ih hwalk (hskip.visit rfl hvisit)

theorem sound_start : Sound resolver entrypoints (startWalk entrypoints) := by
  have hqueue : (startWalk entrypoints).queue = entrypoints.map fun entrypoint =>
      ⟨entrypoint.relativePath, entrypoint.symbol, 0⟩ := by
    simp only [startWalk]
    split <;> rfl
  have hvisited : (startWalk entrypoints).visited = [] := by
    simp only [startWalk]
    split <;> rfl
  have hfiles : (startWalk entrypoints).files = [] := by
    simp only [startWalk]
    split <;> rfl
  have hkinds : (startWalk entrypoints).disqualifying = [] := by
    simp only [startWalk]
    split <;> rfl
  exact {
    files := by
      intro path cached hmem
      simp [hfiles] at hmem
    queue := by
      intro it hit
      rw [hqueue] at hit
      obtain ⟨entrypoint, hmem, rfl⟩ := List.mem_map.mp hit
      exact .entry hmem
    disqualifying := by simp [hkinds]
    visited := by simp [hvisited]
    roots := by
      intro _ entrypoint hmem
      refine .inr ⟨⟨entrypoint.relativePath, entrypoint.symbol, 0⟩, ?_, rfl, rfl⟩
      rw [hqueue]
      exact List.mem_map.mpr ⟨entrypoint, hmem, rfl⟩ }

theorem sound_final (h : finalWalk resolver entrypoints = some s) :
    Sound resolver entrypoints s ∧ (s.Clean → s.queue = []) :=
  sound_of_walkFrom h sound_start

theorem isName_of_findFunctionBody {tokens : List PhpToken}
    {body : Body} (hsource : sourceTokens resolver relativePath = some tokens)
    (hbody : findFunctionBody tokens symbol = some body) : IsName symbol := by
  obtain ⟨sourceText, -, htokens⟩ := Option.bind_eq_some_iff.mp hsource
  obtain ⟨k, hk, -⟩ := findFunctionBody_eq_some hbody
  exact isName_of_tokenizePhp htokens (List.mem_of_getElem? hk.2)

theorem done_of_visited
    (h : finalWalk resolver entrypoints = some s) (hclean : s.Clean) (hname : IsName symbol)
    (hkey : visitKey relativePath symbol ∈ s.visited) :
    Walked resolver entrypoints relativePath symbol ∧ Done resolver s relativePath symbol := by
  obtain ⟨path, other, heq, hwalked, hdone⟩ := (sound_final h).1.visited _ hkey
  have hkept := hdone hclean
  obtain ⟨tokens, body, hsource, -, hbody, -⟩ := hkept
  obtain ⟨rfl, rfl⟩ := visitKey_inj (hash_not_mem_of_isName hname)
    (hash_not_mem_of_isName (isName_of_findFunctionBody hsource hbody)) heq
  exact ⟨hwalked, hdone hclean⟩

theorem visited_of_walked (h : finalWalk resolver entrypoints = some s) (hclean : s.Clean)
    (hwalked : Walked resolver entrypoints relativePath symbol) :
    visitKey relativePath symbol ∈ s.visited := by
  obtain ⟨hsound, hqueue⟩ := sound_final h
  have visited_of_covered : ∀ {relativePath symbol}, Covered s relativePath symbol →
      visitKey relativePath symbol ∈ s.visited := by
    rintro relativePath symbol (hkey | ⟨it, hit, -⟩)
    · exact hkey
    · simp [hqueue hclean] at hit
  induction hwalked with
  | entry hmem => exact visited_of_covered (hsound.roots hclean _ hmem)
  | @follow relativePath symbol tokens site hwalked hfound hfollowed ih =>
      obtain ⟨hsource, body, hbody, i, hi, hsite⟩ := hfound
      have hname := isName_of_findFunctionBody hsource hbody
      obtain ⟨-, tokens', body', hsource', -, hbody', hcalls⟩ := done_of_visited h hclean hname ih
      obtain rfl := Option.some.inj (hsource.symm.trans hsource')
      obtain rfl := Option.some.inj (hbody.symm.trans hbody')
      exact visited_of_covered ((hcalls i hi).2 site hsite hfollowed)

end Loop

end NightWatch.Source.ClosureRuns
