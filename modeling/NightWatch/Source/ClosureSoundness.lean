import NightWatch.Source.ClosureRuns

/-!
What an effect closure proof says about every function that can be reached by calls within
a file. The analysis consults the vocabulary before the declarations of the file, and so
passes over a function that is declared under a word of the vocabulary.
-/

namespace NightWatch.Source.ClosureSoundness

open Lib.JsText PhpTokens EffectVocabulary EffectClosure ClosureRuns Relation

structure PhpFunction where
  relativePath : JsString
  declaration : Nat

/-- `site` is a call in the body of `f`, in a file with these tokens. -/
def HasCall (resolver : SourceResolver) (f : PhpFunction) (tokens : List PhpToken)
    (site : Callsite) : Prop :=
  sourceTokens resolver f.relativePath = some tokens ∧
    ∃ body, bodyAt tokens f.declaration = some body ∧
      ∃ i ∈ body.indices, callsiteAt tokens i = some site

/-- `g` is declared in the file of `f` under a name that is called in the body of `f`. -/
def Calls (resolver : SourceResolver) (f g : PhpFunction) : Prop :=
  g.relativePath = f.relativePath ∧
    ∃ tokens site, HasCall resolver f tokens site ∧ DeclaresAt tokens site.name g.declaration

def IsEntrypoint (resolver : SourceResolver) (entrypoints : List PhpClosureEntrypoint)
    (f : PhpFunction) : Prop :=
  ∃ entrypoint ∈ entrypoints, entrypoint.relativePath = f.relativePath ∧
    ∃ tokens, sourceTokens resolver f.relativePath = some tokens ∧
      DeclaresAt tokens entrypoint.symbol f.declaration

/-- The least set that holds the entrypoints and whatever its members call in their files. -/
def InClosure (resolver : SourceResolver) (entrypoints : List PhpClosureEntrypoint)
    (f : PhpFunction) : Prop :=
  ∃ root, IsEntrypoint resolver entrypoints root ∧ ReflTransGen (Calls resolver) root f

/-- The effect kind of a call disqualifies, or it is dynamic dispatch, or its callee is unknown: the
vocabulary leaves it open and the file does not declare it once. -/
def IsUnsafe (tokens : List PhpToken) (site : Callsite) : Prop :=
  site.isDynamic = true ∨ site.kind.policy = .disqualifying ∨
    (site.kind = .unclassified ∧
      ¬ (site.construction = false ∧ (fileFacts tokens).declarations site.name = 1))

def ReadOnly (resolver : SourceResolver) (f : PhpFunction) : Prop :=
  ∀ tokens site, HasCall resolver f tokens site → ¬ IsUnsafe tokens site

/-- A proof of pure reads covers the whole closure, and a decided effect is in it. -/
def ProofHolds (resolver : SourceResolver) (entrypoints : List PhpClosureEntrypoint) : Prop :=
  ∀ proof, analyzePhpEffectClosure resolver entrypoints = some proof →
    (proof.state = .pureReadProven → ∀ f, InClosure resolver entrypoints f → ReadOnly resolver f) ∧
    (proof.state = .effectful → ∃ f tokens site, InClosure resolver entrypoints f ∧
      HasCall resolver f tokens site ∧ site.kind.policy = .disqualifying)

/-- A function declared in a file that the walk enters, called there under a word that the
vocabulary takes for a read. -/
def PassedOver (resolver : SourceResolver) (entrypoints : List PhpClosureEntrypoint)
    (g : PhpFunction) : Prop :=
  ∃ symbol tokens site, Walked resolver entrypoints g.relativePath symbol ∧
    FoundCall resolver g.relativePath symbol tokens site ∧
    site.kind.policy = .admissible ∧ DeclaresAt tokens site.name g.declaration

/-- Whatever is reached through a function that the walk passes over is read-only. -/
def PassedOverReadOnly (resolver : SourceResolver)
    (entrypoints : List PhpClosureEntrypoint) : Prop :=
  ∀ g, PassedOver resolver entrypoints g →
    ∀ f, ReflTransGen (Calls resolver) g f → ReadOnly resolver f

variable {resolver : SourceResolver} {entrypoints : List PhpClosureEntrypoint}
  {tokens : List PhpToken} {site : Callsite} {relativePath symbol : JsString} {facts : FileFacts}

theorem FoundCall.hasCall (h : FoundCall resolver relativePath symbol tokens site) :
    ∃ k, DeclaresAt tokens symbol k ∧ HasCall resolver ⟨relativePath, k⟩ tokens site := by
  obtain ⟨hsource, body, hbody, hsite⟩ := h
  obtain ⟨k, hk, hbodyAt⟩ := findFunctionBody_eq_some hbody
  exact ⟨k, hk, hsource, body, hbodyAt, hsite⟩

theorem inClosure_of_walked {k : Nat} (h : Walked resolver entrypoints relativePath symbol)
    (hsource : sourceTokens resolver relativePath = some tokens)
    (hk : DeclaresAt tokens symbol k) : InClosure resolver entrypoints ⟨relativePath, k⟩ := by
  induction h generalizing tokens k with
  | entry hmem => exact ⟨_, ⟨_, hmem, rfl, tokens, hsource, hk⟩, .refl⟩
  | @follow relativePath symbol tokens' site hwalked hfound hfollowed ih =>
      obtain ⟨k', hk', hcall⟩ := FoundCall.hasCall hfound
      obtain rfl := Option.some.inj (hsource.symm.trans hcall.1)
      obtain ⟨root, hroot, hpath⟩ := ih hcall.1 hk'
      exact ⟨root, hroot, hpath.tail ⟨rfl, tokens, site, hcall, hk⟩⟩

theorem admissible_or_follow (h : Verdict.Passes (verdict facts site)) :
    (site.isDynamic = false ∧ site.kind.policy = .admissible) ∨ verdict facts site = .follow := by
  cases hverdict : verdict facts site with
  | dynamic => simp [hverdict, Verdict.Passes] at h
  | unknown => simp [hverdict, Verdict.Passes] at h
  | follow => exact .inr rfl
  | classified kind =>
      rw [hverdict] at h
      simp only [verdict] at hverdict
      split_ifs at hverdict with hdynamic hkind
      obtain rfl : site.kind = kind := by simpa using hverdict
      refine .inl ⟨by simpa using hdynamic, ?_⟩
      revert h hkind
      cases site.kind <;> simp [Verdict.Passes, EffectKind.policy]

theorem not_isUnsafe_of_admissible
    (hdynamic : site.isDynamic = false) (hkind : site.kind.policy = .admissible) :
    ¬ IsUnsafe tokens site := by
  rintro (h | h | ⟨h, -⟩)
  · simp [hdynamic] at h
  · simp [hkind] at h
  · simp [h, EffectKind.policy] at hkind

theorem follow_iff :
    verdict facts site = .follow ↔ site.isDynamic = false ∧ site.kind = .unclassified ∧
      site.construction = false ∧ facts.declarations site.name = 1 := by
  simp only [verdict]
  split_ifs with hdynamic hkind hsingle <;> simp_all

theorem not_isUnsafe_of_follow
    (h : verdict (fileFacts tokens) site = .follow) : ¬ IsUnsafe tokens site := by
  obtain ⟨hdynamic, hkind, hsingle⟩ := follow_iff.mp h
  rintro (h | h | ⟨-, h⟩)
  · simp [hdynamic] at h
  · simp [hkind, EffectKind.policy] at h
  · exact h hsingle

/-- A function that the walk follows, by its one declaration. -/
def FollowedAt (resolver : SourceResolver) (entrypoints : List PhpClosureEntrypoint)
    (f : PhpFunction) : Prop :=
  ∃ tokens symbol, sourceTokens resolver f.relativePath = some tokens ∧
    DeclaresAt tokens symbol f.declaration ∧
    Walked resolver entrypoints f.relativePath symbol

section Clean

variable {s : Walk} (hfinal : finalWalk resolver entrypoints = some s) (hclean : s.Clean)

include hfinal hclean

variable {f : PhpFunction}

theorem passes_of_followedAt {tokens : List PhpToken} {site : Callsite}
    (hf : FollowedAt resolver entrypoints f) (hcall : HasCall resolver f tokens site) :
    Verdict.Passes (verdict (fileFacts tokens) site) ∧
      ∃ symbol, Walked resolver entrypoints f.relativePath symbol ∧
        FoundCall resolver f.relativePath symbol tokens site := by
  obtain ⟨tokens', symbol, hsource, hdeclares, hwalked⟩ := hf
  obtain rfl := Option.some.inj (hcall.1.symm.trans hsource)
  obtain ⟨sourceText, -, htokens⟩ := Option.bind_eq_some_iff.mp hsource
  have hname : IsName symbol := isName_of_tokenizePhp htokens (List.mem_of_getElem? hdeclares.2)
  obtain ⟨-, tokens', body, hsource', hcount, hbody, hcalls⟩ :=
    done_of_visited hfinal hclean hname (visited_of_walked hfinal hclean hwalked)
  obtain rfl := Option.some.inj (hsource.symm.trans hsource')
  have hbodyAt : bodyAt tokens f.declaration = some body := by
    rw [← findFunctionBody_of_unique hdeclares
      fun k' hk' => declaresAt_unique (le_of_eq hcount) hk' hdeclares]
    exact hbody
  obtain ⟨-, body', hbody', i, hi, hsite⟩ := hcall
  obtain rfl := Option.some.inj (hbodyAt.symm.trans hbody')
  exact ⟨(hcalls i hi).1.2 site hsite, symbol, hwalked, hsource, body, hbody, i, hi, hsite⟩

theorem followedAt_or_passedOver (h : InClosure resolver entrypoints f) :
    FollowedAt resolver entrypoints f ∨
      ∃ g, PassedOver resolver entrypoints g ∧ ReflTransGen (Calls resolver) g f := by
  obtain ⟨root, ⟨entrypoint, hmem, hpath, tokens, hsource, hdeclares⟩, hcalls⟩ := h
  induction hcalls with
  | refl =>
      refine .inl ⟨tokens, entrypoint.symbol, hsource, hdeclares, ?_⟩
      rw [← hpath]
      exact .entry hmem
  | @tail f g _ hstep ih =>
      rcases ih with hfollowed | ⟨passed, hpassed, hreached⟩
      · obtain ⟨hsame, tokens, site, hcall, hg⟩ := hstep
        obtain ⟨hpasses, symbol, hwalked, hfound⟩ :=
          passes_of_followedAt hfinal hclean hfollowed hcall
        rcases admissible_or_follow hpasses with ⟨-, hkind⟩ | hverdict
        · refine .inr ⟨g, ⟨symbol, tokens, site, ?_, ?_, hkind, hg⟩, .refl⟩
          · rwa [hsame]
          · rwa [hsame]
        · refine .inl ⟨tokens, site.name, ?_, hg, ?_⟩
          · rw [hsame]
            exact hcall.1
          · rw [hsame]
            exact .follow hwalked hfound hverdict
      · exact .inr ⟨passed, hpassed, hreached.tail hstep⟩

theorem readOnly_of_followedAt (hf : FollowedAt resolver entrypoints f) : ReadOnly resolver f := by
  intro tokens site hcall
  obtain ⟨hpasses, -⟩ := passes_of_followedAt hfinal hclean hf hcall
  rcases admissible_or_follow hpasses with ⟨hdynamic, hkind⟩ | hverdict
  · exact not_isUnsafe_of_admissible hdynamic hkind
  · exact not_isUnsafe_of_follow hverdict

end Clean

theorem inClosure_of_passedOver {g : PhpFunction} (h : PassedOver resolver entrypoints g) :
    InClosure resolver entrypoints g := by
  obtain ⟨symbol, tokens, site, hwalked, hfound, -, hg⟩ := h
  obtain ⟨k, hk, hcall⟩ := FoundCall.hasCall hfound
  obtain ⟨root, hroot, hpath⟩ := inClosure_of_walked hwalked hcall.1 hk
  exact ⟨root, hroot, hpath.tail ⟨rfl, tokens, site, hcall, hg⟩⟩

theorem effectful_of_disqualifying {s : Walk} (h : finalWalk resolver entrypoints = some s)
    (hkinds : s.disqualifying ≠ []) :
    ∃ f tokens site, InClosure resolver entrypoints f ∧ HasCall resolver f tokens site ∧
      site.kind.policy = .disqualifying := by
  obtain ⟨kind, hkind⟩ := List.exists_mem_of_ne_nil _ hkinds
  obtain ⟨relativePath, symbol, tokens, site, hwalked, hfound, rfl, hpolicy⟩ :=
    (sound_final h).1.disqualifying kind hkind
  obtain ⟨k, hk, hcall⟩ := FoundCall.hasCall hfound
  exact ⟨_, tokens, site, inClosure_of_walked hwalked hcall.1 hk, hcall, hpolicy⟩

theorem proof_holds_iff_passed_over_read_only (resolver : SourceResolver)
    (entrypoints : List PhpClosureEntrypoint) :
    (PassedOverReadOnly resolver entrypoints → ProofHolds resolver entrypoints) ∧
      ∀ proof, analyzePhpEffectClosure resolver entrypoints = some proof →
        proof.state = .pureReadProven →
          (ProofHolds resolver entrypoints ↔ PassedOverReadOnly resolver entrypoints) := by
  have holds : PassedOverReadOnly resolver entrypoints → ProofHolds resolver entrypoints := by
    intro hover proof hproof
    obtain ⟨s, hfinal, rfl⟩ := Option.map_eq_some_iff.mp hproof
    refine ⟨fun hstate f hf => ?_, fun hstate => ?_⟩
    · have hclean := Walk.state_eq_pureReadProven.mp hstate
      rcases followedAt_or_passedOver hfinal hclean hf with hfollowed | ⟨g, hg, hreached⟩
      · exact readOnly_of_followedAt hfinal hclean hfollowed
      · exact hover g hg f hreached
    · exact effectful_of_disqualifying hfinal (Walk.state_eq_effectful.mp hstate)
  refine ⟨holds, fun proof hproof hstate => ⟨fun hholds g hg f hreached => ?_, holds⟩⟩
  obtain ⟨root, hroot, hpath⟩ := inClosure_of_passedOver hg
  exact (hholds proof hproof).1 hstate f ⟨root, hroot, hpath.trans hreached⟩

def shadowedFile : JsString :=
  ("<?php class H \x7b public function read($k) \x7b return $this->getItem($k); \x7d " ++
    "public function getItem($k) \x7b return $this->deleteItem($k); \x7d \x7d").toList

def shadowedResolver : SourceResolver := fun relativePath =>
  if relativePath = "H.php".toList then some shadowedFile else none

def shadowedEntrypoints : List PhpClosureEntrypoint :=
  [⟨"H.php".toList, "read".toList, .handler⟩]

def shadowedTokens : List PhpToken := (tokenizePhp shadowedFile).getD []

theorem sourceTokens_shadowed :
    sourceTokens shadowedResolver "H.php".toList = some shadowedTokens := by decide +kernel

theorem shadowedTokens_read :
    (DeclaresAt shadowedTokens "read".toList 7 ∧ bodyAt shadowedTokens 7 = some ⟨12, 21⟩ ∧
      callsiteAt shadowedTokens 16 = some ⟨.method, false, "getItem".toList⟩) ∧
    DeclaresAt shadowedTokens "getItem".toList 23 ∧ bodyAt shadowedTokens 23 = some ⟨28, 37⟩ ∧
      callsiteAt shadowedTokens 32 = some ⟨.method, false, "deleteItem".toList⟩ := by
  decide +kernel

/-- `read` is proven pure, and what it calls in its own class deletes. -/
theorem shadowed_delete_is_proven :
    (analyzePhpEffectClosure shadowedResolver shadowedEntrypoints).map
        PhpEffectClosureProof.state = some .pureReadProven ∧
      ¬ ProofHolds shadowedResolver shadowedEntrypoints := by
  have hstate : (analyzePhpEffectClosure shadowedResolver shadowedEntrypoints).map
      PhpEffectClosureProof.state = some .pureReadProven := by decide +kernel
  refine ⟨hstate, fun hholds => ?_⟩
  obtain ⟨proof, hproof, hpure⟩ := Option.map_eq_some_iff.mp hstate
  obtain ⟨⟨hreads, hreadBody, hgetItem⟩, hgets, hgetBody, hdeleteItem⟩ := shadowedTokens_read
  have hentry : IsEntrypoint shadowedResolver shadowedEntrypoints ⟨"H.php".toList, 7⟩ :=
    ⟨_, List.mem_singleton_self _, rfl, _, sourceTokens_shadowed, hreads⟩
  have hread : HasCall shadowedResolver ⟨"H.php".toList, 7⟩ shadowedTokens
      ⟨.method, false, "getItem".toList⟩ :=
    ⟨sourceTokens_shadowed, ⟨12, 21⟩, hreadBody, 16, by decide, hgetItem⟩
  have hdelete : HasCall shadowedResolver ⟨"H.php".toList, 23⟩ shadowedTokens
      ⟨.method, false, "deleteItem".toList⟩ :=
    ⟨sourceTokens_shadowed, ⟨28, 37⟩, hgetBody, 32, by decide, hdeleteItem⟩
  have hclosure : InClosure shadowedResolver shadowedEntrypoints ⟨"H.php".toList, 23⟩ :=
    ⟨_, hentry, .single ⟨rfl, shadowedTokens, _, hread, hgets⟩⟩
  exact (hholds proof hproof).1 hpure _ hclosure _ _ hdelete (.inr (.inl (by decide +kernel)))

end NightWatch.Source.ClosureSoundness
